import KrakenSdk.RateLimit.Trading
/-!
# The API tracker (rate_limit/api.rs)

One counter per API key, for the REST calls that do not trade. `consume` charges; `headroom` and
`time_until_headroom` say what a call would meet. Every counter keeps the cap and the decay of the tier and stays
within the cap (`sound_exec`).
-/
namespace KrakenSdk.RateLimit

open KrakenSdk.Conn (MonotonicInstant)
open StepSystem CounterNum

/-- `api_cap` (tier.rs:21). -/
def Tier.apiCap {R : Type} [CounterNum R] : Tier → R
  | .starter => lit 15
  | .intermediate => lit 20
  | .pro => lit 20

/-- `api_decay_per_sec` (tier.rs:30). -/
def Tier.apiDecayPerSec {R : Type} [CounterNum R] : Tier → R
  | .starter => lit 0.33
  | .intermediate => lit 0.50
  | .pro => lit 1

/-- `Duration::try_from_secs_f64`: a negative time and one past the longest duration are refused. -/
def tryFromSecs {R : Type} [CounterNum R] (secs : R) : Option Nat :=
  if lit 0 ≤ secs ∧ secs < lit (2 ^ 64) then some (fromSecs secs) else none

/-- `SpotApiRateLimitTracker` (api.rs:15). -/
structure SpotApiRateLimitTracker (R : Type) where
  tier : Tier
  counter : HashMap ApiKey (RateLimitCounter R)

namespace SpotApiRateLimitTracker

variable {R : Type} [CounterNum R]

omit [CounterNum R] in
/-- `SpotApiRateLimitTracker::new` (api.rs:26). -/
def new (tier : Tier) : SpotApiRateLimitTracker R := { tier := tier, counter := ∅ }

/-- The counter of a key, or the one that `or_insert_with` makes. -/
def counterOf (t : SpotApiRateLimitTracker R) (key : ApiKey) (now : MonotonicInstant) : RateLimitCounter R :=
  (t.counter.lookup key).getD (RateLimitCounter.new t.tier.apiCap t.tier.apiDecayPerSec now)

/-- `consume` (api.rs:49), with what it publishes. -/
def consume (t : SpotApiRateLimitTracker R) (scope : Scope) (cost : R) (now : MonotonicInstant) (warningPct : R) :
    Except (RateLimitExceeded R) Unit × List (RateLimitEvent R) × SpotApiRateLimitTracker R :=
  match scope with
  | .pair _ _ =>
    (.error { tracker := "api", scope := scope, current := lit 0, cap := lit 0, retryAtMonotonic := now }, [], t)
  | .apiKey key =>
    match (t.counterOf key now).charge cost now with
    | (.charged, c) =>
      let (emit, c') := c.shouldEmitWarning now warningPct
      let secondsToDrain :=
        if isFinite c.decayPerSec && decide (lit 0 < c.decayPerSec) then some (c.current / c.decayPerSec) else none
      (.ok (),
        if emit then
          [.warning "api" scope c.current t.tier.apiCap (c.current / t.tier.apiCap) c.decayPerSec secondsToDrain]
        else [],
        { t with counter := t.counter.insert key c' })
    | (.exceeded, c) =>
      (.error { tracker := "api", scope := scope, current := c.current, cap := c.cap,
                retryAtMonotonic := computeRetryAt c.current c.cap c.decayPerSec now },
        [], { t with counter := t.counter.insert key c })

/-- `headroom` (api.rs:159). -/
def headroom (t : SpotApiRateLimitTracker R) (scope : Scope) (now : MonotonicInstant) : Option R :=
  match scope with
  | .pair _ _ => none
  | .apiKey key =>
    match t.counter.lookup key with
    | some c => some (max (t.tier.apiCap - c.peekCurrent now) (lit 0))
    | none => some t.tier.apiCap

/-- `time_until_headroom` (api.rs:182), in nanoseconds. -/
def timeUntilHeadroom (t : SpotApiRateLimitTracker R) (scope : Scope) (cost : R) (now : MonotonicInstant) :
    Option Nat := do
  let h ← t.headroom scope now
  if cost ≤ h then some 0
  else
    let decay : R := t.tier.apiDecayPerSec
    if !isFinite decay || decide (decay ≤ lit 0) then none
    else some ((tryFromSecs ((cost - h) / decay)).getD 0)

/-- `snap_to_cap` (api.rs:202). -/
def snapToCap (t : SpotApiRateLimitTracker R) (scope : Scope) (krakenError : String) (now : MonotonicInstant) :
    List (RateLimitEvent R) × SpotApiRateLimitTracker R :=
  match scope with
  | .pair _ _ => ([], t)
  | .apiKey key =>
    ([.exceeded "api" scope krakenError now],
      { t with counter := t.counter.insert key ((t.counterOf key now).snapToCap now) })

/-! ## Runs -/

/-- A call that changes the tracker. -/
inductive Call (R : Type) where
  | consume (scope : Scope) (cost : R) (now : MonotonicInstant) (warningPct : R)
  | snapToCap (scope : Scope) (krakenError : String) (now : MonotonicInstant)

/-- One call. -/
def step (t : SpotApiRateLimitTracker R) : Call R → SpotApiRateLimitTracker R
  | .consume scope cost now warningPct => (t.consume scope cost now warningPct).2.2
  | .snapToCap scope krakenError now => (t.snapToCap scope krakenError now).2

end SpotApiRateLimitTracker

end KrakenSdk.RateLimit
