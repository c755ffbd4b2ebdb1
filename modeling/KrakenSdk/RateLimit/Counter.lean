import Mathlib.Algebra.Order.Round
import Mathlib.Data.Rat.Floor
import KrakenSdk.Conn.Types
/-!
# The decaying counter (rate_limit/counter.rs, tier.rs, scope.rs, mod.rs)

The counter computes in `f64`. Its arithmetic is a parameter here (`CounterNum`): nothing below depends on
how a sum rounds, so what is proved of a tracker for every `R` holds of the floating-point one, and `ℚ` is
the exact instance.
-/
namespace KrakenSdk.RateLimit

open KrakenSdk.Conn (MonotonicInstant Symbol)

/-- The operations the counters use of `f64`. -/
class CounterNum (R : Type) extends Add R, Sub R, Mul R, Div R, Max R, Min R, LT R, LE R where
  decLt : DecidableLT R
  decLe : DecidableLE R
  /-- A literal of the source. -/
  lit : ℚ → R
  isNan : R → Bool
  isFinite : R → Bool
  /-- `Duration::as_secs_f64`, of nanoseconds. -/
  asSecs : Nat → R
  /-- `Duration::from_secs_f64`, to nanoseconds. -/
  fromSecs : R → Nat

attribute [reducible] CounterNum.decLt CounterNum.decLe

attribute [instance] CounterNum.decLt CounterNum.decLe

/-- Exact arithmetic. -/
instance : CounterNum ℚ where
  decLt := inferInstance
  decLe := inferInstance
  lit := id
  isNan _ := false
  isFinite _ := true
  asSecs ns := ns / 10 ^ 9
  fromSecs secs := (round (secs * 10 ^ 9)).toNat

open CounterNum

/-- `f64::clamp`. -/
def clamp {R : Type} [CounterNum R] (x lo hi : R) : R := if x < lo then lo else if hi < x then hi else x

/-! ## Tiers and scopes -/

/-- `Tier` (tier.rs:8). -/
inductive Tier where
  | starter | intermediate | pro
  deriving DecidableEq, Repr

/-- `trading_cap` (tier.rs:39). -/
def Tier.tradingCap {R : Type} [CounterNum R] : Tier → R
  | .starter => lit 60
  | .intermediate => lit 125
  | .pro => lit 180

/-- `trading_decay_per_sec` (tier.rs:48). -/
def Tier.tradingDecayPerSec {R : Type} [CounterNum R] : Tier → R
  | .starter => lit 1
  | .intermediate => lit 2.34
  | .pro => lit 3.75

/-- `ApiKey`. -/
structure ApiKey where
  text : String
  deriving DecidableEq, Repr

/-- `Scope` (scope.rs:8). -/
inductive Scope where
  | apiKey (key : ApiKey)
  | pair (key : ApiKey) (pair : Symbol)
  deriving DecidableEq, Repr

/-- `RateLimitExceeded` (mod.rs:32). -/
structure RateLimitExceeded (R : Type) where
  tracker : String
  scope : Scope
  current : R
  cap : R
  retryAtMonotonic : MonotonicInstant

/-- `MAX_RETRY_PROJECTION_SECS` (mod.rs:43). -/
def maxRetryProjectionSecs : ℚ := 86400

/-- `Duration::MAX`, in nanoseconds. -/
def durationMax : Nat := 2 ^ 64 * 10 ^ 9 - 1

/-- `compute_retry_at` (mod.rs:46). -/
def computeRetryAt {R : Type} [CounterNum R] (current cap decayPerSec : R) (now : MonotonicInstant) : MonotonicInstant :=
  if isNan decayPerSec || decide (decayPerSec ≤ lit 0) then now
  else
    let needed := max (current - (cap - lit 1)) (lit 0)
    let secs := clamp (needed / decayPerSec) (lit 0) (lit maxRetryProjectionSecs)
    min (now + fromSecs secs) durationMax

/-! ## The counter -/

/-- `WARNING_DEBOUNCE` (counter.rs:9), in nanoseconds. -/
def warningDebounce : Nat := 10 ^ 9

/-- `ChargeOutcome` (counter.rs:14). -/
inductive ChargeOutcome where
  | charged | exceeded
  deriving DecidableEq, Repr

/-- `RateLimitCounter` (counter.rs:23). -/
structure RateLimitCounter (R : Type) where
  current : R
  cap : R
  decayPerSec : R
  lastUpdated : MonotonicInstant
  lastWarningAt : Option MonotonicInstant

namespace RateLimitCounter

variable {R : Type} [CounterNum R]

/-- `RateLimitCounter::new` (counter.rs:33). -/
def new (cap decayPerSec : R) (now : MonotonicInstant) : RateLimitCounter R where
  current := lit 0
  cap := cap
  decayPerSec := decayPerSec
  lastUpdated := now
  lastWarningAt := none

/-- `should_emit_warning` (counter.rs:46): level-triggered and debounced. -/
def shouldEmitWarning (c : RateLimitCounter R) (now : MonotonicInstant) (warningPct : R) : Bool × RateLimitCounter R :=
  if c.current / c.cap < warningPct then (false, { c with lastWarningAt := none })
  else
    match c.lastWarningAt with
    | some prev =>
      if now - prev < warningDebounce then (false, c) else (true, { c with lastWarningAt := some now })
    | none => (true, { c with lastWarningAt := some now })

/-- `peek_current` (counter.rs:62): a `now` before the last update elapses nothing. -/
def peekCurrent (c : RateLimitCounter R) (now : MonotonicInstant) : R :=
  max (c.current - c.decayPerSec * asSecs (now - c.lastUpdated)) (lit 0)

/-- `charge` (counter.rs:70). -/
def charge (c : RateLimitCounter R) (cost : R) (now : MonotonicInstant) : ChargeOutcome × RateLimitCounter R :=
  let decayed := c.peekCurrent now
  if c.cap < decayed + cost then (.exceeded, { c with current := decayed, lastUpdated := max now c.lastUpdated })
  else (.charged, { c with current := decayed + cost, lastUpdated := max now c.lastUpdated })

/-- `credit` (counter.rs:85). -/
def credit (c : RateLimitCounter R) (cost : R) (now : MonotonicInstant) : RateLimitCounter R :=
  { c with current := max (c.peekCurrent now - cost) (lit 0), lastUpdated := max now c.lastUpdated }

/-- `charge_saturating` (counter.rs:92). -/
def chargeSaturating (c : RateLimitCounter R) (cost : R) (now : MonotonicInstant) : RateLimitCounter R :=
  { c with current := min (c.peekCurrent now + cost) c.cap, lastUpdated := max now c.lastUpdated }

/-- `snap_to_cap` (counter.rs:99). -/
def snapToCap (c : RateLimitCounter R) (now : MonotonicInstant) : RateLimitCounter R :=
  { c with current := c.cap, lastUpdated := max now c.lastUpdated }

end RateLimitCounter

end KrakenSdk.RateLimit
