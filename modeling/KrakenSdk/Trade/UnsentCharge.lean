import KrakenSdk.RateLimit.AdvisedWait
import KrakenSdk.Trade.Executors
/-!
# Charges of requests that were not sent (api/ws_surface/mod.rs:257-331, rest/surface.rs:204-237)

The charge of a pair is taken before the frame is posted or the form is signed. Whether the request was sent is decided
later: by the `caller_to_io` queue, by the reactor, by the signer. `send_request_costed` gives the charge back when the
queue refuses the frame; nothing else does.
-/
namespace KrakenSdk.Trade

open KrakenSdk.Conn (AuthError Json ManagedConnection MonotonicInstant Symbol)
open KrakenSdk.RateLimit
open KrakenSdk.Rest (Attempt HttpSend RestError RetryPolicy RetryReason attemptsMade classify signedPostCosted
  signedPostCostedOnce)
open StepSystem CounterNum

/-! ## Charging -/

/-- The pair a request is charged to, and its cost (`RateLimitCost::Trading`, rest/surface.rs:33). -/
structure TradingCost (R : Type) where
  key : ApiKey
  pair : Symbol
  cost : R

/-- What a charge reads of its surroundings. -/
structure ChargeEnv (R : Type) where
  now : MonotonicInstant
  warningPct : R
  clockNow : MonotonicInstant

section

variable {R : Type} [CounterNum R]

/-- The charge, and the tracker after it. -/
def charge (t : SpotTradingRateLimitTracker R) (c : TradingCost R) (env : ChargeEnv R) :
    Except (RateLimitExceeded R) Unit × SpotTradingRateLimitTracker R :=
  ((t.consume (.pair c.key c.pair) c.cost env.now env.warningPct env.clockNow).1,
    (t.consume (.pair c.key c.pair) c.cost env.now env.warningPct env.clockNow).2.2)

/-- `send_request_costed` (ws_surface/mod.rs:295) with the verdict of the queue. -/
def sendRequestCosted (t : SpotTradingRateLimitTracker R) (c : TradingCost R) (env : ChargeEnv R)
    (posted : Except PostReject Unit) : Except (RateLimitExceeded R) Unit × SpotTradingRateLimitTracker R :=
  match charge t c env with
  | (.error e, t') => (.error e, t')
  | (.ok (), t') =>
    match posted with
    | .ok () => (.ok (), t')
    | .error _ => (.ok (), t'.credit (.pair c.key c.pair) c.cost env.now)

/-- One attempt of a placement over REST, with what its charge reads. -/
structure ChargedAttempt (R : Type) where
  env : ChargeEnv R
  sign : Except AuthError Unit
  send : HttpSend

/-- The attempts of a placement, each with the verdict on its charge (surface.rs:204-237). -/
def verdicts (t : SpotTradingRateLimitTracker R) (c : TradingCost R) : List (ChargedAttempt R) → List Attempt
  | [] => []
  | a :: rest =>
    { headroom := (charge t c a.env).1.isOk, sign := a.sign, send := a.send } :: verdicts (charge t c a.env).2 c rest

/-- A request with a per-pair charge, and how it fares. -/
inductive TradingRequest (R : Type) where
  /-- Any order op over WS. -/
  | ws (env : ChargeEnv R) (w : WsMeets)
  /-- A single order or a batch over REST: every attempt is charged (executors.rs:148, 706). -/
  | placement (validateOnly : Bool) (defaultMaxAttempts : Nat) (first : ChargedAttempt R) (later : List (ChargedAttempt R))
  /-- An amend or a cancel over REST: charged once, before the first attempt (`charge_pre_send_rest`, executors.rs:58). -/
  | precharged (env : ChargeEnv R) (policy : RetryPolicy) (defaultMaxAttempts : Nat) (attempts : List Attempt)

namespace TradingRequest

/-- What its first charge reads. -/
def env : TradingRequest R → ChargeEnv R
  | .ws env _ | .precharged env .. => env
  | .placement _ _ first _ => first.env

/-- The tracker once it is resolved. -/
def tracker (t : SpotTradingRateLimitTracker R) (c : TradingCost R) : TradingRequest R → SpotTradingRateLimitTracker R
  | .ws env w => (sendRequestCosted t c env w.posted).2
  | .placement validateOnly defaultMaxAttempts first later =>
    let made := attemptsMade (placementPolicy validateOnly) defaultMaxAttempts (verdicts t c (first :: later))
    ((first :: later).take made.length).foldl (fun t a => (charge t c a.env).2) t
  | .precharged env .. => (charge t c env).2

/-- It was charged. -/
def Charged (t : SpotTradingRateLimitTracker R) (c : TradingCost R) (r : TradingRequest R) : Prop :=
  (charge t c r.env).1.isOk = true

/-- It is resolved as definitely not sent: over WS by the error of its future, over REST as no attempt it made reached
the wire. -/
def NotSent (t : SpotTradingRateLimitTracker R) (c : TradingCost R) : TradingRequest R → Prop
  | .ws _ w => ∃ e, w.recv = some (.error e) ∧ e.isDefinitelyNotSent = true
  | .placement validateOnly defaultMaxAttempts first later =>
    ∃ e, signedPostCosted (placementPolicy validateOnly) defaultMaxAttempts (verdicts t c (first :: later)) = some (.error e) ∧
      ∀ a ∈ attemptsMade (placementPolicy validateOnly) defaultMaxAttempts (verdicts t c (first :: later)), a.wired = false
  | .precharged _ policy defaultMaxAttempts attempts =>
    ∃ e, signedPostCosted policy defaultMaxAttempts attempts = some (.error e) ∧
      ∀ a ∈ attemptsMade policy defaultMaxAttempts attempts, a.wired = false

/-- The caller's queue refuses its frame, full or closed. -/
def RefusedAtQueue : TradingRequest R → Prop
  | .ws _ w => ∃ reject, w.posted = .error reject
  | _ => False

end TradingRequest

end

/-! ## What is left of a charge -/

/-- The usage of the pair reads the same, now and from then on. -/
def SameUsage (t t' : SpotTradingRateLimitTracker ℚ) (c : TradingCost ℚ) (now : MonotonicInstant) : Prop :=
  ∀ later, now ≤ later →
    (t'.counterOf (c.key, c.pair) later).peekCurrent later = (t.counterOf (c.key, c.pair) later).peekCurrent later

namespace TradingRequest

variable {t : SpotTradingRateLimitTracker ℚ} {c : TradingCost ℚ} {env : ChargeEnv ℚ}

/-- An accepted charge puts its cost on top of the counter. -/
theorem lookup_charge (h : (charge t c env).1.isOk = true) :
    ∃ warned, (charge t c env).2.inner.counter.lookup (c.key, c.pair) =
      some { ((t.counterOf (c.key, c.pair) env.now).observe env.now).add c.cost with lastWarningAt := warned } := by
  obtain ⟨counter, hstate, ⟨hcharged, -, warned, rfl⟩ | ⟨-, -, herror⟩⟩ :=
    t.consume_pair c.key c.pair c.cost env.now env.warningPct env.clockNow
  · refine ⟨warned, ?_⟩
    rw [← RateLimitCounter.charge_accepted hcharged]
    show (t.consume _ _ _ _ _).2.2.inner.counter.lookup _ = _
    rw [hstate]
    exact AList.lookup_insert _
  · have hok : (t.consume (.pair c.key c.pair) c.cost env.now env.warningPct env.clockNow).1.isOk = true := h
    rw [herror] at hok
    cases hok

/-- Reading a counter later reads the same one. -/
theorem peekCurrent_counterOf (ht : t.Sound) {now later : MonotonicInstant} (hlater : now ≤ later) (key : ScopeKey) :
    ((t.counterOf key now).observe now).peekCurrent later = (t.counterOf key later).peekCurrent later := by
  have hk : 0 ≤ (t.counterOf key now).decayPerSec := by
    rw [(ht.counterOf key now).2]
    exact (SpotTradingRateLimitTracker.tradingDecayPerSec_pos t.tier).le
  rw [RateLimitCounter.peekCurrent_observe hk hlater]
  unfold SpotTradingRateLimitTracker.counterOf
  cases t.inner.counter.lookup key with
  | some counter => rfl
  | none =>
    have hfresh : ∀ made, (t.freshCounter made).peekCurrent later = 0 := by
      intro made
      have hfall : 0 ≤ (t.freshCounter made).decay later :=
        RateLimitCounter.decay_nonneg (SpotTradingRateLimitTracker.tradingDecayPerSec_pos t.tier).le later
      rw [RateLimitCounter.peekCurrent_eq]
      refine max_eq_right ?_
      show 0 - (t.freshCounter made).decay later ≤ 0
      linarith
    exact (hfresh now).trans (hfresh later).symm

theorem add_nothing (s : RateLimitCounter ℚ) : s.add 0 = s := by
  show { s with current := s.current + 0 } = s
  rw [add_zero]

/-- At the moment of the charge. -/
theorem peekCurrent_observe_add {s : RateLimitCounter ℚ} {now : MonotonicInstant} {cost : ℚ} (hcost : 0 ≤ cost) :
    ((s.observe now).add cost).peekCurrent now = (s.observe now).current + cost := by
  have helapsed : (s.observe now).decay now = 0 := by
    have hsub : now - max now s.lastUpdated = 0 := Nat.sub_eq_zero_of_le (le_max_left now s.lastUpdated)
    show s.decayPerSec * asSecs (now - max now s.lastUpdated) = 0
    rw [hsub, asSecs_eq, Nat.cast_zero, zero_div, mul_zero]
  have hnonneg : 0 ≤ (s.observe now).current := le_max_right _ _
  rw [RateLimitCounter.peekCurrent_add, helapsed, sub_zero]
  exact max_eq_left (by linarith)

theorem sameUsage_credit (ht : t.Sound) (hcost : 0 ≤ c.cost) (h : (charge t c env).1.isOk = true) :
    SameUsage t ((charge t c env).2.credit (.pair c.key c.pair) c.cost env.now) c env.now := by
  intro later hlater
  obtain ⟨warned, hlookup⟩ := lookup_charge h
  rw [← peekCurrent_counterOf ht hlater (c.key, c.pair)]
  simp only [SpotTradingRateLimitTracker.credit, hlookup, SpotTradingRateLimitTracker.counterOf_setCounter]
  generalize t.counterOf (c.key, c.pair) env.now = s
  have hcurrent : max (((s.observe env.now).add c.cost).peekCurrent env.now - c.cost) 0 = (s.observe env.now).current := by
    rw [peekCurrent_observe_add hcost, add_sub_cancel_right]
    exact max_eq_left (le_max_right _ _)
  have hlast : max env.now (s.observe env.now).lastUpdated = (s.observe env.now).lastUpdated :=
    max_eq_right (le_max_left _ _)
  show max (max (((s.observe env.now).add c.cost).peekCurrent env.now - c.cost) 0 -
    s.decayPerSec * asSecs (later - max env.now (s.observe env.now).lastUpdated)) 0 = _
  rw [hcurrent, hlast]
  rfl

theorem sameUsage_charge_iff (ht : t.Sound) (hcost : 0 ≤ c.cost) (h : (charge t c env).1.isOk = true) :
    SameUsage t (charge t c env).2 c env.now ↔ c.cost = 0 := by
  obtain ⟨warned, hlookup⟩ := lookup_charge h
  have hcounter : ∀ later, ((charge t c env).2.counterOf (c.key, c.pair) later).peekCurrent later =
      (((t.counterOf (c.key, c.pair) env.now).observe env.now).add c.cost).peekCurrent later := by
    intro later
    unfold SpotTradingRateLimitTracker.counterOf
    rw [hlookup]
    rfl
  constructor
  · intro hsame
    have hnow := hsame env.now le_rfl
    rw [hcounter, ← peekCurrent_counterOf ht le_rfl, peekCurrent_observe_add hcost] at hnow
    have hzero := @peekCurrent_observe_add (t.counterOf (c.key, c.pair) env.now) env.now 0 le_rfl
    rw [add_nothing] at hzero
    linarith
  · intro hzero later hlater
    rw [hcounter, ← peekCurrent_counterOf ht hlater, hzero, add_nothing]

theorem tracker_posted (h : (charge t c env).1.isOk = true) :
    (sendRequestCosted t c env (.ok ())).2 = (charge t c env).2 := by
  unfold sendRequestCosted
  split
  next heq =>
    rw [heq] at h
    cases h
  next heq => rw [heq]

theorem tracker_refused (h : (charge t c env).1.isOk = true) {reject : PostReject} :
    (sendRequestCosted t c env (.error reject)).2 =
      (charge t c env).2.credit (.pair c.key c.pair) c.cost env.now := by
  unfold sendRequestCosted
  split
  next heq =>
    rw [heq] at h
    cases h
  next heq => rw [heq]

/-- What a placement retries comes in a reply of Kraken. -/
theorem kraken_of_retry {validateOnly : Bool} {err : RestError} {reason : RetryReason}
    (h : classify err (placementPolicy validateOnly) = .retry reason) : ∃ codes, err = .kraken codes := by
  cases err with
  | kraken codes => exact ⟨codes, rfl⟩
  | transport kind transient => cases validateOnly <;> cases h
  | auth e => cases validateOnly <;> cases h
  | unexpectedShape detail => cases validateOnly <;> cases h
  | rateLimit => cases validateOnly <;> cases h

theorem wired_of_kraken {a : Attempt} {codes : List String} (h : signedPostCostedOnce a = .error (.kraken codes)) :
    a.wired = true := by
  obtain ⟨headroom, sign, send⟩ := a
  cases headroom with
  | false => cases h
  | true =>
    cases sign with
    | error e => cases h
    | ok u =>
      cases send with
      | failed e written => cases h
      | responded status body => rfl
      | stalled written => cases h

/-- A placement that no attempt took to the wire makes one attempt. -/
theorem attemptsMade_of_not_wired {validateOnly : Bool} {defaultMaxAttempts : Nat} {a : Attempt} {rest : List Attempt}
    {r : Except RestError Json}
    (h : signedPostCosted (placementPolicy validateOnly) defaultMaxAttempts (a :: rest) = some r)
    (hwired : ∀ b ∈ attemptsMade (placementPolicy validateOnly) defaultMaxAttempts (a :: rest), b.wired = false) :
    (attemptsMade (placementPolicy validateOnly) defaultMaxAttempts (a :: rest)).length = 1 := by
  obtain ⟨front, b, hmade, -, hfront⟩ := Rest.attemptsMade_of_answered h
  cases front with
  | nil => rw [hmade]; rfl
  | cons b' front =>
    obtain ⟨err, reason, herror, hretry⟩ := hfront b' List.mem_cons_self
    have hnot : b'.wired = false := hwired b' (by rw [hmade]; exact List.mem_cons_self)
    obtain ⟨codes, rfl⟩ := kraken_of_retry hretry
    rw [wired_of_kraken herror] at hnot
    cases hnot

theorem tracker_placement {validateOnly : Bool} {defaultMaxAttempts : Nat} {first : ChargedAttempt ℚ}
    {later : List (ChargedAttempt ℚ)}
    (h : (attemptsMade (placementPolicy validateOnly) defaultMaxAttempts (verdicts t c (first :: later))).length = 1) :
    (placement validateOnly defaultMaxAttempts first later).tracker t c = (charge t c first.env).2 := by
  simp only [tracker, h, List.take_succ_cons, List.take_zero, List.foldl_cons, List.foldl_nil]

end TradingRequest

/-- An order posted to a connection that has not been opened. -/
def orderBeforeOpen (posted : Except PostReject Unit) : WsMeets where
  bus := true
  systemStatus := { status := "online", timestamp := "" }
  orderDeadline := none
  surface := true
  loopFailed := false
  ensured := some (.ok ())
  reqId := 7
  charged := true
  posted := posted
  calledAt := 0
  sentAt := 0
  knobs := ManagedConnection.orderEnv.knobs
  before := [⟨ManagedConnection.orderEnv, .wsRequestFrame ⟨7, "add_order", .addOrder, .obj []⟩⟩]
  wait := .goesOn []

/-- The charge of one order. -/
def orderCost : TradingCost ℚ where
  key := ⟨"key"⟩
  pair := "BTC/USD"
  cost := 1

def orderCharge : ChargeEnv ℚ where
  now := 0
  warningPct := 1
  clockNow := 0

end KrakenSdk.Trade
