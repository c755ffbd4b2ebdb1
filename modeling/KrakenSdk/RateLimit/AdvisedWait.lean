import KrakenSdk.Lib.DecayingLevel
import KrakenSdk.RateLimit.Api
import KrakenSdk.RateLimit.Refund
/-!
# How long to wait (rate_limit/api.rs:159-198, mod.rs:44-62)

In exact arithmetic a refused cost fits again after a wait that is linear in the cost (`charge_iff`). The API tracker's
`time_until_headroom` is this wait, rounded to a nanosecond. `compute_retry_at` is the wait of a cost of one unit,
whatever cost was refused.
-/
namespace KrakenSdk.RateLimit

open KrakenSdk.Conn (MonotonicInstant Symbol)
open StepSystem CounterNum DecayingLevel RateLimitCounter

/-! ## Waits and their rounding -/

/-- A request is accepted exactly from `wait` seconds after `now` on. -/
def Opens (accepted : MonotonicInstant → Prop) (now : MonotonicInstant) (wait : ℚ) : Prop :=
  ∀ later, now ≤ later → (accepted later ↔ wait ≤ asSecs (later - now))

theorem lt_toNat_round (x : ℚ) : x - 1 / 2 < ((round x).toNat : ℚ) := by
  have hcast : (round x : ℚ) ≤ ((round x).toNat : ℤ) := Int.cast_le.2 (Int.self_le_toNat (round x))
  rw [Int.cast_natCast] at hcast
  exact lt_of_lt_of_le (sub_half_lt_round x) hcast

theorem toNat_round_le {x : ℚ} (h : 0 ≤ x) : ((round x).toNat : ℚ) ≤ x + 1 / 2 := by
  have hnonneg : 0 ≤ round x := by
    have hlt : ((-1 : ℤ) : ℚ) < round x := by
      refine lt_of_le_of_lt ?_ (sub_half_lt_round x)
      push_cast
      linarith
    have hint : -1 < round x := Int.cast_lt.1 hlt
    omega
  have hcast : (((round x).toNat : ℤ) : ℚ) = round x := congrArg Int.cast (Int.toNat_of_nonneg hnonneg)
  rw [Int.cast_natCast] at hcast
  rw [hcast]
  exact round_le_add_half x

theorem toNat_round_of_nonpos {x : ℚ} (h : x ≤ 0) : (round x).toNat = 0 := by
  have hlt : (round x : ℚ) < ((1 : ℤ) : ℚ) := by
    refine lt_of_le_of_lt (round_le_add_half x) ?_
    push_cast
    linarith
  have hint : round x < 1 := Int.cast_lt.1 hlt
  exact Int.toNat_eq_zero.2 (by omega)

theorem fromSecs_of_nonpos {secs : ℚ} (h : secs ≤ 0) : fromSecs secs = 0 :=
  toNat_round_of_nonpos (mul_nonpos_of_nonpos_of_nonneg h (by norm_num))

theorem asSecs_eq (n : ℕ) : (asSecs n : ℚ) = n / 10 ^ 9 := rfl

/-- Before the rounded wait the exact one is not over. -/
theorem asSecs_lt_of_lt_fromSecs {wait : ℚ} {n : ℕ} (h : n < fromSecs wait) : asSecs n < wait := by
  have hpos : 0 ≤ wait := by
    by_contra hneg
    rw [fromSecs_of_nonpos (not_le.1 hneg).le] at h
    exact absurd h (Nat.not_lt_zero n)
  have hle : ((fromSecs wait : ℕ) : ℚ) ≤ wait * 10 ^ 9 + 1 / 2 := toNat_round_le (mul_nonneg hpos (by norm_num))
  have hn : (n : ℚ) + 1 ≤ ((fromSecs wait : ℕ) : ℚ) := by exact_mod_cast h
  rw [asSecs_eq, div_lt_iff₀ (by norm_num)]
  linarith only [hle, hn]

theorem asSecs_mono {n m : ℕ} (h : n ≤ m) : (asSecs n : ℚ) ≤ asSecs m := by
  rw [asSecs_eq, asSecs_eq, div_le_div_iff_of_pos_right (by norm_num)]
  exact_mod_cast h

/-- A nanosecond past the rounded wait the exact one is over. -/
theorem le_asSecs_succ (wait : ℚ) : wait ≤ asSecs (fromSecs wait + 1) := by
  have hlt : wait * 10 ^ 9 - 1 / 2 < ((fromSecs wait : ℕ) : ℚ) := lt_toNat_round _
  rw [asSecs_eq, le_div_iff₀ (by norm_num)]
  push_cast
  linarith only [hlt]

theorem asSecs_fromSecs_le {wait : ℚ} (h : 0 ≤ wait) : asSecs (fromSecs wait) ≤ wait + 1 / (2 * 10 ^ 9) := by
  have hle : ((fromSecs wait : ℕ) : ℚ) ≤ wait * 10 ^ 9 + 1 / 2 := toNat_round_le (mul_nonneg h (by norm_num))
  rw [asSecs_eq, div_le_iff₀ (by norm_num)]
  linarith only [hle]

/-- A wait of whole nanoseconds is not rounded. -/
theorem asSecs_fromSecs {wait : ℚ} {n : ℕ} (h : wait * 10 ^ 9 = n) : asSecs (fromSecs wait) = wait := by
  have hfrom : fromSecs wait = n := by
    change (round (wait * 10 ^ 9)).toNat = n
    rw [h, round_natCast, Int.toNat_natCast]
  rw [hfrom, asSecs_eq, ← h]
  ring

section Opens

variable {accepted : MonotonicInstant → Prop} {now : MonotonicInstant} {wait : ℚ}

theorem Opens.early (h : Opens accepted now wait) {later : MonotonicInstant} (hnow : now ≤ later)
    (hlt : later < now + fromSecs wait) : ¬ accepted later := by
  intro haccepted
  have hwait := (h later hnow).1 haccepted
  have hearly : later - now < fromSecs wait := by
    simp only [MonotonicInstant] at *
    omega
  exact absurd (asSecs_lt_of_lt_fromSecs hearly) (not_lt.2 hwait)

theorem Opens.late (h : Opens accepted now wait) {later : MonotonicInstant} (hlt : now + fromSecs wait < later) :
    accepted later := by
  refine (h later ?_).2 ((le_asSecs_succ wait).trans (asSecs_mono ?_)) <;>
  · simp only [MonotonicInstant] at *
    omega

theorem Opens.onTime (h : Opens accepted now wait) : accepted (now + fromSecs wait) ↔ wait ≤ asSecs (fromSecs wait) := by
  rw [h _ (Nat.le_add_right _ _), Nat.add_sub_cancel_left]

end Opens

/-! ## The counter -/

namespace RateLimitCounter

variable {c : RateLimitCounter ℚ} {cost : ℚ} {now : MonotonicInstant}

theorem charged_iff (c : RateLimitCounter ℚ) (cost : ℚ) (now : MonotonicInstant) :
    (c.charge cost now).1 = .charged ↔ c.peekCurrent now + cost ≤ c.cap := by
  unfold charge
  dsimp only
  split
  · rename_i h
    exact ⟨fun heq => (by cases heq), fun hle => absurd h (not_lt.2 hle)⟩
  · rename_i h
    exact ⟨fun _ => not_lt.1 h, fun _ => rfl⟩

theorem peekCurrent_later (hk : 0 ≤ c.decayPerSec) (hlast : c.lastUpdated ≤ now) {later : MonotonicInstant}
    (hlater : now ≤ later) :
    c.peekCurrent later = level (c.peekCurrent now) c.decayPerSec (asSecs (later - now)) := by
  rw [← peekCurrent_observe hk hlater]
  show level (c.peekCurrent now) c.decayPerSec (asSecs (later - max now c.lastUpdated)) = _
  rw [max_eq_left hlast]

/-- A cost is charged exactly from a wait on that is linear in it. -/
theorem charge_opens (hk : 0 < c.decayPerSec) (hcost : cost ≤ c.cap) (hlast : c.lastUpdated ≤ now) :
    Opens (fun later => (c.charge cost later).1 = .charged) now ((c.peekCurrent now + cost - c.cap) / c.decayPerSec) := by
  intro later hlater
  show (c.charge cost later).1 = .charged ↔ _
  rw [charged_iff, peekCurrent_later hk.le hlast hlater]
  exact level_add_le_iff hk hcost

theorem charge_exceeded (h : (c.charge cost now).1 = .exceeded) :
    (c.charge cost now).2 = c.observe now ∧ c.cap < c.peekCurrent now + cost := by
  have hnot : ¬ c.peekCurrent now + cost ≤ c.cap := by
    rw [← charged_iff, h]
    decide
  refine ⟨?_, not_le.1 hnot⟩
  simp only [charge, if_pos (not_le.1 hnot)]
  rfl

theorem peekCurrent_le (hcap : 0 ≤ c.cap) (hk : 0 ≤ c.decayPerSec) (hle : c.current ≤ c.cap) (now : MonotonicInstant) :
    c.peekCurrent now ≤ c.cap := by
  have hfall := c.decay_nonneg hk now
  rw [peekCurrent_eq]
  exact max_le (by linarith) hcap

/-- A charge moves neither the cap nor the decay, and stays within the cap. -/
theorem charge_within (hcap : 0 ≤ c.cap) (hk : 0 ≤ c.decayPerSec) (hle : c.current ≤ c.cap) (cost : ℚ)
    (now : MonotonicInstant) :
    (c.charge cost now).2.cap = c.cap ∧ (c.charge cost now).2.decayPerSec = c.decayPerSec ∧
      (c.charge cost now).2.current ≤ (c.charge cost now).2.cap := by
  simp only [charge]
  split
  · exact ⟨rfl, rfl, peekCurrent_le hcap hk hle now⟩
  · rename_i h
    exact ⟨rfl, rfl, not_lt.1 h⟩

/-- A warning changes when the last one was. -/
theorem shouldEmitWarning_eq {R : Type} [CounterNum R] (c : RateLimitCounter R) (now : MonotonicInstant) (warningPct : R) :
    ∃ warned, (c.shouldEmitWarning now warningPct).2 = { c with lastWarningAt := warned } := by
  unfold shouldEmitWarning
  split
  · exact ⟨none, rfl⟩
  · split
    · split
      · exact ⟨_, rfl⟩
      · exact ⟨some now, rfl⟩
    · exact ⟨some now, rfl⟩

/-- The counter keeps the parameters of its tier. -/
def OfTier (cap decay : ℚ) (c : RateLimitCounter ℚ) : Prop := c.cap = cap ∧ c.decayPerSec = decay

/-- What a refused charge reports, and when the same cost is charged again. -/
theorem charge_again (hk : 0 < c.decayPerSec) (hcost : cost ≤ c.cap) (hlast : c.lastUpdated ≤ now)
    (h : (c.charge cost now).1 = .exceeded) :
    Opens (fun later => ((c.charge cost now).2.charge cost later).1 = .charged) now
      (((c.charge cost now).2.current + cost - (c.charge cost now).2.cap) / c.decayPerSec) := by
  obtain ⟨hobserve, -⟩ := charge_exceeded h
  have hnow : (c.observe now).lastUpdated = now := max_eq_left hlast
  have hcurrent : (c.observe now).peekCurrent now = (c.observe now).current := peekCurrent_observe hk.le le_rfl
  have hopens := @charge_opens (c.observe now) cost now hk hcost hnow.le
  rw [hcurrent] at hopens
  rw [hobserve]
  exact hopens

end RateLimitCounter

/-! ## What a refusal advises -/

/-- `compute_retry_at` within its bound. -/
theorem computeRetryAt_eq {current cap decay : ℚ} {now : MonotonicInstant} (hk : 0 < decay)
    (hbound : (current - (cap - 1)) / decay ≤ maxRetryProjectionSecs) :
    computeRetryAt current cap decay now =
      min (now + fromSecs (max ((current - (cap - 1)) / decay) 0)) durationMax := by
  have hneeded : max (current - (cap - 1)) 0 / decay = max ((current - (cap - 1)) / decay) 0 := by
    rw [← max_div_div_right hk.le, zero_div]
  have hclamp : clamp (max ((current - (cap - 1)) / decay) 0) 0 maxRetryProjectionSecs =
      max ((current - (cap - 1)) / decay) 0 := by
    have hlow : ¬ max ((current - (cap - 1)) / decay) 0 < 0 := not_lt.2 (le_max_right _ _)
    have hhigh : ¬ maxRetryProjectionSecs < max ((current - (cap - 1)) / decay) 0 :=
      not_lt.2 (max_le hbound (by decide +kernel))
    rw [clamp, if_neg hlow, if_neg hhigh]
  have hguard : (isNan decay || decide (decay ≤ (lit 0 : ℚ))) = false := decide_eq_false (not_le.2 hk)
  rw [computeRetryAt, hguard]
  show min (now + fromSecs (clamp (max (current - (cap - 1)) 0 / decay) 0 maxRetryProjectionSecs)) durationMax = _
  rw [hneeded, hclamp]

/-- The refusal of a cost, and the calls of the same cost after it. -/
structure Advice (accepted : MonotonicInstant → Prop) (now : MonotonicInstant) (cost decay : ℚ)
    (e : RateLimitExceeded ℚ) : Prop where
  refused : e.cap < e.current + cost
  opens : Opens accepted now ((e.current + cost - e.cap) / decay)
  retryAt : e.retryAtMonotonic = computeRetryAt e.current e.cap decay now

namespace Advice

variable {accepted : MonotonicInstant → Prop} {now : MonotonicInstant} {cost decay : ℚ} {e : RateLimitExceeded ℚ}

theorem congr {accepted' : MonotonicInstant → Prop} (h : Advice accepted now cost decay e)
    (hiff : ∀ later, accepted' later ↔ accepted later) : Advice accepted' now cost decay e :=
  ⟨h.refused, fun later hlater => (hiff later).trans (h.opens later hlater), h.retryAt⟩

/-- A cost of at most one unit waits no longer than the advice, before it is rounded. -/
theorem wait_le (hk : 0 < decay) (hcost : cost ≤ 1) :
    (e.current + cost - e.cap) / decay ≤ max ((e.current - (e.cap - 1)) / decay) 0 := by
  refine le_max_of_le_left ?_
  rw [div_le_div_iff_of_pos_right hk]
  linarith

/-- A dearer one waits longer, by more than what rounding can hide. -/
theorem lt_wait (h : Advice accepted now cost decay e) (hk : 0 < decay) (hcost : 1 + decay / (2 * 10 ^ 9) < cost) :
    asSecs (fromSecs (max ((e.current - (e.cap - 1)) / decay) 0)) < (e.current + cost - e.cap) / decay := by
  have hpos : 0 < (e.current + cost - e.cap) / decay := by
    refine div_pos ?_ hk
    have hrefused := h.refused
    linarith
  rcases le_total ((e.current - (e.cap - 1)) / decay) 0 with hle | hle
  · rw [max_eq_right hle, fromSecs_of_nonpos le_rfl, asSecs_eq, Nat.cast_zero, zero_div]
    exact hpos
  · rw [max_eq_left hle]
    refine (asSecs_fromSecs_le hle).trans_lt ?_
    have hsplit : (e.current + cost - e.cap) / decay = (e.current - (e.cap - 1)) / decay + (cost - 1) / decay := by
      rw [← add_div]
      ring
    have hhidden : 1 / (2 * 10 ^ 9) < (cost - 1) / decay := by
      rw [lt_div_iff₀ hk]
      linarith
    rw [hsplit]
    linarith

/-- Before the clock saturates the advised time is the rounded wait of one unit. -/
theorem retryAt_eq (h : Advice accepted now cost decay e) (hk : 0 < decay)
    (hbound : (e.current - (e.cap - 1)) / decay ≤ maxRetryProjectionSecs) (hlt : e.retryAtMonotonic < durationMax) :
    e.retryAtMonotonic = now + fromSecs (max ((e.current - (e.cap - 1)) / decay) 0) := by
  have heq := h.retryAt
  rw [computeRetryAt_eq hk hbound] at heq
  rcases min_choice (now + fromSecs (max ((e.current - (e.cap - 1)) / decay) 0)) durationMax with hmin | hmin
  · rw [heq, hmin]
  · rw [heq, hmin] at hlt
    exact absurd hlt (lt_irrefl _)

/-- After the advised time a cost of at most one unit is accepted. -/
theorem accepted_later (h : Advice accepted now cost decay e) (hk : 0 < decay)
    (hbound : (e.current - (e.cap - 1)) / decay ≤ maxRetryProjectionSecs) (hlt : e.retryAtMonotonic < durationMax)
    (hcost : cost ≤ 1) {later : MonotonicInstant} (hlater : e.retryAtMonotonic < later) : accepted later := by
  rw [h.retryAt_eq hk hbound hlt] at hlater
  refine (h.opens later ?_).2 ((wait_le hk hcost).trans ((le_asSecs_succ _).trans (asSecs_mono ?_))) <;>
  · simp only [MonotonicInstant] at *
    omega

/-- At the advised time itself, if the projection is a whole number of nanoseconds. -/
theorem accepted_retryAt (h : Advice accepted now cost decay e) (hk : 0 < decay)
    (hbound : (e.current - (e.cap - 1)) / decay ≤ maxRetryProjectionSecs) (hlt : e.retryAtMonotonic < durationMax)
    (hcost : cost ≤ 1) {n : ℕ} (hn : (e.current - (e.cap - 1)) / decay * 10 ^ 9 = n) :
    accepted e.retryAtMonotonic := by
  have hnonneg : 0 ≤ (e.current - (e.cap - 1)) / decay := by
    have hcast : (0 : ℚ) ≤ n := Nat.cast_nonneg n
    linarith
  have hwait := wait_le (e := e) hk hcost
  rw [h.retryAt_eq hk hbound hlt]
  refine (h.opens _ (Nat.le_add_right _ _)).2 ?_
  rw [max_eq_left hnonneg] at hwait ⊢
  rw [Nat.add_sub_cancel_left, asSecs_fromSecs hn]
  exact hwait

/-- A dearer cost is refused again at the advised time. -/
theorem not_accepted_retryAt (h : Advice accepted now cost decay e) (hk : 0 < decay)
    (hbound : (e.current - (e.cap - 1)) / decay ≤ maxRetryProjectionSecs) (hlt : e.retryAtMonotonic < durationMax)
    (hcost : 1 + decay / (2 * 10 ^ 9) < cost) : ¬ accepted e.retryAtMonotonic := by
  rw [h.retryAt_eq hk hbound hlt]
  intro haccepted
  have hwait := (h.opens _ (Nat.le_add_right _ _)).1 haccepted
  rw [Nat.add_sub_cancel_left] at hwait
  exact absurd hwait (not_le.2 (h.lt_wait hk hcost))

end Advice

/-- A refused charge of a counter. -/
theorem RateLimitCounter.advice {c : RateLimitCounter ℚ} {cost : ℚ} {now : MonotonicInstant} (hk : 0 < c.decayPerSec)
    (hcost : cost ≤ c.cap) (hlast : c.lastUpdated ≤ now) (h : (c.charge cost now).1 = .exceeded) (tracker : String)
    (scope : Scope) :
    Advice (fun later => ((c.charge cost now).2.charge cost later).1 = .charged) now cost c.decayPerSec
      { tracker := tracker, scope := scope, current := (c.charge cost now).2.current, cap := (c.charge cost now).2.cap,
        retryAtMonotonic := computeRetryAt (c.charge cost now).2.current (c.charge cost now).2.cap
          (c.charge cost now).2.decayPerSec now } where
  refused := by
    obtain ⟨hobserve, hlt⟩ := charge_exceeded h
    rw [hobserve]
    exact hlt
  opens := charge_again hk hcost hlast h
  retryAt := by rw [(charge_exceeded h).1]; rfl

/-! ## The API tracker -/

namespace SpotApiRateLimitTracker

/-- The call is accepted. -/
def Accepts {R : Type} [CounterNum R] (t : SpotApiRateLimitTracker R) (scope : Scope) (cost warningPct : R)
    (now : MonotonicInstant) : Prop :=
  (t.consume scope cost now warningPct).1.isOk = true

/-- Every counter has the parameters of the tier and is within its cap. -/
def Sound (t : SpotApiRateLimitTracker ℚ) : Prop :=
  t.counter.AllValues fun c => c.OfTier t.tier.apiCap t.tier.apiDecayPerSec ∧ c.current ≤ c.cap

theorem apiDecayPerSec_pos (tier : Tier) : (0 : ℚ) < tier.apiDecayPerSec := by
  cases tier <;> decide +kernel

theorem apiCap_nonneg (tier : Tier) : (0 : ℚ) ≤ tier.apiCap := by
  cases tier <;> decide +kernel

theorem accepts_iff (t : SpotApiRateLimitTracker ℚ) (key : ApiKey) (cost warningPct : ℚ) (now : MonotonicInstant) :
    t.Accepts (.apiKey key) cost warningPct now ↔ ((t.counterOf key now).charge cost now).1 = .charged := by
  simp only [Accepts, consume]
  split
  · rename_i hcharge
    rw [hcharge]
    exact ⟨fun _ => rfl, fun _ => rfl⟩
  · rename_i hcharge
    rw [hcharge]
    exact ⟨fun h => (by cases h), fun h => (by cases h)⟩

theorem Sound.counterOf {t : SpotApiRateLimitTracker ℚ} (h : t.Sound) (key : ApiKey) (now : MonotonicInstant) :
    (t.counterOf key now).OfTier t.tier.apiCap t.tier.apiDecayPerSec ∧
      (t.counterOf key now).current ≤ (t.counterOf key now).cap := by
  unfold SpotApiRateLimitTracker.counterOf
  cases hlookup : t.counter.lookup key with
  | some c => exact h key c hlookup
  | none => exact ⟨⟨rfl, rfl⟩, apiCap_nonneg t.tier⟩

theorem sound_consume {t : SpotApiRateLimitTracker ℚ} (h : t.Sound) (scope : Scope) (cost : ℚ) (now : MonotonicInstant)
    (warningPct : ℚ) : (t.consume scope cost now warningPct).2.2.Sound := by
  cases scope with
  | pair k p => exact h
  | apiKey key =>
    obtain ⟨⟨hcap, hdecay⟩, hle⟩ := h.counterOf key now
    have hnonneg : 0 ≤ (t.counterOf key now).cap := by
      rw [hcap]
      exact apiCap_nonneg t.tier
    have hcharged := charge_within hnonneg (hdecay ▸ (apiDecayPerSec_pos t.tier).le) hle cost now
    simp only [consume]
    split
    next c hcharge =>
      obtain ⟨warned, hwarned⟩ := c.shouldEmitWarning_eq now warningPct
      rw [hcharge] at hcharged
      refine h.insert ⟨⟨?_, ?_⟩, ?_⟩ <;> rw [hwarned]
      · exact hcharged.1.trans hcap
      · exact hcharged.2.1.trans hdecay
      · exact hcharged.2.2
    next c hcharge =>
      rw [hcharge] at hcharged
      exact h.insert ⟨⟨hcharged.1.trans hcap, hcharged.2.1.trans hdecay⟩, hcharged.2.2⟩

theorem sound_snapToCap {t : SpotApiRateLimitTracker ℚ} (h : t.Sound) (scope : Scope) (krakenError : String)
    (now : MonotonicInstant) : (t.snapToCap scope krakenError now).2.Sound := by
  cases scope with
  | pair k p => exact h
  | apiKey key => exact h.insert ⟨(h.counterOf key now).1, le_rfl⟩

/-- **Every reachable state is sound.** -/
theorem sound_exec (tier : Tier) (calls : List (Call ℚ)) : (exec step (new tier) calls).Sound := by
  have hnew : (new tier : SpotApiRateLimitTracker ℚ).Sound := HashMap.allValues_empty
  refine (reach_anyStep (new tier) calls).invariant hnew fun t call h _ => ?_
  cases call with
  | consume scope cost now warningPct => exact sound_consume h scope cost now warningPct
  | snapToCap scope krakenError now => exact sound_snapToCap h scope krakenError now

section

variable {t : SpotApiRateLimitTracker ℚ} {key : ApiKey} {cost : ℚ} {now : MonotonicInstant}

theorem counterOf_eq {c : RateLimitCounter ℚ} (h : t.counter.lookup key = some c) (later : MonotonicInstant) :
    t.counterOf key later = c := by
  rw [SpotApiRateLimitTracker.counterOf, h]
  rfl

/-- A fresh counter is empty. -/
theorem peekCurrent_counterOf_none (h : t.counter.lookup key = none) (later : MonotonicInstant) :
    (t.counterOf key later).peekCurrent later = 0 := by
  rw [SpotApiRateLimitTracker.counterOf, h]
  show max ((0 : ℚ) - t.tier.apiDecayPerSec * asSecs (later - later)) 0 = 0
  rw [Nat.sub_self, asSecs_eq, Nat.cast_zero, zero_div, mul_zero, sub_zero, max_self]

/-- When a cost is accepted. -/
theorem Sound.opens (h : t.Sound) (hcost : cost ≤ t.tier.apiCap) (hlast : (t.counterOf key now).lastUpdated ≤ now)
    (warningPct : ℚ) :
    Opens (t.Accepts (.apiKey key) cost warningPct) now
      (((t.counterOf key now).peekCurrent now + cost - t.tier.apiCap) / t.tier.apiDecayPerSec) := by
  intro later hlater
  rw [accepts_iff]
  obtain ⟨⟨hcap, hdecay⟩, -⟩ := h.counterOf key now
  cases hlookup : t.counter.lookup key with
  | some c =>
    simp only [counterOf_eq hlookup] at hcap hdecay hlast ⊢
    rw [← hcap] at hcost ⊢
    rw [← hdecay]
    refine charge_opens ?_ hcost hlast later hlater
    rw [hdecay]
    exact apiDecayPerSec_pos t.tier
  | none =>
    rw [charged_iff, peekCurrent_counterOf_none hlookup, peekCurrent_counterOf_none hlookup, zero_add,
      (h.counterOf key later).1.1]
    refine iff_of_true hcost ((div_nonpos_of_nonpos_of_nonneg ?_ (apiDecayPerSec_pos t.tier).le).trans ?_)
    · linarith
    · exact div_nonneg (Nat.cast_nonneg _) (by norm_num)

theorem Sound.peekCurrent_le (h : t.Sound) (key : ApiKey) (now : MonotonicInstant) :
    (t.counterOf key now).peekCurrent now ≤ t.tier.apiCap := by
  obtain ⟨⟨hcap, hdecay⟩, hle⟩ := h.counterOf key now
  have hnonneg := apiCap_nonneg t.tier
  have hk := (apiDecayPerSec_pos t.tier).le
  rw [← hcap] at hnonneg ⊢
  rw [← hdecay] at hk
  exact RateLimitCounter.peekCurrent_le hnonneg hk hle now

theorem Sound.headroom (h : t.Sound) (key : ApiKey) (now : MonotonicInstant) :
    t.headroom (.apiKey key) now = some (t.tier.apiCap - (t.counterOf key now).peekCurrent now) := by
  have hwithin := h.peekCurrent_le key now
  simp only [SpotApiRateLimitTracker.headroom]
  cases hlookup : t.counter.lookup key with
  | some c =>
    rw [counterOf_eq hlookup] at hwithin ⊢
    exact congrArg some (max_eq_left (sub_nonneg.2 hwithin))
  | none => rw [peekCurrent_counterOf_none hlookup, sub_zero]

/-- No wait of the tracker is too long for a `Duration`. -/
theorem apiCap_div_lt (tier : Tier) : (tier.apiCap / tier.apiDecayPerSec : ℚ) < 2 ^ 64 := by
  cases tier <;> decide +kernel

/-- The wait it reports is the exact one, rounded to a nanosecond. -/
theorem Sound.timeUntilHeadroom (h : t.Sound) (hcost : cost ≤ t.tier.apiCap) (key : ApiKey) (now : MonotonicInstant) :
    t.timeUntilHeadroom (.apiKey key) cost now =
      some (fromSecs (((t.counterOf key now).peekCurrent now + cost - t.tier.apiCap) / t.tier.apiDecayPerSec)) := by
  have hk := apiDecayPerSec_pos t.tier
  have hguard : (!isFinite (t.tier.apiDecayPerSec : ℚ) || decide ((t.tier.apiDecayPerSec : ℚ) ≤ lit 0)) = false :=
    decide_eq_false (not_le.2 hk)
  have hsum : (t.counterOf key now).peekCurrent now + cost - t.tier.apiCap =
      cost - (t.tier.apiCap - (t.counterOf key now).peekCurrent now) := by
    ring
  rw [hsum, SpotApiRateLimitTracker.timeUntilHeadroom, h.headroom key now, Option.bind_eq_bind, Option.bind_some]
  dsimp only
  rw [hguard, if_neg Bool.false_ne_true]
  by_cases hfits : cost ≤ t.tier.apiCap - (t.counterOf key now).peekCurrent now
  · rw [if_pos hfits, fromSecs_of_nonpos (div_nonpos_of_nonpos_of_nonneg (sub_nonpos.2 hfits) hk.le)]
  · have hnonneg : 0 ≤ (cost - (t.tier.apiCap - (t.counterOf key now).peekCurrent now)) / t.tier.apiDecayPerSec :=
      div_nonneg (sub_pos.2 (not_le.1 hfits)).le hk.le
    have hwithin := h.peekCurrent_le key now
    have hlt : (cost - (t.tier.apiCap - (t.counterOf key now).peekCurrent now)) / t.tier.apiDecayPerSec < 2 ^ 64 := by
      refine lt_of_le_of_lt ?_ (apiCap_div_lt t.tier)
      rw [div_le_div_iff_of_pos_right hk]
      linarith
    rw [if_neg hfits, tryFromSecs, if_pos ⟨hnonneg, hlt⟩, Option.getD_some]

/-- A refused call: the state after it holds the counter the refusal reports. -/
theorem Sound.advice (h : t.Sound) (hcost : cost ≤ t.tier.apiCap) (hlast : (t.counterOf key now).lastUpdated ≤ now)
    {warningPct : ℚ} {e : RateLimitExceeded ℚ} (he : (t.consume (.apiKey key) cost now warningPct).1 = .error e)
    (warningPct' : ℚ) :
    Advice ((t.consume (.apiKey key) cost now warningPct).2.2.Accepts (.apiKey key) cost warningPct') now cost
      t.tier.apiDecayPerSec e := by
  obtain ⟨⟨hcap, hdecay⟩, -⟩ := h.counterOf key now
  have hk := apiDecayPerSec_pos t.tier
  rw [← hcap] at hcost
  rw [← hdecay] at hk ⊢
  simp only [consume] at he ⊢
  split at he
  · cases he
  next c hcharge =>
    have hadvice := RateLimitCounter.advice hk hcost hlast (congrArg Prod.fst hcharge) "api" (.apiKey key)
    rw [hcharge] at hadvice
    cases he
    refine hadvice.congr fun later => ?_
    rw [accepts_iff, counterOf_eq (AList.lookup_insert _)]

end

end SpotApiRateLimitTracker

/-! ## The trading tracker -/

namespace SpotTradingRateLimitTracker

/-- The call is accepted. -/
def Accepts {R : Type} [CounterNum R] (t : SpotTradingRateLimitTracker R) (scope : Scope) (cost warningPct : R)
    (clockNow now : MonotonicInstant) : Prop :=
  (t.consume scope cost now warningPct clockNow).1.isOk = true

/-- The counter of a pair, or the one `touch_lru` makes. -/
def counterOf {R : Type} [CounterNum R] (t : SpotTradingRateLimitTracker R) (key : ScopeKey) (now : MonotonicInstant) :
    RateLimitCounter R :=
  (t.inner.counter.lookup key).getD (t.freshCounter now)

/-- Every counter has the parameters of the tier. -/
def Sound (t : SpotTradingRateLimitTracker ℚ) : Prop :=
  t.inner.counter.AllValues (OfTier t.tier.tradingCap t.tier.tradingDecayPerSec)

theorem tradingDecayPerSec_pos (tier : Tier) : (0 : ℚ) < tier.tradingDecayPerSec := by
  cases tier <;> decide +kernel

section

variable {R : Type} [CounterNum R] (t : SpotTradingRateLimitTracker R)

theorem tier_touchLru (key : ScopeKey) (now : MonotonicInstant) : (t.touchLru key now).2.tier = t.tier := by
  unfold touchLru
  dsimp only
  split
  · rfl
  · split
    · split <;> rfl
    · rfl

/-- Whatever it evicts, it is not the pair it makes room for. -/
theorem lookup_touchLru (key : ScopeKey) (now : MonotonicInstant) :
    (t.touchLru key now).2.inner.counter.lookup key = some (t.counterOf key now) := by
  unfold touchLru counterOf
  dsimp only
  split
  next hmem =>
    obtain ⟨c, hc⟩ := Option.isSome_iff_exists.1 (AList.lookup_isSome.2 hmem)
    rw [hc]
    rfl
  next hmem =>
    rw [AList.lookup_eq_none.2 hmem]
    split
    · split
      · exact AList.lookup_insert _
      · exact AList.lookup_insert _
    · exact AList.lookup_insert _

/-- A call for a pair charges its counter and writes it back. -/
theorem consume_pair (k : ApiKey) (p : Symbol) (cost : R) (now : MonotonicInstant) (warningPct : R)
    (clockNow : MonotonicInstant) :
    ∃ c, (t.consume (.pair k p) cost now warningPct clockNow).2.2 = (t.touchLru (k, p) now).2.setCounter (k, p) c ∧
      ((((t.counterOf (k, p) now).charge cost now).1 = .charged ∧
          (t.consume (.pair k p) cost now warningPct clockNow).1 = .ok () ∧
          ∃ warned, c = { ((t.counterOf (k, p) now).charge cost now).2 with lastWarningAt := warned }) ∨
        (((t.counterOf (k, p) now).charge cost now).1 = .exceeded ∧
          c = ((t.counterOf (k, p) now).charge cost now).2 ∧
          (t.consume (.pair k p) cost now warningPct clockNow).1 =
            .error { tracker := "trading", scope := .pair k p, current := c.current, cap := c.cap,
                     retryAtMonotonic := computeRetryAt c.current c.cap c.decayPerSec now })) := by
  simp only [consume, lookup_touchLru]
  split
  next c hcharge =>
    obtain ⟨warned, hwarned⟩ := c.shouldEmitWarning_eq now warningPct
    rw [hcharge]
    split
    next c' heq =>
      rw [heq] at hwarned
      exact ⟨c', rfl, .inl ⟨rfl, rfl, warned, hwarned⟩⟩
    next c' heq =>
      rw [heq] at hwarned
      exact ⟨c', rfl, .inl ⟨rfl, rfl, warned, hwarned⟩⟩
  next c hcharge =>
    rw [hcharge]
    exact ⟨c, rfl, .inr ⟨rfl, rfl, rfl⟩⟩

end

theorem counterOf_setCounter {R : Type} [CounterNum R] (t : SpotTradingRateLimitTracker R) (key : ScopeKey)
    (c : RateLimitCounter R) (now : MonotonicInstant) : (t.setCounter key c).counterOf key now = c := by
  unfold counterOf setCounter
  rw [AList.lookup_insert]
  rfl

theorem accepts_iff {t : SpotTradingRateLimitTracker ℚ} {k : ApiKey} {p : Symbol} {cost warningPct : ℚ}
    {clockNow now : MonotonicInstant} :
    t.Accepts (.pair k p) cost warningPct clockNow now ↔ ((t.counterOf (k, p) now).charge cost now).1 = .charged := by
  unfold Accepts
  obtain ⟨c, -, ⟨hcharged, hok, -⟩ | ⟨hexceeded, -, herror⟩⟩ := t.consume_pair k p cost now warningPct clockNow
  · rw [hok, hcharged]
    exact iff_of_true rfl rfl
  · rw [herror, hexceeded]
    exact ⟨fun h => (by cases h), fun h => (by cases h)⟩

theorem ofTier_charge {cap decay : ℚ} {c : RateLimitCounter ℚ} (h : OfTier cap decay c) (cost : ℚ) (now : MonotonicInstant) :
    OfTier cap decay (c.charge cost now).2 := by
  simp only [charge]
  split
  · exact h
  · exact h

theorem Sound.counterOf {t : SpotTradingRateLimitTracker ℚ} (h : t.Sound) (key : ScopeKey) (now : MonotonicInstant) :
    OfTier t.tier.tradingCap t.tier.tradingDecayPerSec (t.counterOf key now) := by
  unfold SpotTradingRateLimitTracker.counterOf
  cases hlookup : t.inner.counter.lookup key with
  | some c => exact h key c hlookup
  | none => exact ⟨rfl, rfl⟩

theorem Sound.touchLru {t : SpotTradingRateLimitTracker ℚ} (h : t.Sound) (key : ScopeKey) (now : MonotonicInstant) :
    (t.touchLru key now).2.Sound := by
  unfold SpotTradingRateLimitTracker.touchLru
  dsimp only
  split
  · exact h
  · split
    · split
      next oldest _ => exact (HashMap.AllValues.erase h oldest).insert ⟨rfl, rfl⟩
      next => exact HashMap.AllValues.insert h ⟨rfl, rfl⟩
    · exact HashMap.AllValues.insert h ⟨rfl, rfl⟩

theorem sound_consume {t : SpotTradingRateLimitTracker ℚ} (h : t.Sound) (scope : Scope) (cost : ℚ) (now : MonotonicInstant)
    (warningPct : ℚ) (clockNow : MonotonicInstant) : (t.consume scope cost now warningPct clockNow).2.2.Sound := by
  cases scope with
  | apiKey key => exact h
  | pair k p =>
    obtain ⟨c, hstate, hcounter⟩ := t.consume_pair k p cost now warningPct clockNow
    have hkeeps := ofTier_charge (h.counterOf (k, p) now) cost now
    have hc : OfTier (t.touchLru (k, p) now).2.tier.tradingCap (t.touchLru (k, p) now).2.tier.tradingDecayPerSec c := by
      rw [tier_touchLru]
      rcases hcounter with ⟨-, -, warned, rfl⟩ | ⟨-, rfl, -⟩
      · exact hkeeps
      · exact hkeeps
    rw [hstate]
    exact HashMap.AllValues.insert (h.touchLru (k, p) now) hc

theorem sound_mapAccount {t : SpotTradingRateLimitTracker ℚ} (h : t.Sound) (apiKey : ApiKey)
    {f : RateLimitCounter ℚ → RateLimitCounter ℚ}
    (hf : ∀ c, OfTier t.tier.tradingCap t.tier.tradingDecayPerSec c →
      OfTier t.tier.tradingCap t.tier.tradingDecayPerSec (f c)) : (t.mapAccount apiKey f).Sound := by
  refine HashMap.AllValues.mapVals h fun key c hc => ?_
  split
  · exact hf c hc
  · exact hc

/-- **Every reachable state is sound.** -/
theorem sound_exec (tier : Tier) (lruCap : Nat) (calls : List (Call ℚ)) :
    (exec step (withLruCap tier lruCap) calls).Sound := by
  have hnew : (withLruCap tier lruCap : SpotTradingRateLimitTracker ℚ).Sound := HashMap.allValues_empty
  refine (reach_anyStep (withLruCap tier lruCap) calls).invariant hnew fun t call h _ => ?_
  cases call with
  | consume scope cost now warningPct clockNow => exact sound_consume h scope cost now warningPct clockNow
  | credit scope cost now =>
    cases scope with
    | apiKey apiKey => exact h
    | pair k p =>
      simp only [step, credit]
      split
      · exact h
      next c hc => exact HashMap.AllValues.insert h (h (k, p) c hc)
  | chargeAccountWide scope cost now =>
    cases scope with
    | pair k p => exact h
    | apiKey apiKey => exact sound_mapAccount h apiKey fun c hc => hc
  | snapToCap scope krakenError now iter =>
    cases scope with
    | pair k p => exact HashMap.AllValues.insert h (h.counterOf (k, p) now)
    | apiKey apiKey => exact sound_mapAccount h apiKey fun c hc => hc

/-- A refused call: the state after it holds the counter the refusal reports. -/
theorem Sound.advice {t : SpotTradingRateLimitTracker ℚ} (h : t.Sound) {k : ApiKey} {p : Symbol} {cost : ℚ}
    {now : MonotonicInstant} (hcost : cost ≤ t.tier.tradingCap) (hlast : (t.counterOf (k, p) now).lastUpdated ≤ now)
    {warningPct : ℚ} {clockNow : MonotonicInstant} {e : RateLimitExceeded ℚ}
    (he : (t.consume (.pair k p) cost now warningPct clockNow).1 = .error e) (warningPct' : ℚ)
    (clockNow' : MonotonicInstant) :
    Advice ((t.consume (.pair k p) cost now warningPct clockNow).2.2.Accepts (.pair k p) cost warningPct' clockNow')
      now cost t.tier.tradingDecayPerSec e := by
  obtain ⟨c, hstate, ⟨-, hok, -⟩ | ⟨hexceeded, rfl, herror⟩⟩ := t.consume_pair k p cost now warningPct clockNow
  · rw [hok] at he
    cases he
  · rw [herror] at he
    cases he
    have hkeeps := h.counterOf (k, p) now
    have hk := tradingDecayPerSec_pos t.tier
    rw [← hkeeps.1] at hcost
    rw [← hkeeps.2] at hk ⊢
    refine (RateLimitCounter.advice hk hcost hlast hexceeded "trading" (.pair k p)).congr fun later => ?_
    rw [accepts_iff, hstate, counterOf_setCounter]

end SpotTradingRateLimitTracker

/-! ## Waiting as told -/

/-- `d` nanoseconds are `wait` seconds, but for the rounding. -/
structure RightWait (accepted : MonotonicInstant → Prop) (now : MonotonicInstant) (wait : ℚ) (d : ℕ) : Prop where
  early : ∀ later, now ≤ later → later < now + d → ¬ accepted later
  late : ∀ later, now + d < later → accepted later
  onTime : accepted (now + d) ↔ wait ≤ asSecs d
  whole : ∀ n : ℕ, wait * 10 ^ 9 = n → wait ≤ asSecs d

theorem Opens.rightWait {accepted : MonotonicInstant → Prop} {now : MonotonicInstant} {wait : ℚ}
    (h : Opens accepted now wait) : RightWait accepted now wait (fromSecs wait) where
  early _ hnow hlt := h.early hnow hlt
  late _ hlt := h.late hlt
  onTime := h.onTime
  whole _ hn := (asSecs_fromSecs hn).ge

deriving instance DecidableEq for RateLimitExceeded

/-- The projection is within the day, and the clock does not saturate. -/
def RateLimitExceeded.InBound (e : RateLimitExceeded ℚ) (decay : ℚ) : Prop :=
  (e.current - (e.cap - 1)) / decay ≤ maxRetryProjectionSecs ∧ e.retryAtMonotonic < durationMax

/-- The advice is right for a cost of at most one unit, and too early for a dearer one. -/
structure RightForOne (accepted : MonotonicInstant → Prop) (cost decay : ℚ) (e : RateLimitExceeded ℚ) : Prop where
  later : cost ≤ 1 → ∀ later, e.retryAtMonotonic < later → accepted later
  onTime : cost ≤ 1 → ∀ n : ℕ, (e.current - (e.cap - 1)) / decay * 10 ^ 9 = n → accepted e.retryAtMonotonic
  tooEarly : 1 + decay / (2 * 10 ^ 9) < cost → ¬ accepted e.retryAtMonotonic

theorem Advice.rightForOne {accepted : MonotonicInstant → Prop} {now : MonotonicInstant} {cost decay : ℚ}
    {e : RateLimitExceeded ℚ} (h : Advice accepted now cost decay e) (hk : 0 < decay) (hbound : e.InBound decay) :
    RightForOne accepted cost decay e where
  later hcost _ hlater := h.accepted_later hk hbound.1 hbound.2 hcost hlater
  onTime hcost _ hn := h.accepted_retryAt hk hbound.1 hbound.2 hcost hn
  tooEarly hcost := h.not_accepted_retryAt hk hbound.1 hbound.2 hcost

/-- **The advised wait.** In every reachable state `time_until_headroom` is the exact wait of its cost, rounded to a
nanosecond. A refusal names the wait of one unit, whatever its cost: both trackers project with `compute_retry_at`. -/
theorem advisedWait (tier : Tier) :
    (∀ (calls : List (SpotApiRateLimitTracker.Call ℚ)) (key : ApiKey) (cost : ℚ) (now : MonotonicInstant) (warningPct : ℚ),
      let t := exec SpotApiRateLimitTracker.step (.new tier) calls
      let c := t.counterOf key now
      0 < cost → cost ≤ t.tier.apiCap → c.lastUpdated ≤ now →
      (∀ d, t.timeUntilHeadroom (.apiKey key) cost now = some d →
        RightWait (t.Accepts (.apiKey key) cost warningPct) now
          ((c.peekCurrent now + cost - t.tier.apiCap) / t.tier.apiDecayPerSec) d) ∧
      ∀ e, (t.consume (.apiKey key) cost now warningPct).1 = .error e → e.InBound t.tier.apiDecayPerSec →
        ∀ warningPct', RightForOne ((t.consume (.apiKey key) cost now warningPct).2.2.Accepts (.apiKey key) cost warningPct')
          cost t.tier.apiDecayPerSec e) ∧
    (∀ (lruCap : ℕ) (calls : List (SpotTradingRateLimitTracker.Call ℚ)) (k : ApiKey) (p : Symbol) (cost : ℚ)
        (now : MonotonicInstant) (warningPct : ℚ) (clockNow : MonotonicInstant),
      let t := exec SpotTradingRateLimitTracker.step (.withLruCap tier lruCap) calls
      0 < cost → cost ≤ t.tier.tradingCap → (t.counterOf (k, p) now).lastUpdated ≤ now →
      ∀ e, (t.consume (.pair k p) cost now warningPct clockNow).1 = .error e → e.InBound t.tier.tradingDecayPerSec →
        ∀ warningPct' clockNow', RightForOne
          ((t.consume (.pair k p) cost now warningPct clockNow).2.2.Accepts (.pair k p) cost warningPct' clockNow')
          cost t.tier.tradingDecayPerSec e) := by
  constructor
  · intro calls key cost now warningPct t c hpos hcost hlast
    have hsound : t.Sound := SpotApiRateLimitTracker.sound_exec tier calls
    constructor
    · intro d hd
      rw [hsound.timeUntilHeadroom hcost key now] at hd
      rw [← Option.some.inj hd]
      exact (hsound.opens hcost hlast warningPct).rightWait
    · intro e he hbound warningPct'
      exact (hsound.advice hcost hlast he warningPct').rightForOne (SpotApiRateLimitTracker.apiDecayPerSec_pos t.tier) hbound
  · intro lruCap calls k p cost now warningPct clockNow t hpos hcost hlast e he hbound warningPct' clockNow'
    have hsound : t.Sound := SpotTradingRateLimitTracker.sound_exec tier lruCap calls
    exact (hsound.advice hcost hlast he warningPct' clockNow').rightForOne
      (SpotTradingRateLimitTracker.tradingDecayPerSec_pos t.tier) hbound

/-- One unit to drain at 0.33 a second. -/
theorem advisedWait_two :
    let t := exec SpotApiRateLimitTracker.step (.new .starter) [.consume (.apiKey ⟨"key"⟩) 14 0 (1 : ℚ)]
    RightWait (t.Accepts (.apiKey ⟨"key"⟩) 2 1) 0
      (((t.counterOf ⟨"key"⟩ 0).peekCurrent 0 + 2 - t.tier.apiCap) / t.tier.apiDecayPerSec) 3030303030 :=
  ((advisedWait .starter).1 [.consume (.apiKey ⟨"key"⟩) 14 0 1] ⟨"key"⟩ 2 0 1 (by decide +kernel) (by decide +kernel)
    (by decide +kernel)).1 3030303030 (by decide +kernel)

/-- Fourteen of fifteen units are used: a cost of two is refused, told to come back at once, and refused. -/
theorem retryAt_without_cost :
    ¬ ∀ (tier : Tier) (calls : List (SpotApiRateLimitTracker.Call ℚ)) (key : ApiKey) (cost : ℚ) (now : MonotonicInstant)
        (warningPct : ℚ) (e : RateLimitExceeded ℚ),
      let t := exec SpotApiRateLimitTracker.step (.new tier) calls
      0 < cost → cost ≤ t.tier.apiCap → (t.counterOf key now).lastUpdated ≤ now →
      (t.consume (.apiKey key) cost now warningPct).1 = .error e → e.InBound t.tier.apiDecayPerSec →
      (t.consume (.apiKey key) cost now warningPct).2.2.Accepts (.apiKey key) cost warningPct e.retryAtMonotonic := by
  intro h
  have haccepts := h .starter [.consume (.apiKey ⟨"key"⟩) 14 0 1] ⟨"key"⟩ 2 0 1
    { tracker := "api", scope := .apiKey ⟨"key"⟩, current := 14, cap := 15, retryAtMonotonic := 0 }
    (by decide +kernel) (by decide +kernel) (by decide +kernel) (by decide +kernel) ⟨by decide +kernel, by decide +kernel⟩
  revert haccepts
  unfold SpotApiRateLimitTracker.Accepts
  decide +kernel

end KrakenSdk.RateLimit
