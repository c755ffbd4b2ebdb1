import KrakenSdk.Lib.StepSystem
import KrakenSdk.RateLimit.Counter
/-!
# What a credit takes back (rate_limit/counter.rs:61-103)

A charge puts its cost on top of the usage of others. The floor of the decay, the cap of `charge_saturating` and
`snap_to_cap` may take some of it away again, and `credit` then subtracts the whole cost. `refund_iff` compares the
run with the charge and its credit to the run with neither, in exact arithmetic.
-/
namespace KrakenSdk.RateLimit.RateLimitCounter

open KrakenSdk.Conn (MonotonicInstant)
open StepSystem CounterNum

/-- A call between a charge and its credit. -/
inductive CounterCall where
  | charge (cost : ℚ) (now : MonotonicInstant)
  | chargeSaturating (cost : ℚ) (now : MonotonicInstant)
  | snapToCap (now : MonotonicInstant)

def CounterCall.now : CounterCall → MonotonicInstant
  | .charge _ now | .chargeSaturating _ now | .snapToCap now => now

/-- One call. -/
def call (s : RateLimitCounter ℚ) : CounterCall → RateLimitCounter ℚ
  | .charge cost now => (s.charge cost now).2
  | .chargeSaturating cost now => s.chargeSaturating cost now
  | .snapToCap now => s.snapToCap now

/-- Only a charge can be refused. -/
def Accepted (s : RateLimitCounter ℚ) : CounterCall → Prop
  | .charge cost now => (s.charge cost now).1 = .charged
  | _ => True

/-- What the decay up to `now` takes, when there is enough. -/
def decay (s : RateLimitCounter ℚ) (now : MonotonicInstant) : ℚ := s.decayPerSec * asSecs (now - s.lastUpdated)

/-- The call clamps nothing, with `cost` on top of the counter or without. -/
def Unclamped (cost : ℚ) (s : RateLimitCounter ℚ) : CounterCall → Prop
  | .charge _ now => s.decay now ≤ s.current
  | .chargeSaturating c now => s.decay now ≤ s.current ∧ s.current - s.decay now + cost + c ≤ s.cap
  | .snapToCap _ => False

instance (s : RateLimitCounter ℚ) : DecidablePred s.Accepted
  | .charge cost now => inferInstanceAs (Decidable ((s.charge cost now).1 = .charged))
  | .chargeSaturating .. | .snapToCap _ => .isTrue trivial

instance (cost : ℚ) (s : RateLimitCounter ℚ) : DecidablePred (s.Unclamped cost)
  | .charge _ now => inferInstanceAs (Decidable (s.decay now ≤ s.current))
  | .chargeSaturating c now =>
    inferInstanceAs (Decidable (s.decay now ≤ s.current ∧ s.current - s.decay now + cost + c ≤ s.cap))
  | .snapToCap _ => .isFalse id

/-- The counter with its decay up to `now` written down. -/
def observe (s : RateLimitCounter ℚ) (now : MonotonicInstant) : RateLimitCounter ℚ :=
  { s with current := s.peekCurrent now, lastUpdated := max now s.lastUpdated }

/-- The counter with `d` more in it. -/
def add (s : RateLimitCounter ℚ) (d : ℚ) : RateLimitCounter ℚ := { s with current := s.current + d }

/-! ## What a clamp leaves of a lead -/

section Clamps

variable {y d cap : ℚ}

theorem floor_lead (hd : 0 ≤ d) : 0 ≤ max (y + d) 0 - max y 0 ∧ max (y + d) 0 - max y 0 ≤ d := by
  rcases max_cases (y + d) 0 with ⟨h, hle⟩ | ⟨h, hle⟩ <;> rcases max_cases y 0 with ⟨h', hle'⟩ | ⟨h', hle'⟩ <;>
    rw [h, h'] <;> constructor <;> linarith

theorem floor_lead_eq (hd : 0 < d) : max (y + d) 0 - max y 0 = d ↔ 0 ≤ y := by
  constructor
  · intro heq
    by_contra hneg
    have hy : y < 0 := not_le.1 hneg
    rw [max_eq_right hy.le] at heq
    rcases max_cases (y + d) 0 with ⟨h, -⟩ | ⟨h, -⟩ <;> rw [h] at heq <;> linarith
  · intro hy
    rw [max_eq_left hy, max_eq_left (by linarith)]
    ring

theorem cap_lead (hd : 0 ≤ d) : 0 ≤ min (y + d) cap - min y cap ∧ min (y + d) cap - min y cap ≤ d := by
  rcases min_cases (y + d) cap with ⟨h, hle⟩ | ⟨h, hle⟩ <;> rcases min_cases y cap with ⟨h', hle'⟩ | ⟨h', hle'⟩ <;>
    rw [h, h'] <;> constructor <;> linarith

theorem cap_lead_eq (hd : 0 < d) : min (y + d) cap - min y cap = d ↔ y + d ≤ cap := by
  constructor
  · intro heq
    by_contra hnot
    have hlt : cap < y + d := not_le.1 hnot
    rw [min_eq_right hlt.le] at heq
    rcases min_cases y cap with ⟨h, -⟩ | ⟨h, -⟩ <;> rw [h] at heq <;> linarith
  · intro hle
    rw [min_eq_left hle, min_eq_left (by linarith)]
    ring

end Clamps

/-! ## The decay is seen once -/

variable {s : RateLimitCounter ℚ} {t₀ t : MonotonicInstant}

theorem peekCurrent_eq (s : RateLimitCounter ℚ) (t : MonotonicInstant) :
    s.peekCurrent t = max (s.current - s.decay t) 0 := rfl

@[simp] theorem observe_cap (s : RateLimitCounter ℚ) (t : MonotonicInstant) : (s.observe t).cap = s.cap := rfl

/-- Elapsed time adds up, also past a `now` before the last update. -/
theorem decay_observe (s : RateLimitCounter ℚ) (ht : t₀ ≤ t) : s.decay t = s.decay t₀ + (s.observe t₀).decay t := by
  have helapsed : t - s.lastUpdated = (t₀ - s.lastUpdated) + (t - max t₀ s.lastUpdated) := by
    simp only [MonotonicInstant] at t₀ t ht ⊢
    omega
  simp only [decay, observe, asSecs]
  rw [helapsed]
  push_cast
  ring

theorem decay_nonneg (hk : 0 ≤ s.decayPerSec) (t : MonotonicInstant) : 0 ≤ s.decay t :=
  mul_nonneg hk (div_nonneg (Nat.cast_nonneg _) (by norm_num))

theorem peekCurrent_observe (hk : 0 ≤ s.decayPerSec) (ht : t₀ ≤ t) : (s.observe t₀).peekCurrent t = s.peekCurrent t := by
  have hlater : 0 ≤ (s.observe t₀).decay t := decay_nonneg (s := s.observe t₀) hk t
  rw [peekCurrent_eq, peekCurrent_eq, decay_observe s ht]
  show max (max (s.current - s.decay t₀) 0 - (s.observe t₀).decay t) 0 = _
  rcases max_cases (s.current - s.decay t₀) 0 with ⟨h, hle⟩ | ⟨h, hle⟩
  · rw [h, sub_sub]
  · rw [h, max_eq_right (by linarith), max_eq_right (by linarith)]

theorem call_observe (hk : 0 ≤ s.decayPerSec) (c : CounterCall) (ht : t₀ ≤ c.now) :
    (s.observe t₀).call c = s.call c ∧ ((s.observe t₀).Accepted c ↔ s.Accepted c) := by
  have hpeek := peekCurrent_observe hk ht
  have hlast : max c.now (max t₀ s.lastUpdated) = max c.now s.lastUpdated := by
    rw [← max_assoc, max_eq_left ht]
  cases c <;> simp only [CounterCall.now] at hpeek hlast <;>
    simp only [call, Accepted, charge, chargeSaturating, snapToCap, hpeek] <;> simp [observe, hlast]

/-! ## The lead of the charged run -/

theorem peekCurrent_add (s : RateLimitCounter ℚ) (d : ℚ) (t : MonotonicInstant) :
    (s.add d).peekCurrent t = max (s.current - s.decay t + d) 0 := by
  rw [peekCurrent_eq]
  show max (s.current + d - s.decay t) 0 = _
  rw [add_sub_right_comm]

theorem charge_accepted {cost : ℚ} (h : (s.charge cost t).1 = .charged) : (s.charge cost t).2 = (s.observe t).add cost := by
  simp only [charge] at h ⊢
  split_ifs at h ⊢
  rfl

/-- **One call** may shrink a lead, and leaves all of it exactly where it clamps nothing. -/
theorem call_add {d : ℚ} (hd : 0 ≤ d) (c : CounterCall) (hacc : s.Accepted c) (hacc' : (s.add d).Accepted c) :
    ∃ d', (s.add d).call c = (s.call c).add d' ∧ 0 ≤ d' ∧ d' ≤ d ∧ (0 < d → (d' = d ↔ s.Unclamped d c)) := by
  cases c with
  | charge cost now =>
    obtain ⟨hnonneg, hle⟩ := @floor_lead (s.current - s.decay now) d hd
    refine ⟨_, ?_, hnonneg, hle, fun hpos => ?_⟩
    · show ((s.add d).charge cost now).2 = ((s.charge cost now).2).add _
      rw [charge_accepted hacc, charge_accepted hacc']
      simp only [add, observe, ← peekCurrent_eq]
      rw [← peekCurrent_add]
      simp only [add, RateLimitCounter.mk.injEq, and_true]
      ring
    · rw [floor_lead_eq hpos]
      exact sub_nonneg
  | chargeSaturating cost now =>
    obtain ⟨hnonneg, hle⟩ := @floor_lead (s.current - s.decay now) d hd
    have hpos' := @floor_lead_eq (s.current - s.decay now) d
    have hpeek := peekCurrent_add s d now
    rw [← peekCurrent_eq] at hnonneg hle hpos'
    rw [← hpeek] at hnonneg hle hpos'
    generalize hlead : (s.add d).peekCurrent now - s.peekCurrent now = lead at hnonneg hle hpos'
    have hsum : (s.add d).peekCurrent now + cost = s.peekCurrent now + cost + lead := by
      rw [← hlead]
      ring
    obtain ⟨hnonneg', hle'⟩ := @cap_lead (s.peekCurrent now + cost) lead s.cap hnonneg
    refine ⟨_, ?_, hnonneg', hle'.trans hle, fun hpos => ?_⟩
    · simp only [call, chargeSaturating, hsum]
      simp only [add, RateLimitCounter.mk.injEq, and_true]
      ring
    · have hfloor := hpos' hpos
      constructor
      · intro heq
        obtain rfl : lead = d := le_antisymm hle (heq ▸ hle')
        have hy : s.decay now ≤ s.current := sub_nonneg.1 (hfloor.1 rfl)
        have hcap := (cap_lead_eq hpos).1 heq
        rw [peekCurrent_eq, max_eq_left (sub_nonneg.2 hy)] at hcap
        exact ⟨hy, by linarith⟩
      · rintro ⟨hy, hcap⟩
        obtain rfl : lead = d := hfloor.2 (sub_nonneg.2 hy)
        refine (cap_lead_eq hpos).2 ?_
        rw [peekCurrent_eq, max_eq_left (sub_nonneg.2 hy)]
        linarith
  | snapToCap now =>
    refine ⟨0, by simp [call, snapToCap, add], le_rfl, hd, fun hpos => ?_⟩
    constructor
    · intro h
      exact absurd h hpos.ne
    · exact False.elim

/-- **A run.** A lead that has shrunk stays shrunk. -/
theorem exec_add {d : ℚ} (hd : 0 ≤ d) {calls : List CounterCall} (hacc : Allowed call Accepted s calls)
    (hacc' : Allowed call Accepted (s.add d) calls) :
    ∃ d', exec call (s.add d) calls = (exec call s calls).add d' ∧ 0 ≤ d' ∧ d' ≤ d ∧
      (0 < d → (d' = d ↔ Allowed call (Unclamped d) s calls)) := by
  induction calls generalizing s d with
  | nil => exact ⟨d, rfl, hd, le_rfl, fun _ => ⟨fun _ => trivial, fun _ => rfl⟩⟩
  | cons c calls ih =>
    obtain ⟨hc, hrest⟩ := hacc
    obtain ⟨hc', hrest'⟩ := hacc'
    obtain ⟨d₁, hstep, hnonneg₁, hle₁, hiff₁⟩ := call_add hd c hc hc'
    rw [hstep] at hrest'
    obtain ⟨d₂, hrun, hnonneg₂, hle₂, hiff₂⟩ := ih hnonneg₁ hrest hrest'
    refine ⟨d₂, by rw [exec_cons, hstep, hrun, exec_cons], hnonneg₂, hle₂.trans hle₁, fun hpos => ?_⟩
    constructor
    · rintro rfl
      obtain rfl : d₁ = d₂ := le_antisymm hle₁ hle₂
      exact ⟨(hiff₁ hpos).1 rfl, (hiff₂ hpos).1 rfl⟩
    · rintro ⟨hunclamped, hrest⟩
      obtain rfl : d₁ = d := (hiff₁ hpos).2 hunclamped
      exact (hiff₂ hpos).2 hrest

theorem peekCurrent_credit (s : RateLimitCounter ℚ) (cost : ℚ) (t : MonotonicInstant) :
    (s.credit cost t).peekCurrent t = max (s.peekCurrent t - cost) 0 := by
  have helapsed : t - max t s.lastUpdated = 0 := Nat.sub_eq_zero_of_le (le_max_left t s.lastUpdated)
  have hdecay : (s.credit cost t).decay t = 0 := by simp [decay, credit, asSecs, helapsed]
  rw [peekCurrent_eq, hdecay, sub_zero]
  exact max_eq_left (le_max_right _ _)

/-- **The credit** takes nothing from others exactly where there is nothing left, or all of the lead is still there. -/
theorem credit_add {d cost : ℚ} (hd : 0 ≤ d) (hle : d ≤ cost) (s : RateLimitCounter ℚ) (t : MonotonicInstant) :
    s.peekCurrent t ≤ ((s.add d).credit cost t).peekCurrent t ↔ d = cost ∨ s.current ≤ s.decay t := by
  rw [peekCurrent_credit, peekCurrent_add, peekCurrent_eq]
  constructor
  · intro h
    by_contra hnot
    rw [not_or, not_le] at hnot
    obtain ⟨hne, hlt⟩ := hnot
    have hshrunk : d < cost := lt_of_le_of_ne hle hne
    rw [max_eq_left (by linarith : 0 ≤ s.current - s.decay t),
      max_eq_left (by linarith : 0 ≤ s.current - s.decay t + d)] at h
    rcases max_cases (s.current - s.decay t + d - cost) 0 with ⟨h', -⟩ | ⟨h', -⟩ <;> rw [h'] at h <;> linarith
  · rintro (rfl | hdrained)
    · refine max_le (le_max_of_le_left ?_) (le_max_right _ _)
      have := le_max_left (s.current - s.decay t + d) 0
      linarith
    · rw [max_eq_right (by linarith : s.current - s.decay t ≤ 0)]
      exact le_max_right _ _

/-- A whole lead is taken back, no more and no less. -/
theorem credit_add_self {cost : ℚ} (hcost : 0 ≤ cost) (s : RateLimitCounter ℚ) (t : MonotonicInstant) :
    ((s.add cost).credit cost t).peekCurrent t = s.peekCurrent t := by
  refine le_antisymm ?_ ((credit_add hcost le_rfl s t).2 (.inl rfl))
  rw [peekCurrent_credit, peekCurrent_add, peekCurrent_eq]
  obtain ⟨-, hlead⟩ := @floor_lead (s.current - s.decay t) cost hcost
  exact max_le (by linarith) (le_max_right _ _)

/-! ## The run with the charge and the run without -/

/-- Writing the decay down first changes no later state. -/
theorem exec_observe (hk : 0 ≤ s.decayPerSec) {calls : List CounterCall} (hne : calls ≠ [])
    (hnow : ∀ c ∈ calls, t₀ ≤ c.now) :
    exec call (s.observe t₀) calls = exec call s calls ∧
      (Allowed call Accepted (s.observe t₀) calls ↔ Allowed call Accepted s calls) := by
  cases calls with
  | nil => exact absurd rfl hne
  | cons c calls =>
    obtain ⟨hstep, hacc⟩ := call_observe hk c (hnow c (by simp))
    simp only [exec_cons, Allowed, hstep, hacc, and_self]

/-- **A refund and the usage of others.** With times that do not precede the charge, the counter after the credit is
at least the counter of the run with neither exactly when the cost is nothing, or nothing is left in the run without, or
no call in between clamped; and with no call in between the two are equal. `new` asserts that the decay is not negative. -/
theorem refund_iff (s : RateLimitCounter ℚ) (hk : 0 ≤ s.decayPerSec) {cost : ℚ} (hcost : 0 ≤ cost)
    {calls : List CounterCall} (hnow : ∀ c ∈ calls, t₀ ≤ c.now) (ht : t₀ ≤ t) (hcharged : (s.charge cost t₀).1 = .charged)
    (hwith : Allowed call Accepted (s.charge cost t₀).2 calls) (hwithout : Allowed call Accepted s calls) :
    ((exec call s calls).peekCurrent t ≤ ((exec call (s.charge cost t₀).2 calls).credit cost t).peekCurrent t ↔
      cost = 0 ∨ (exec call s calls).current ≤ (exec call s calls).decay t ∨
        Allowed call (Unclamped cost) (s.observe t₀) calls) ∧
    ((s.charge cost t₀).2.credit cost t).peekCurrent t = s.peekCurrent t := by
  rw [charge_accepted hcharged] at hwith ⊢
  have hequal : (((s.observe t₀).add cost).credit cost t).peekCurrent t = s.peekCurrent t := by
    rw [credit_add_self hcost, peekCurrent_observe hk ht]
  refine ⟨?_, hequal⟩
  by_cases hne : calls = []
  · subst hne
    constructor
    · intro _
      exact .inr (.inr trivial)
    · intro _
      exact hequal.ge
  · obtain ⟨hexec, hacc⟩ := exec_observe hk hne hnow
    obtain ⟨d, hrun, hd, hle, hiff⟩ := exec_add hcost (hacc.2 hwithout) hwith
    rw [hrun, ← hexec, credit_add hd hle]
    rcases hcost.eq_or_lt with rfl | hpos
    · simp [le_antisymm hle hd]
    · rw [hiff hpos]
      have hcost' : cost ≠ 0 := hpos.ne'
      tauto

/-- The condition met with a charge in between. -/
theorem refund_iff_charge :
    let s : RateLimitCounter ℚ := new 60 1 0
    (exec call s [.charge 2 0]).peekCurrent (10 ^ 9) ≤
      ((exec call (s.charge 1 0).2 [.charge 2 0]).credit 1 (10 ^ 9)).peekCurrent (10 ^ 9) := by
  intro s
  have hwith : Allowed call Accepted (s.charge 1 0).2 [.charge 2 0] := ⟨by decide +kernel, trivial⟩
  have hwithout : Allowed call Accepted s [.charge 2 0] := ⟨by decide +kernel, trivial⟩
  have hunclamped : Allowed call (Unclamped 1) (s.observe 0) [.charge 2 0] := ⟨by decide +kernel, trivial⟩
  exact (refund_iff s (by decide +kernel) (by decide +kernel) (by decide +kernel) (by decide +kernel)
    (by decide +kernel) hwith hwithout).1.2 (.inr (.inr hunclamped))

/-- A throttle error between the two: the counter is at its cap, and the credit makes room in it. -/
theorem credit_after_snap :
    ¬ ∀ (s : RateLimitCounter ℚ) (cost : ℚ) (t₀ t : MonotonicInstant) (calls : List CounterCall),
      0 ≤ s.decayPerSec → 0 ≤ cost → (t₀ :: (calls.map CounterCall.now ++ [t])).Pairwise (· ≤ ·) →
      (s.charge cost t₀).1 = .charged → Allowed call Accepted (s.charge cost t₀).2 calls →
      Allowed call Accepted s calls →
      (exec call s calls).peekCurrent t ≤ ((exec call (s.charge cost t₀).2 calls).credit cost t).peekCurrent t := by
  intro h
  have hle := h (new 60 1 0) 1 0 0 [.snapToCap 0] (by decide +kernel) (by decide +kernel) (by decide +kernel)
    (by decide +kernel) ⟨trivial, trivial⟩ ⟨trivial, trivial⟩
  revert hle
  decide +kernel

end KrakenSdk.RateLimit.RateLimitCounter
