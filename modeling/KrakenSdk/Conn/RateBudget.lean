import KrakenSdk.Conn.HandleEvent
import KrakenSdk.Lib.StepSystem
import Mathlib.Data.List.TakeWhile
/-!
# The connect-rate budget (conn/rate_budget.rs)

A window of the connect attempts that were let through. `admitted_window`: where time does not go back, no closed
interval of the window's length holds more of them than the budget. `throttled_iff`: the instant a refusal names is
one nanosecond early, since an attempt of exactly the window's age still counts.
-/
namespace KrakenSdk.Conn

open StepSystem

/-- `ConnectionRateBudget` (rate_budget.rs:33-41); the deque is a list, its front first. -/
structure ConnectionRateBudget where
  attempts : List MonotonicInstant
  window : Nat
  budget : UInt32
  deriving DecidableEq, Repr

namespace ConnectionRateBudget

/-- `with_knobs`. -/
def withKnobs (budget : UInt32) (window : Nat) : ConnectionRateBudget := ⟨[], window, budget⟩

/-- `prune`: the cutoff is `checked_sub`, or the origin. -/
def prune (b : ConnectionRateBudget) (now : MonotonicInstant) : ConnectionRateBudget :=
  let cutoff := now - b.window
  { b with attempts := b.attempts.dropWhile (decide <| · < cutoff) }

/-- `attempts.push_back(now)`. -/
def record (b : ConnectionRateBudget) (now : MonotonicInstant) : ConnectionRateBudget :=
  { b with attempts := b.attempts ++ [now] }

/-- `try_consume`: `len() as u32` is cut to 32 bits. -/
def tryConsume (b : ConnectionRateBudget) (now : MonotonicInstant) :
    Except ConnectionRateThrottled Unit × ConnectionRateBudget :=
  let b := b.prune now
  let used := b.attempts.length % 2 ^ 32
  if b.budget.toNat ≤ used then
    match b.attempts with
    | oldest :: _ => (.error ⟨used, b.budget.toNat, oldest + b.window⟩, b)
    -- A budget of 0 finds no attempt to name, and lets this one through.
    | [] => (.ok (), b.record now)
  else (.ok (), b.record now)

/-- One call. -/
def consume (b : ConnectionRateBudget) (now : MonotonicInstant) : ConnectionRateBudget := (b.tryConsume now).2

/-- The attempts a list of calls lets through. -/
def admitted (b : ConnectionRateBudget) (nows : List MonotonicInstant) : List MonotonicInstant :=
  along consume (fun b now => if (b.tryConsume now).1 = .ok () then [now] else []) b nows

variable {b : ConnectionRateBudget} {now t : MonotonicInstant} {nows later : List MonotonicInstant}

/-! ## One call -/

/-- Within what a `u32` counts: a budget of 0 lets one attempt through at a time. -/
def Bounded (b : ConnectionRateBudget) : Prop := b.attempts.length ≤ max 1 b.budget.toNat

theorem used_of_bounded (h : b.Bounded) : b.attempts.length % 2 ^ 32 = b.attempts.length := by
  have hlt : b.budget.toNat < 2 ^ 32 := b.budget.toNat_lt
  unfold Bounded at h
  exact Nat.mod_eq_of_lt (by omega)

theorem bounded_prune (h : b.Bounded) (now : MonotonicInstant) : (b.prune now).Bounded :=
  Nat.le_trans (List.dropWhile_sublist _).length_le h

/-- **A call, whatever it answers**: a refusal changes nothing but what is too old, and names its oldest attempt. -/
theorem tryConsume_cases (h : b.Bounded) (now : MonotonicInstant) :
    (∃ oldest rest, (b.prune now).attempts = oldest :: rest ∧ b.budget.toNat ≤ (b.prune now).attempts.length ∧
      b.tryConsume now = (.error ⟨(b.prune now).attempts.length, b.budget.toNat, oldest + b.window⟩, b.prune now)) ∨
    ((b.prune now).attempts.length < max 1 b.budget.toNat ∧ b.tryConsume now = (.ok (), (b.prune now).record now)) := by
  have hused := used_of_bounded (bounded_prune h now)
  have hbudget : (b.prune now).budget = b.budget := rfl
  unfold tryConsume
  dsimp only
  rw [hused, hbudget]
  by_cases hfull : b.budget.toNat ≤ (b.prune now).attempts.length
  · rw [if_pos hfull]
    cases hatt : (b.prune now).attempts with
    | nil => exact .inr ⟨by simp, rfl⟩
    | cons oldest rest =>
      rw [hatt] at hfull
      exact .inl ⟨oldest, rest, rfl, hfull, rfl⟩
  · rw [if_neg hfull]
    exact .inr ⟨by omega, rfl⟩

theorem bounded_consume (h : b.Bounded) (now : MonotonicInstant) : (b.consume now).Bounded := by
  unfold consume
  rcases tryConsume_cases h now with ⟨_, _, _, _, hres⟩ | ⟨hlen, hres⟩
  · rw [hres]
    exact bounded_prune h now
  · rw [hres]
    simp only [Bounded, record, List.length_append, List.length_singleton]
    exact hlen

@[simp] theorem window_consume : (b.consume now).window = b.window := by
  unfold consume tryConsume
  dsimp only
  split
  · split <;> rfl
  · rfl

@[simp] theorem budget_consume : (b.consume now).budget = b.budget := by
  unfold consume tryConsume
  dsimp only
  split
  · split <;> rfl
  · rfl

/-- What is pruned has left the window. -/
theorem attempts_prune (b : ConnectionRateBudget) (now : MonotonicInstant) :
    ∃ old, b.attempts = old ++ (b.prune now).attempts ∧ ∀ x ∈ old, x + b.window < now := by
  refine ⟨b.attempts.takeWhile (decide <| · < now - b.window), (List.takeWhile_append_dropWhile ..).symm, fun x hx => ?_⟩
  have hlt := List.mem_takeWhile_imp hx
  exact Nat.add_lt_of_lt_sub (of_decide_eq_true hlt)

/-! ## Runs -/

theorem bounded_exec (h : b.Bounded) (nows : List MonotonicInstant) : (exec consume b nows).Bounded :=
  (reach_anyStep b nows).invariant h fun _ now hb _ => bounded_consume hb now

theorem knobs_exec (b : ConnectionRateBudget) (nows : List MonotonicInstant) :
    (exec consume b nows).window = b.window ∧ (exec consume b nows).budget = b.budget := by
  induction nows using List.reverseRecOn with
  | nil => exact ⟨rfl, rfl⟩
  | append_singleton nows now ih =>
    rw [exec_append, exec_cons, exec_nil]
    simpa using ih

theorem admitted_snoc (b : ConnectionRateBudget) (nows : List MonotonicInstant) (now : MonotonicInstant) :
    b.admitted (nows ++ [now]) =
      b.admitted nows ++ if ((exec consume b nows).tryConsume now).1 = .ok () then [now] else [] := by
  unfold admitted
  rw [along_append]
  simp [along]

/-- What is behind: the history of the attempts let through splits into those forgotten and those still counted. -/
structure Counts (b : ConnectionRateBudget) (latest : MonotonicInstant) (admitted : List MonotonicInstant) : Prop where
  split : ∃ old, admitted = old ++ b.attempts ∧ ∀ x ∈ old, x + b.window < latest
  past : ∀ x ∈ admitted, x ≤ latest

theorem counts_prune {latest : MonotonicInstant} {history : List MonotonicInstant} (h : b.Counts latest history)
    (hn : latest ≤ now) : (b.prune now).Counts now history := by
  obtain ⟨old, hsplit, hold⟩ := h.split
  obtain ⟨older, hatt, holder⟩ := attempts_prune b now
  refine ⟨⟨old ++ older, ?_, fun x hx => ?_⟩, fun x hx => Nat.le_trans (h.past x hx) hn⟩
  · rw [hsplit, hatt, List.append_assoc]
  · rcases List.mem_append.1 hx with hx | hx
    · exact Nat.lt_of_lt_of_le (hold x hx) hn
    · exact holder x hx

theorem counts_consume {latest : MonotonicInstant} {history : List MonotonicInstant} (hb : b.Bounded)
    (h : b.Counts latest history) (hn : latest ≤ now) :
    (b.consume now).Counts now (history ++ if (b.tryConsume now).1 = .ok () then [now] else []) := by
  have hprune := counts_prune h hn
  unfold consume
  rcases tryConsume_cases hb now with ⟨_, _, _, _, hres⟩ | ⟨-, hres⟩
  · rw [hres]
    simpa using hprune
  · obtain ⟨old, hsplit, hold⟩ := hprune.split
    rw [hres, if_pos rfl]
    refine ⟨⟨old, by simp [record, hsplit], hold⟩, fun x hx => ?_⟩
    rcases List.mem_append.1 hx with hx | hx
    · exact hprune.past x hx
    · exact Nat.le_of_eq (List.mem_singleton.1 hx)

/-- The calls so far, none of them later than `latest`. -/
theorem counts_exec (budget : UInt32) (window : Nat) (hsorted : nows.Pairwise (· ≤ ·)) {latest : MonotonicInstant}
    (hl : ∀ x ∈ nows, x ≤ latest) :
    (exec consume (withKnobs budget window) nows).Counts latest ((withKnobs budget window).admitted nows) := by
  induction nows using List.reverseRecOn generalizing latest with
  | nil => exact ⟨⟨[], rfl, nofun⟩, nofun⟩
  | append_singleton nows now ih =>
    obtain ⟨hpre, -, hlast⟩ := List.pairwise_append.1 hsorted
    have hcounts := ih hpre fun x hx => hlast x hx now (by simp)
    have hbounded := bounded_exec (b := withKnobs budget window) (Nat.zero_le _) nows
    rw [admitted_snoc, exec_append]
    have hstep := counts_consume hbounded hcounts (Nat.le_refl now)
    have hnow : now ≤ latest := hl now (by simp)
    obtain ⟨old, hsplit, hold⟩ := hstep.split
    exact ⟨⟨old, hsplit, fun x hx => Nat.lt_of_lt_of_le (hold x hx) hnow⟩,
      fun x hx => Nat.le_trans (hstep.past x hx) hnow⟩

/-- **At most the budget in any closed window.** -/
theorem admitted_window (budget : UInt32) (window : Nat) (hb : 1 ≤ budget) (hsorted : nows.Pairwise (· ≤ ·))
    (lo : MonotonicInstant) :
    (((withKnobs budget window).admitted nows).filter fun x => lo ≤ x ∧ x ≤ lo + window).length ≤ budget.toNat := by
  induction nows using List.reverseRecOn with
  | nil => exact Nat.zero_le _
  | append_singleton nows now ih =>
    obtain ⟨hpre, -, hlast⟩ := List.pairwise_append.1 hsorted
    have hcounts := counts_exec budget window hpre fun x hx => hlast x hx now (by simp)
    have hbounded := bounded_exec (b := withKnobs budget window) (Nat.zero_le _) nows
    obtain ⟨hwindow, hbudget⟩ := knobs_exec (withKnobs budget window) nows
    rw [admitted_snoc, List.filter_append, List.length_append]
    generalize hs : exec consume (withKnobs budget window) nows = s at *
    have hrest := ih hpre
    rcases tryConsume_cases hbounded now with ⟨_, _, _, _, hres⟩ | ⟨hlen, hres⟩
    · simpa [hres] using hrest
    · by_cases hin : lo ≤ now ∧ now ≤ lo + window
      · -- What is forgotten by now lies before the window.
        obtain ⟨old, hsplit, hold⟩ := (counts_prune hcounts (Nat.le_refl now)).split
        have hgone : old.filter (fun x => lo ≤ x ∧ x ≤ lo + window) = [] := by
          refine List.filter_eq_nil_iff.2 fun x hx => ?_
          have hw : (s.prune now).window = window := hwindow
          have hlt := hold x hx
          rw [hw] at hlt
          rw [decide_eq_true_eq]
          rintro ⟨hlo, -⟩
          exact Nat.not_lt.2 (Nat.le_trans hin.2 (Nat.add_le_add_right hlo window)) hlt
        have hkept := List.length_filter_le (fun x => decide (lo ≤ x ∧ x ≤ lo + window)) (s.prune now).attempts
        rw [hsplit, List.filter_append, hgone, List.nil_append]
        have hone : 1 ≤ budget.toNat := hb
        have hb' : s.budget.toNat = budget.toNat := by rw [hbudget]; rfl
        have hlast : (([now] : List MonotonicInstant).filter fun x => lo ≤ x ∧ x ≤ lo + window).length = 1 := by
          simp [hin]
        rw [hres, if_pos rfl, hlast]
        omega
      · have hout : (([now] : List MonotonicInstant).filter fun x => lo ≤ x ∧ x ≤ lo + window) = [] := by simpa using hin
        rw [hres, if_pos rfl, hout]
        exact hrest

/-- An attempt of exactly the window's age still counts: the third of these is refused. -/
theorem admitted_window_boundary : (((withKnobs 2 10).admitted [0, 4, 10, 11]).filter fun x => 0 ≤ x ∧ x ≤ 0 + 10).length ≤ 2 :=
  admitted_window 2 10 (by decide) (by decide) 0

/-! ## The instant a refusal names -/

/-- A refusal leaves the budget as it is: nothing was too old. -/
theorem consume_refused (h : b.Bounded) (hr : (b.tryConsume now).1 ≠ .ok ()) : b.consume now = b := by
  unfold consume
  rcases tryConsume_cases h now with ⟨oldest, rest, hatt, hfull, hres⟩ | ⟨-, hres⟩
  · rw [hres]
    obtain ⟨old, hsplit, -⟩ := attempts_prune b now
    have hlen := congrArg List.length hsplit
    rw [List.length_append] at hlen
    have hne : (b.prune now).attempts.length ≠ 0 := by simp [hatt]
    have hold : old = [] := by
      refine List.length_eq_zero_iff.1 ?_
      unfold Bounded at h
      omega
    rw [hold, List.nil_append] at hsplit
    show { b with attempts := (b.prune now).attempts } = b
    rw [← hsplit]
  · exact absurd (by rw [hres]) hr

/-- Nothing is recorded between: every call in between was refused. -/
theorem exec_unrecorded (h : b.Bounded) (hn : b.admitted later = []) : exec consume b later = b := by
  induction later using List.reverseRecOn with
  | nil => rfl
  | append_singleton later now ih =>
    rw [admitted_snoc, List.append_eq_nil_iff] at hn
    obtain ⟨hpre, hlast⟩ := hn
    rw [exec_append, exec_cons, exec_nil]
    rw [ih hpre] at hlast ⊢
    refine consume_refused h fun hok => ?_
    rw [if_pos hok] at hlast
    cases hlast

/-- What the budget's oldest attempt decides, when it is full. -/
theorem tryConsume_full (h : b.Bounded) {oldest : MonotonicInstant} {rest : List MonotonicInstant}
    (hatt : b.attempts = oldest :: rest) (hfull : b.budget.toNat ≤ b.attempts.length) (ht : oldest + b.window ≤ t) :
    b.tryConsume t = if oldest + b.window = t then
        (.error ⟨b.attempts.length, b.budget.toNat, oldest + b.window⟩, b)
      else (.ok (), (b.prune t).record t) := by
  have hprune : (b.prune t).attempts = (oldest :: rest).dropWhile (decide <| · < t - b.window) := by
    rw [← hatt]
    rfl
  rw [List.dropWhile_cons] at hprune
  split_ifs with heq
  · -- An attempt of exactly the window's age is not pruned.
    have hcut : ¬ oldest < t - b.window := by
      rw [← heq, Nat.add_sub_cancel]
      exact Nat.lt_irrefl _
    rw [if_neg (by simpa using hcut), ← hatt] at hprune
    have hsame : b.prune t = b := by
      show { b with attempts := (b.prune t).attempts } = b
      rw [hprune]
    unfold tryConsume
    dsimp only
    rw [hsame, used_of_bounded h, if_pos hfull]
    rw [hatt]
  · have hcut : oldest < t - b.window := Nat.lt_sub_of_add_lt (Nat.lt_of_le_of_ne ht heq)
    rw [if_pos (by simpa using hcut)] at hprune
    have hshort : (b.prune t).attempts.length ≤ rest.length := by
      rw [hprune]
      exact (List.dropWhile_sublist _).length_le
    rcases tryConsume_cases h t with ⟨_, _, hcons, hfull', -⟩ | ⟨-, hres⟩
    · unfold Bounded at h
      rw [hatt, List.length_cons] at h
      rw [hcons, List.length_cons] at hshort hfull'
      omega
    · exact hres

/-- The rate-budget timer after its firing. -/
theorem rateBudgetTimer_fired {mc : ManagedConnection} {env : Env} (hs : mc.state = .backingOff) :
    (mc.handleEvent env .timerRateBudgetWindowAdvanced).timers.rateBudgetWindowAdvancedAt =
      match env.tryConsume with
      | .error refusal => some refusal.throttleUntilMonotonic
      | .ok () => none := by
  unfold ManagedConnection.handleEvent
  rw [hs]
  simp only [ManagedConnection.handleBackingOff]
  cases env.tryConsume <;> rfl

/-- **After a refusal** with nothing recorded since, a call at or after the instant it named is let through exactly
if it is after, and the timer armed at that instant is armed there again exactly if it is not. -/
theorem throttled_iff (budget : UInt32) (window : Nat) {e : ConnectionRateThrottled}
    (hr : ((exec consume (withKnobs budget window) nows).tryConsume now).1 = .error e)
    (hlater : (exec consume (withKnobs budget window) (nows ++ [now])).admitted later = [])
    (ht : e.throttleUntilMonotonic ≤ t) :
    let b := exec consume (withKnobs budget window) (nows ++ [now] ++ later)
    ((b.tryConsume t).1 = .ok () ↔ e.throttleUntilMonotonic < t) ∧
      ∀ (mc : ManagedConnection) (env : Env), mc.state = .backingOff → env.tryConsume = (b.tryConsume t).1 →
        ((mc.handleEvent env .timerRateBudgetWindowAdvanced).timers.rateBudgetWindowAdvancedAt ≠
          some e.throttleUntilMonotonic ↔ e.throttleUntilMonotonic < t) := by
  have hbounded := bounded_exec (b := withKnobs budget window) (Nat.zero_le _) nows
  have hsame : exec consume (withKnobs budget window) (nows ++ [now]) = exec consume (withKnobs budget window) nows := by
    rw [exec_append, exec_cons, exec_nil]
    exact consume_refused hbounded (by rw [hr]; nofun)
  rw [hsame] at hlater
  rw [exec_append, hsame, exec_unrecorded hbounded hlater]
  generalize exec consume (withKnobs budget window) nows = b at *
  have hprune : b.prune now = b := by
    have hrefused : b.consume now = b := consume_refused hbounded (by rw [hr]; nofun)
    unfold consume at hrefused
    rcases tryConsume_cases hbounded now with ⟨_, _, _, _, hres⟩ | ⟨-, hres⟩
    · rwa [hres] at hrefused
    · rw [hres] at hr
      cases hr
  rcases tryConsume_cases hbounded now with ⟨oldest, rest, hatt, hfull, hres⟩ | ⟨-, hres⟩
  · rw [hprune] at hatt hfull
    rw [hres] at hr
    obtain rfl := Except.error.inj hr
    have hcall := tryConsume_full hbounded hatt hfull ht
    dsimp only at ht ⊢
    rw [hcall]
    by_cases heq : oldest + b.window = t
    · have hno : ¬ oldest + b.window < t := by simp [heq]
      rw [if_pos heq]
      refine ⟨iff_of_false nofun hno, fun mc env hs henv => iff_of_false ?_ hno⟩
      rw [rateBudgetTimer_fired hs, henv]
      exact fun h => h rfl
    · have hlt : oldest + b.window < t := Nat.lt_of_le_of_ne ht heq
      rw [if_neg heq]
      refine ⟨iff_of_true rfl hlt, fun mc env hs henv => iff_of_true ?_ hlt⟩
      rw [rateBudgetTimer_fired hs, henv]
      nofun
  · rw [hres] at hr
    cases hr

/-- One attempt in ten nanoseconds: refused at 5 until 10, let through at 11. -/
theorem throttled_iff_after : ((exec consume (withKnobs 1 10) [0, 5, 7]).tryConsume 11).1 = .ok () :=
  (@throttled_iff 5 11 [0] [7] 1 10 ⟨1, 1, 10⟩ (by decide) (by decide) (by decide)).1.2 (by decide)

/-- At 10, the instant the refusal named, it is refused again until 10. -/
theorem throttled_at_named_instant : ¬ ∀ (budget : UInt32) (window : Nat) (nows : List MonotonicInstant)
    (now t : MonotonicInstant) (e : ConnectionRateThrottled),
    ((exec consume (withKnobs budget window) nows).tryConsume now).1 = .error e → e.throttleUntilMonotonic ≤ t →
      ((exec consume (withKnobs budget window) (nows ++ [now])).tryConsume t).1 = .ok () := by
  intro h
  have hok := h 1 10 [0] 5 10 ⟨1, 1, 10⟩ (by decide) (by decide)
  exact absurd hok (by decide)

end ConnectionRateBudget

end KrakenSdk.Conn
