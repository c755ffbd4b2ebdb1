import Mathlib.Data.List.Infix
/-!
# Runs of a deterministic step function

A system is a step function `step : σ → ℓ → σ`; a label carries everything the environment
chooses (the input, the clock, what a called service answers). `Reach step ok s₀ s` is the
states a run from `s₀` can be in when every step it takes satisfies `ok`; `Reach.invariant`
is the induction all safety results use, and `Reach.exec` turns a list of labels into a run.
-/
namespace StepSystem

variable {σ ℓ : Type*}

/-- The states reached from `s₀` by steps that all satisfy `ok`. -/
inductive Reach (step : σ → ℓ → σ) (ok : σ → ℓ → Prop) (s₀ : σ) : σ → Prop
  | init : Reach step ok s₀ s₀
  | step {s : σ} (l : ℓ) : Reach step ok s₀ s → ok s l → Reach step ok s₀ (step s l)

/-- The condition every step meets: a run with no restriction on its labels. -/
def anyStep (_ : σ) (_ : ℓ) : Prop := True

/-- Run a list of labels. -/
def exec (step : σ → ℓ → σ) (s : σ) (ls : List ℓ) : σ := ls.foldl step s

/-- Every step of the run over `ls` satisfies `ok`. -/
def Allowed (step : σ → ℓ → σ) (ok : σ → ℓ → Prop) : σ → List ℓ → Prop
  | _, [] => True
  | s, l :: ls => ok s l ∧ Allowed step ok (step s l) ls

variable {step : σ → ℓ → σ} {ok ok' : σ → ℓ → Prop} {s₀ s s' : σ}

@[simp] theorem exec_nil (s : σ) : exec step s [] = s := rfl

@[simp] theorem exec_cons (s : σ) (l : ℓ) (ls : List ℓ) : exec step s (l :: ls) = exec step (step s l) ls := rfl

theorem exec_append (s : σ) (ls ls' : List ℓ) : exec step s (ls ++ ls') = exec step (exec step s ls) ls' :=
  List.foldl_append ..

/-- **The invariant rule.** -/
theorem Reach.invariant {Inv : σ → Prop} (h0 : Inv s₀) (hstep : ∀ s l, Inv s → ok s l → Inv (step s l))
    (h : Reach step ok s₀ s) : Inv s := by
  induction h with
  | init => exact h0
  | step l _ hok ih => exact hstep _ l ih hok

/-- One step, and a run from there. -/
theorem exists_exec_cons (l : ℓ) (h : ∃ ls, exec step (step s l) ls = s') : ∃ ls, exec step s ls = s' := by
  obtain ⟨ls, hls⟩ := h
  exact ⟨l :: ls, hls⟩

theorem Reach.trans (h : Reach step ok s₀ s) (h' : Reach step ok s s') : Reach step ok s₀ s' := by
  induction h' with
  | init => exact h
  | step l _ hok ih => exact .step l ih hok

/-- A run over an allowed list of labels reaches its last state. -/
theorem Reach.exec {ls : List ℓ} (h : Allowed step ok s ls) : Reach step ok s (exec step s ls) := by
  induction ls generalizing s with
  | nil => exact .init
  | cons l ls ih =>
    obtain ⟨hl, hls⟩ := h
    exact (Reach.step l .init hl).trans (ih hls)

/-- A condition on labels alone is met by a run whose labels all meet it. -/
theorem allowed_of_forall {p : ℓ → Prop} {ls : List ℓ} (h : ∀ l ∈ ls, p l) (s : σ) :
    Allowed step (fun _ l => p l) s ls := by
  induction ls generalizing s with
  | nil => trivial
  | cons l ls ih => exact ⟨h l (by simp), ih (fun l' hl' => h l' (by simp [hl'])) _⟩

theorem allowed_append {ls ls' : List ℓ} :
    Allowed step ok s (ls ++ ls') ↔ Allowed step ok s ls ∧ Allowed step ok (exec step s ls) ls' := by
  induction ls generalizing s with
  | nil => exact (and_iff_right trivial).symm
  | cons l ls ih =>
    rw [List.cons_append, Allowed, ih, Allowed, and_assoc]
    rfl

theorem allowed_anyStep (s : σ) (ls : List ℓ) : Allowed step anyStep s ls := by
  induction ls generalizing s with
  | nil => trivial
  | cons l ls ih => exact ⟨trivial, ih _⟩

/-- Any list of labels is a run when nothing restricts the steps. -/
theorem reach_anyStep (s : σ) (ls : List ℓ) : Reach step anyStep s (exec step s ls) :=
  Reach.exec (allowed_anyStep s ls)

/-- Two step conditions that agree in every state a run allowed by `ok₀` keeps `J` in. -/
theorem allowed_congr {J : σ → Prop} {ok₀ : σ → ℓ → Prop} (hJ : ∀ s l, J s → ok₀ s l → J (step s l))
    (hiff : ∀ s l, J s → (ok s l ↔ ok' s l)) (hj : J s) {ls : List ℓ} (h₀ : Allowed step ok₀ s ls) :
    Allowed step ok s ls ↔ Allowed step ok' s ls := by
  induction ls generalizing s with
  | nil => exact Iff.rfl
  | cons l ls ih =>
    obtain ⟨hl, hls⟩ := h₀
    exact and_congr (hiff s l hj) (ih (hJ s l hj hl) hls)

/-- An invariant along a run is the step condition along it: when a step from a good state keeps
`Inv` exactly if it satisfies `ok`, every state of the run satisfies `Inv` exactly if every step
satisfies `ok`. `J` is what such a step keeps whether or not it does. -/
theorem forall_prefix_iff_allowed_along {J Inv : σ → Prop} (hJ : ∀ s l, J s → Inv s → J (step s l))
    (hiff : ∀ s l, J s → Inv s → (Inv (step s l) ↔ ok s l)) (hj : J s) (hinv : Inv s) (ls : List ℓ) :
    (∀ p, p <+: ls → Inv (exec step s p)) ↔ Allowed step ok s ls := by
  induction ls generalizing s with
  | nil => simpa [Allowed] using hinv
  | cons l ls ih =>
    constructor
    · intro h
      have hl : Inv (step s l) := h [l] (by simp)
      refine ⟨(hiff s l hj hinv).1 hl, (ih (hJ s l hj hinv) hl).1 fun p hp => ?_⟩
      exact h (l :: p) (List.cons_prefix_cons.2 ⟨rfl, hp⟩)
    · rintro ⟨hl, hls⟩ p hp
      cases p with
      | nil => exact hinv
      | cons l' p =>
        obtain ⟨rfl, hp'⟩ := List.cons_prefix_cons.1 hp
        exact (ih (hJ s _ hj hinv) ((hiff s _ hj hinv).2 hl)).2 hls p hp'

/-- The same where `J` holds of every state. -/
theorem forall_prefix_iff_allowed {J Inv : σ → Prop} (hJ : ∀ s l, J s → J (step s l))
    (hiff : ∀ s l, J s → Inv s → (Inv (step s l) ↔ ok s l)) (hj : J s) (hinv : Inv s) (ls : List ℓ) :
    (∀ p, p <+: ls → Inv (exec step s p)) ↔ Allowed step ok s ls :=
  forall_prefix_iff_allowed_along (fun s l hj _ => hJ s l hj) hiff hj hinv ls

/-! ## What was begun and has not been ended since -/

/-- At some step of the run `begins` held, and at no step after it did `ends`. -/
def Since (step : σ → ℓ → σ) (begins ends : σ → ℓ → Prop) (s : σ) (ls : List ℓ) : Prop :=
  ∃ before l after, ls = before ++ l :: after ∧ begins (exec step s before) l ∧
    ∀ mid l' rest, after = mid ++ l' :: rest → ¬ ends (exec step s (before ++ l :: mid)) l'

section Since

variable {begins ends : σ → ℓ → Prop}

theorem not_since_nil : ¬ Since step begins ends s [] := by
  rintro ⟨before, l, after, h, -⟩
  cases before <;> cases h

theorem since_concat {ls : List ℓ} {l : ℓ} : Since step begins ends s (ls ++ [l]) ↔
    begins (exec step s ls) l ∨ Since step begins ends s ls ∧ ¬ ends (exec step s ls) l := by
  constructor
  · rintro ⟨before, l₁, after, hsplit, hbegins, hends⟩
    rcases List.eq_nil_or_concat after with rfl | ⟨after, l₂, rfl⟩
    · obtain ⟨rfl, rfl⟩ := List.append_singleton_inj.1 hsplit
      exact .inl hbegins
    · rw [List.concat_eq_append, ← List.cons_append, ← List.append_assoc] at hsplit
      obtain ⟨rfl, rfl⟩ := List.append_singleton_inj.1 hsplit
      refine .inr ⟨⟨before, l₁, after, rfl, hbegins, fun mid l' rest h => ?_⟩, ?_⟩
      · exact hends mid l' (rest ++ [l]) (by rw [h]; simp)
      · exact hends after l [] (by simp)
  · rintro (hbegins | ⟨⟨before, l₁, after, rfl, hbegins, hends⟩, hlast⟩)
    · refine ⟨ls, l, [], rfl, hbegins, fun mid l' rest h => ?_⟩
      cases mid <;> cases h
    · refine ⟨before, l₁, after ++ [l], by simp, hbegins, fun mid l' rest h => ?_⟩
      rcases List.eq_nil_or_concat rest with rfl | ⟨rest, l₂, rfl⟩
      · obtain ⟨rfl, rfl⟩ := List.append_singleton_inj.1 h
        exact hlast
      · rw [List.concat_eq_append, ← List.cons_append, ← List.append_assoc] at h
        obtain ⟨rfl, -⟩ := List.append_singleton_inj.1 h
        exact hends mid l' rest rfl

/-- **The rule of a state that remembers**: what `begins` sets and `ends` resets holds exactly if it was begun and not
ended since. `J` is what the allowed steps keep. -/
theorem iff_since {J P : σ → Prop} (hJ : ∀ s l, J s → ok s l → J (step s l))
    (hstep : ∀ s l, J s → ok s l → (P (step s l) ↔ begins s l ∨ P s ∧ ¬ ends s l)) (hj : J s) (hP : ¬ P s)
    {ls : List ℓ} (hok : Allowed step ok s ls) : P (exec step s ls) ↔ Since step begins ends s ls := by
  induction ls using List.reverseRecOn with
  | nil => exact iff_of_false hP not_since_nil
  | append_singleton ls l ih =>
    obtain ⟨hls, hl, -⟩ := allowed_append.1 hok
    have hreach : J (exec step s ls) := (Reach.exec hls).invariant hj hJ
    rw [since_concat, ← ih hls, exec_append]
    exact hstep _ l hreach hl

end Since

/-! ## Conservation

What the steps of a run take in and give out, collected along it. When each step balances what it
takes in against what the state holds and what it gives out, so does the run: nothing is lost
and nothing is counted twice. Stated with `count`, so that arithmetic closes what uses it. -/

/-- Collect `f` along the steps of a run. -/
def along {α : Type*} (step : σ → ℓ → σ) (f : σ → ℓ → List α) : σ → List ℓ → List α
  | _, [] => []
  | s, l :: ls => f s l ++ along step f (step s l) ls

@[simp] theorem along_nil {α : Type*} (s : σ) (ls : List ℓ) :
    along step (fun _ _ => ([] : List α)) s ls = [] := by
  induction ls generalizing s with
  | nil => rfl
  | cons l ls ih => exact ih (step s l)

/-- Collecting what the labels alone say. -/
theorem along_const {α : Type*} (f : ℓ → List α) (s : σ) (ls : List ℓ) :
    along step (fun _ l => f l) s ls = ls.flatMap f := by
  induction ls generalizing s with
  | nil => rfl
  | cons l ls ih => rw [along, ih, List.flatMap_cons]

theorem along_append {α : Type*} (f : σ → ℓ → List α) (s : σ) (ls ls' : List ℓ) :
    along step f s (ls ++ ls') = along step f s ls ++ along step f (exec step s ls) ls' := by
  induction ls generalizing s with
  | nil => rfl
  | cons l ls ih => rw [List.cons_append, along, along, ih, exec_cons, List.append_assoc]

/-- Where one value is collected at each step, a position of the collection is a step of the run. -/
theorem along_split {α : Type*} {g : σ → ℓ → α} {ls : List ℓ} {pre post : List α} {o : α}
    (h : along step (fun s l => [g s l]) s ls = pre ++ o :: post) :
    ∃ ls₁ l ls₂, ls = ls₁ ++ l :: ls₂ ∧ along step (fun s l => [g s l]) s ls₁ = pre ∧ g (exec step s ls₁) l = o := by
  induction ls generalizing s pre with
  | nil => cases pre <;> cases h
  | cons l ls ih =>
    rw [along, List.singleton_append] at h
    cases pre with
    | nil =>
      obtain ⟨ho, -⟩ := List.cons.inj h
      exact ⟨[], l, ls, rfl, rfl, ho⟩
    | cons o' pre =>
      obtain ⟨ho', h⟩ := List.cons.inj h
      obtain ⟨ls₁, l', ls₂, rfl, hpre, ho⟩ := ih h
      exact ⟨l :: ls₁, l', ls₂, rfl, by rw [along, hpre, ho', List.singleton_append], ho⟩

/-- An invariant that speaks about the labels still to come, carried to the end of the run. -/
theorem exec_remaining {J : σ → List ℓ → Prop} (hJ : ∀ s l ls, J s (l :: ls) → J (step s l) ls) (ls : List ℓ)
    (hj : J s ls) : J (exec step s ls) [] := by
  induction ls generalizing s with
  | nil => exact hj
  | cons l ls ih => exact ih (hJ s l ls hj)

/-- **The conservation rule.** `J` may speak about the labels still to come: that is how "every id is
taken in once" is said. -/
theorem conserved {α : Type*} [DecidableEq α] {J : σ → List ℓ → Prop} (held : σ → List α)
    (taken given : σ → ℓ → List α) (hJ : ∀ s l ls, J s (l :: ls) → J (step s l) ls)
    (hstep : ∀ s l ls, J s (l :: ls) → ∀ a,
      (held (step s l)).count a + (given s l).count a = (held s).count a + (taken s l).count a)
    (ls : List ℓ) (hj : J s ls) (a : α) :
    (held (exec step s ls)).count a + (along step given s ls).count a =
      (held s).count a + (along step taken s ls).count a := by
  induction ls generalizing s with
  | nil => simp [along]
  | cons l ls ih =>
    have h1 := hstep s l ls hj a
    have h2 := ih (hJ s l ls hj)
    simp only [exec_cons, along, List.count_append]
    omega

/-- Held in one place and not given out, or given out once and held no more. -/
def HeldOrGiven {α : Type*} [DecidableEq α] (held given : List α) (a : α) : Prop :=
  (held.count a = 1 ∧ a ∉ given) ∨ (a ∉ held ∧ given.count a = 1)

theorem heldOrGiven_of_count {α : Type*} [DecidableEq α] {held given : List α} {a : α}
    (h : held.count a + given.count a = 1) : HeldOrGiven held given a := by
  rcases Nat.eq_zero_or_pos (given.count a) with h0 | h0
  · exact .inl ⟨by omega, List.count_eq_zero.1 h0⟩
  · exact .inr ⟨List.count_eq_zero.1 (by omega), by omega⟩

end StepSystem
