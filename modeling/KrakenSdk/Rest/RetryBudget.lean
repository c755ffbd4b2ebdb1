import Mathlib.Order.Bounds.Basic
import Mathlib.Data.Nat.Count
import KrakenSdk.Rest.Surface
/-!
# What the retry loop spends (rest/surface.rs:279-330, rest/retry.rs:58-91)

The loop reads one outcome after the other and stops at the first that says so. `loopStops` is its test as a function
of the position, `referenceStops` the test of a loop that does not charge the budget for the one healed nonce.
`meetsPolicy_iff` says for which sequences the two make the same attempts, and that the other policies do what they say.
-/
namespace KrakenSdk.Rest

open KrakenSdk.Conn (Json strStartsWith)

/-- What one attempt returns. -/
abbrev Outcome := Except RestError Json

/-! ## The first position of a kind -/

theorem isLeast_setOf {p : Nat → Prop} {n : Nat} : IsLeast {m | p m} n ↔ p n ∧ ∀ m < n, ¬ p m := by
  constructor
  · rintro ⟨hn, hle⟩
    exact ⟨hn, fun m hm hp => absurd (hle hp) (by omega)⟩
  · rintro ⟨hn, hnone⟩
    exact ⟨hn, fun m hp => not_lt.1 fun hm => hnone m hm hp⟩

/-- Two tests have the same first position exactly when they agree wherever neither has succeeded before. -/
theorem isLeast_congr_iff {p q : Nat → Prop} :
    (∀ n, IsLeast {m | p m} n ↔ IsLeast {m | q m} n) ↔
      ∀ n, (∀ m < n, ¬ p m) → (∀ m < n, ¬ q m) → (p n ↔ q n) := by
  have hfirst : ∀ p q : Nat → Prop, (∀ n, (∀ m < n, ¬ p m) → (∀ m < n, ¬ q m) → (p n ↔ q n)) →
      ∀ n, IsLeast {m | p m} n → IsLeast {m | q m} n := by
    intro p q h n hn
    obtain ⟨hn, hnone⟩ := isLeast_setOf.1 hn
    have hq : ∀ m < n, ¬ q m := by
      intro m
      induction m using Nat.strong_induction_on with
      | _ m ih =>
        intro hm hqm
        have hpm := (h m (fun i hi => hnone i (by omega)) fun i hi => ih i hi (by omega)).2 hqm
        exact hnone m hm hpm
    exact isLeast_setOf.2 ⟨(h n hnone hq).1 hn, hq⟩
  constructor
  · intro h n hp hq
    constructor
    · intro hn
      exact ((h n).1 (isLeast_setOf.2 ⟨hn, hp⟩)).1
    · intro hn
      exact ((h n).2 (isLeast_setOf.2 ⟨hn, hq⟩)).1
  · intro h n
    exact ⟨hfirst p q h n, hfirst q p (fun m hq hp => (h m hp hq).symm) n⟩

/-! ## The loop by position -/

/-- Why an outcome may be followed by another attempt. -/
def retryReason (policy : RetryPolicy) : Outcome → Option RetryReason
  | .ok _ => none
  | .error err =>
    match classify err policy with
    | .retry reason => some reason
    | .nonTransient | .ambiguousOrderPlacement => none

/-- How many of the first `n` attempts were refused for their nonce. -/
def nonceFailures (policy : RetryPolicy) (s : Nat → Outcome) (n : Nat) : Nat :=
  Nat.count (fun m => retryReason policy (s m) = some .invalidNonce) n

/-- `run_retry_loop` stops after attempt `n`, counted from 0. -/
def loopStops (policy : RetryPolicy) (maxAttempts : Nat) (s : Nat → Outcome) (n : Nat) : Bool :=
  match retryReason policy (s n) with
  | none => true
  | some reason =>
    if reason = .invalidNonce then decide (1 ≤ nonceFailures policy s n) else decide (maxAttempts ≤ (n + 1) % 2 ^ 32)

/-- The reference: a failure for the nonce is healed once and costs nothing, so only the other attempts are spent. -/
def referenceStops (policy : RetryPolicy) (maxAttempts : Nat) (s : Nat → Outcome) (n : Nat) : Bool :=
  match retryReason policy (s n) with
  | none => true
  | some reason =>
    if reason = .invalidNonce then decide (1 ≤ nonceFailures policy s n) else decide (maxAttempts ≤ n + 1 - nonceFailures policy s n)

variable {policy : RetryPolicy} {maxAttempts : Nat} {s : Nat → Outcome}

theorem runRetryLoop_cons (attempt nonceRetries : Nat) (o : Outcome) (rest : List Outcome) :
    runRetryLoop policy maxAttempts attempt nonceRetries (o :: rest) =
      match retryReason policy o with
      | none => some o
      | some reason =>
        if reason = .invalidNonce then
          if 1 ≤ nonceRetries then some o
          else runRetryLoop policy maxAttempts ((attempt + 1) % 2 ^ 32) (nonceRetries + 1) rest
        else if maxAttempts ≤ (attempt + 1) % 2 ^ 32 then some o
        else runRetryLoop policy maxAttempts ((attempt + 1) % 2 ^ 32) nonceRetries rest := by
  cases o with
  | ok value => rfl
  | error err =>
    simp only [runRetryLoop, retryReason]
    cases classify err policy <;> rfl

/-- The loop from attempt `k` on returns the outcome at the first position where it stops. -/
theorem runRetryLoop_range (k len : Nat) :
    runRetryLoop policy maxAttempts (k % 2 ^ 32) (nonceFailures policy s k) ((List.range' k len).map s) =
      ((List.range' k len).find? (loopStops policy maxAttempts s)).map s := by
  induction len generalizing k with
  | zero => rfl
  | succ len ih =>
    have hcount : nonceFailures policy s (k + 1) =
        nonceFailures policy s k + if retryReason policy (s k) = some .invalidNonce then 1 else 0 := Nat.count_succ ..
    have hmod : (k % 2 ^ 32 + 1) % 2 ^ 32 = (k + 1) % 2 ^ 32 := Nat.mod_add_mod k (2 ^ 32) 1
    have hrest := ih (k + 1)
    rw [hcount] at hrest
    rw [List.range'_succ, List.map_cons, runRetryLoop_cons, List.find?_cons, hmod]
    cases hreason : retryReason policy (s k) with
    | none =>
      have hstops : loopStops policy maxAttempts s k = true := by simp only [loopStops, hreason]
      simp only [hstops, Option.map_some]
    | some reason =>
      rw [hreason] at hrest
      dsimp only
      by_cases hnonce : reason = .invalidNonce
      · have hstops : loopStops policy maxAttempts s k = decide (1 ≤ nonceFailures policy s k) := by
          simp only [loopStops, hreason, if_pos hnonce]
        rw [if_pos (congrArg some hnonce)] at hrest
        rw [if_pos hnonce, hrest, hstops]
        by_cases hone : 1 ≤ nonceFailures policy s k <;> simp [hone]
      · have hstops : loopStops policy maxAttempts s k = decide (maxAttempts ≤ (k + 1) % 2 ^ 32) := by
          simp only [loopStops, hreason, if_neg hnonce]
        rw [if_neg (fun h => hnonce (Option.some.inj h)), add_zero] at hrest
        rw [if_neg hnonce, hrest, hstops]
        split_ifs with hspent <;> simp only [hspent, decide_true, decide_false, Option.map_some]

/-- The call makes `n + 1` attempts of `s` and returns the outcome of the last. -/
def Makes (policy : RetryPolicy) (defaultMaxAttempts : Nat) (s : Nat → Outcome) (n : Nat) : Prop :=
  (∀ m ≤ n, retried policy defaultMaxAttempts ((List.range m).map s) = none) ∧
    retried policy defaultMaxAttempts ((List.range (n + 1)).map s) = some (s n)

/-- The budget of a call. -/
def RetryPolicy.budget (policy : RetryPolicy) (defaultMaxAttempts : Nat) : Nat :=
  max (policy.maxAttempts.getD defaultMaxAttempts) 1

variable {defaultMaxAttempts n : Nat}

theorem retried_range (k : Nat) :
    retried policy defaultMaxAttempts ((List.range k).map s) =
      ((List.range k).find? (loopStops policy (policy.budget defaultMaxAttempts) s)).map s := by
  have hrun := @runRetryLoop_range policy (policy.budget defaultMaxAttempts) s 0 k
  have hzero : nonceFailures policy s 0 = 0 := Nat.count_zero _
  rw [hzero, ← List.range_eq_range'] at hrun
  exact hrun

theorem makes_iff :
    Makes policy defaultMaxAttempts s n ↔
      IsLeast {m | loopStops policy (policy.budget defaultMaxAttempts) s m = true} n := by
  have hnone : ∀ k, retried policy defaultMaxAttempts ((List.range k).map s) = none ↔
      ∀ m < k, ¬ loopStops policy (policy.budget defaultMaxAttempts) s m = true := by
    intro k
    rw [retried_range, Option.map_eq_none_iff]
    simp [List.find?_eq_none]
  rw [isLeast_setOf]
  constructor
  · rintro ⟨hbefore, hsome⟩
    have hn := (hnone n).1 (hbefore n le_rfl)
    refine ⟨?_, hn⟩
    by_contra hstop
    have hall : retried policy defaultMaxAttempts ((List.range (n + 1)).map s) = none := by
      refine (hnone (n + 1)).2 fun m hm => ?_
      by_cases hmn : m = n
      · exact hmn ▸ hstop
      · exact hn m (by omega)
    rw [hall] at hsome
    cases hsome
  · rintro ⟨hn, hbefore⟩
    refine ⟨fun m hm => (hnone m).2 fun i hi => hbefore i (by omega), ?_⟩
    have hfind : (List.range n).find? (loopStops policy (policy.budget defaultMaxAttempts) s) = none :=
      Option.map_eq_none_iff.1 ((retried_range n).symm.trans ((hnone n).2 hbefore))
    rw [retried_range, List.range_succ, List.find?_append, hfind]
    simp [hn]

/-! ## Where the loop and the reference part -/

/-- A failure that is retried out of the budget. -/
def SpendsRetry (policy : RetryPolicy) (o : Outcome) : Prop :=
  ∃ reason, retryReason policy o = some reason ∧ reason ≠ .invalidNonce

/-- A failure for the nonce. -/
def NonceFailure (policy : RetryPolicy) (o : Outcome) : Prop := retryReason policy o = some .invalidNonce

theorem kind_cases (policy : RetryPolicy) (o : Outcome) :
    retryReason policy o = none ∨ NonceFailure policy o ∨ SpendsRetry policy o := by
  cases h : retryReason policy o with
  | none => exact .inl rfl
  | some reason =>
    by_cases hnonce : reason = .invalidNonce
    · subst hnonce
      exact .inr (.inl h)
    · exact .inr (.inr ⟨reason, h, hnonce⟩)

theorem stops_none (h : retryReason policy (s n) = none) :
    loopStops policy maxAttempts s n = true ∧ referenceStops policy maxAttempts s n = true := by
  simp [loopStops, referenceStops, h]

theorem stops_nonce (h : NonceFailure policy (s n)) :
    (loopStops policy maxAttempts s n = true ↔ 1 ≤ nonceFailures policy s n) ∧
      (referenceStops policy maxAttempts s n = true ↔ 1 ≤ nonceFailures policy s n) := by
  have hr : retryReason policy (s n) = some .invalidNonce := h
  simp [loopStops, referenceStops, hr]

theorem stops_spends (h : SpendsRetry policy (s n)) :
    (loopStops policy maxAttempts s n = true ↔ maxAttempts ≤ (n + 1) % 2 ^ 32) ∧
      (referenceStops policy maxAttempts s n = true ↔ maxAttempts ≤ n + 1 - nonceFailures policy s n) := by
  obtain ⟨reason, hr, hne⟩ := h
  simp only [loopStops, referenceStops, hr, if_neg hne, decide_eq_true_eq, and_self]

/-- The loop terminates, whatever the budget: the counter comes round to it again. -/
theorem exists_loopStops (hbudget : maxAttempts < 2 ^ 32) (hpos : 1 ≤ maxAttempts) :
    ∃ n, loopStops policy maxAttempts s n = true := by
  by_contra hnone
  rw [not_exists] at hnone
  have hnonce : ∀ n, (n + 1) % 2 ^ 32 = maxAttempts → NonceFailure policy (s n) := by
    intro n hn
    rcases kind_cases policy (s n) with h | h | h
    · exact absurd (stops_none h).1 (hnone n)
    · exact h
    · exact absurd ((stops_spends h).1.2 hn.ge) (hnone n)
  have hfirst := hnonce (maxAttempts - 1) (by omega)
  have hsecond := hnonce (maxAttempts - 1 + 2 ^ 32) (by omega)
  refine hnone _ ((stops_nonce hsecond).1.2 ?_)
  have hmono := Nat.count_monotone (fun m => retryReason policy (s m) = some .invalidNonce)
    (show maxAttempts - 1 + 1 ≤ maxAttempts - 1 + 2 ^ 32 by omega)
  have hcount : nonceFailures policy s (maxAttempts - 1 + 1) = nonceFailures policy s (maxAttempts - 1) + 1 :=
    Nat.count_succ_eq_succ_count hfirst
  simp only [nonceFailures] at hcount ⊢
  omega

/-- The nonce fails once among the first `maxAttempts` attempts and the others are retried out of the budget. Where it
fails in the last of these, the counter has wrapped (a budget of `u32::MAX`) and one more is retried. -/
def HealSpends (policy : RetryPolicy) (maxAttempts : Nat) (s : Nat → Outcome) : Prop :=
  ∃ j < maxAttempts, NonceFailure policy (s j) ∧ (∀ m < maxAttempts, m ≠ j → SpendsRetry policy (s m)) ∧
    (j + 1 = maxAttempts → maxAttempts + 1 = 2 ^ 32 ∧ SpendsRetry policy (s maxAttempts))

theorem nonceFailures_succ (policy : RetryPolicy) (s : Nat → Outcome) (n : Nat) :
    (NonceFailure policy (s n) → nonceFailures policy s (n + 1) = nonceFailures policy s n + 1) ∧
      (¬ NonceFailure policy (s n) → nonceFailures policy s (n + 1) = nonceFailures policy s n) :=
  ⟨fun h => Nat.count_succ_eq_succ_count h, fun h => Nat.count_succ_eq_count h⟩

theorem nonceFailures_eq_zero (h : ∀ m < n, ¬ NonceFailure policy (s m)) : nonceFailures policy s n = 0 := by
  induction n with
  | zero => exact Nat.count_zero _
  | succ n ih =>
    rw [(nonceFailures_succ policy s n).2 (h n (by omega))]
    exact ih fun m hm => h m (by omega)

theorem nonceFailures_eq_one {j : Nat} (hj : j < n) (hnonce : NonceFailure policy (s j))
    (h : ∀ m < n, m ≠ j → ¬ NonceFailure policy (s m)) : nonceFailures policy s n = 1 := by
  induction n with
  | zero => omega
  | succ n ih =>
    by_cases hjn : j = n
    · subst hjn
      rw [(nonceFailures_succ policy s j).1 hnonce, nonceFailures_eq_zero fun m hm => h m (by omega) (by omega)]
    · rw [(nonceFailures_succ policy s n).2 (h n (by omega) (by omega))]
      exact ih (by omega) fun m hm => h m (by omega)

/-- Before either stops, the nonce has failed at most once. -/
theorem nonceFailures_cases (h : ∀ m < n, NonceFailure policy (s m) → nonceFailures policy s m = 0) :
    (∀ m < n, ¬ NonceFailure policy (s m)) ∨
      ∃ j < n, NonceFailure policy (s j) ∧ ∀ m < n, m ≠ j → ¬ NonceFailure policy (s m) := by
  by_cases hnone : ∀ m < n, ¬ NonceFailure policy (s m)
  · exact .inl hnone
  · simp only [not_forall, not_not] at hnone
    obtain ⟨j, hj, hnonce⟩ := hnone
    refine .inr ⟨j, hj, hnonce, fun m hm hne hm' => ?_⟩
    -- Of two failures the later finds the earlier counted.
    have hlater : ∀ a b, a < b → b < n → NonceFailure policy (s a) → NonceFailure policy (s b) → False := by
      intro a b hab hb ha hb'
      have hcount := (nonceFailures_succ policy s a).1 ha
      have hmono : nonceFailures policy s (a + 1) ≤ nonceFailures policy s b := Nat.count_monotone _ hab
      have hzero := h b hb hb'
      omega
    rcases Nat.lt_or_gt_of_ne hne with hlt | hgt
    · exact hlater m j hlt hj hm' hnonce
    · exact hlater j m hgt hm hnonce hm'

/-- **The one attempt counter.** The loop and the reference make the same attempts exactly when the healed nonce does
not come before the last attempt of a budget that is spent. -/
theorem loop_reference_iff (hbudget : maxAttempts < 2 ^ 32) (hpos : 1 ≤ maxAttempts) :
    (∀ n, IsLeast {m | loopStops policy maxAttempts s m = true} n ↔
      IsLeast {m | referenceStops policy maxAttempts s m = true} n) ↔ ¬ HealSpends policy maxAttempts s := by
  rw [isLeast_congr_iff]
  constructor
  · rintro h ⟨j, hj, hnonce, hspends, hlast⟩
    have hnot : ∀ m < maxAttempts, m ≠ j → ¬ NonceFailure policy (s m) := by
      intro m hm hne hm'
      obtain ⟨reason, hr, hr'⟩ := hspends m hm hne
      exact hr' (Option.some.inj (hr.symm.trans hm'))
    have hzero : nonceFailures policy s j = 0 := nonceFailures_eq_zero fun m hm => hnot m (by omega) (by omega)
    -- Nothing stops before the last attempt of the budget, nor there when that is the healed one.
    have hgo : ∀ m, m + 1 < maxAttempts ∨ m = j → ¬ loopStops policy maxAttempts s m = true ∧
        ¬ referenceStops policy maxAttempts s m = true := by
      intro m hm
      by_cases hmj : m = j
      · subst hmj
        rw [(stops_nonce hnonce).1, (stops_nonce hnonce).2]
        omega
      · rw [(stops_spends (hspends m (by omega) hmj)).1, (stops_spends (hspends m (by omega) hmj)).2]
        omega
    by_cases hlt : j + 1 < maxAttempts
    · have hone : nonceFailures policy s (maxAttempts - 1) = 1 :=
        nonceFailures_eq_one (by omega) hnonce fun m hm => hnot m (by omega)
      have hstop : (loopStops policy maxAttempts s (maxAttempts - 1) = true ↔ _) ∧
          (referenceStops policy maxAttempts s (maxAttempts - 1) = true ↔ _) :=
        stops_spends (hspends (maxAttempts - 1) (by omega) (by omega))
      have hiff := h (maxAttempts - 1) (fun m hm => (hgo m (.inl (by omega))).1) fun m hm => (hgo m (.inl (by omega))).2
      rw [hstop.1, hstop.2, hone] at hiff
      omega
    · have hlast := hlast (by omega)
      have hone : nonceFailures policy s maxAttempts = 1 := nonceFailures_eq_one hj hnonce hnot
      have hstop : (loopStops policy maxAttempts s maxAttempts = true ↔ _) ∧
          (referenceStops policy maxAttempts s maxAttempts = true ↔ _) := stops_spends hlast.2
      have hiff := h maxAttempts (fun m hm => (hgo m (by omega)).1) fun m hm => (hgo m (by omega)).2
      rw [hstop.1, hstop.2, hone] at hiff
      omega
  · intro h n hloop href
    have hspent : ∀ m < n, ¬ NonceFailure policy (s m) → SpendsRetry policy (s m) := by
      intro m hm hnot
      rcases kind_cases policy (s m) with hnone | hnonce | hspends
      · exact absurd (stops_none hnone).1 (hloop m hm)
      · exact absurd hnonce hnot
      · exact hspends
    rcases kind_cases policy (s n) with hnone | hnonce | hspends
    · rw [(stops_none hnone).1, (stops_none hnone).2]
    · rw [(stops_nonce hnonce).1, (stops_nonce hnonce).2]
    · rw [(stops_spends hspends).1, (stops_spends hspends).2]
      have hfirst : ∀ m < n, NonceFailure policy (s m) → nonceFailures policy s m = 0 := by
        intro m hm hm'
        have hgo := hloop m hm
        rw [(stops_nonce hm').1] at hgo
        omega
      rcases nonceFailures_cases hfirst with hnot | ⟨j, hj, hnonce, hnot⟩
      · rw [nonceFailures_eq_zero hnot]
        rcases Nat.eq_zero_or_pos n with rfl | hn
        · omega
        · have hprev := href (n - 1) (by omega)
          rw [(stops_spends (hspent (n - 1) (by omega) (hnot (n - 1) (by omega)))).2,
            nonceFailures_eq_zero fun m hm => hnot m (by omega)] at hprev
          omega
      · rw [nonceFailures_eq_one hj hnonce hnot]
        have hfirst : nonceFailures policy s j = 0 := nonceFailures_eq_zero fun m hm => hnot m (by omega) (by omega)
        have hle : n ≤ maxAttempts ∧ (n = maxAttempts → j + 1 = n) := by
          by_cases hlast : j + 1 = n
          · refine ⟨?_, fun _ => hlast⟩
            rcases Nat.eq_zero_or_pos j with rfl | hj'
            · omega
            · have hprev := href (j - 1) (by omega)
              rw [(stops_spends (hspent (j - 1) (by omega) (hnot (j - 1) (by omega) (by omega)))).2,
                nonceFailures_eq_zero fun m hm => hnot m (by omega) (by omega)] at hprev
              omega
          · have hprev := hspent (n - 1) (by omega) (hnot (n - 1) (by omega) (by omega))
            have hloop := hloop (n - 1) (by omega)
            have href := href (n - 1) (by omega)
            rw [(stops_spends hprev).1] at hloop
            rw [(stops_spends hprev).2, nonceFailures_eq_one (by omega) hnonce fun m hm => hnot m (by omega)] at href
            omega
        by_contra hne
        have hn : n = maxAttempts ∧ maxAttempts + 1 = 2 ^ 32 ∨ n + 1 = maxAttempts := by omega
        refine h ⟨j, by omega, hnonce, fun m hm hmj => ?_, fun hlast => ?_⟩
        · by_cases hmn : m = n
          · exact hmn ▸ hspends
          · exact hspent m (by omega) (hnot m (by omega) hmj)
        · rcases hn with ⟨rfl, hwrap⟩ | hn
          · exact ⟨hwrap, hspends⟩
          · omega

/-! ## The policies -/

/-- What a policy promises of a call whose attempts return `s`. -/
structure MeetsPolicy (policy : RetryPolicy) (defaultMaxAttempts : Nat) (s : Nat → Outcome) : Prop where
  terminates : ∃ n, Makes policy defaultMaxAttempts s n
  /-- Every attempt before the last failed in a way that is retried. -/
  failed : ∀ n, Makes policy defaultMaxAttempts s n → ∀ m < n, ∃ err reason,
    s m = .error err ∧ classify err policy = .retry reason
  never : policy = .neverRetry → ∀ n, Makes policy defaultMaxAttempts s n → n = 0
  exceptNonce : policy = .neverRetryExceptNonce → ∀ n, Makes policy defaultMaxAttempts s n →
    n = 0 ∨ n = 1 ∧ ∃ code codes, s 0 = .error (.kraken (code :: codes)) ∧ strStartsWith code "EAPI:Invalid nonce" = true
  idem : policy = .idempotent → ∀ n, Makes policy defaultMaxAttempts s n ↔
    IsLeast {m | referenceStops policy (policy.budget defaultMaxAttempts) s m = true} n

theorem retryReason_some {o : Outcome} {reason : RetryReason} (h : retryReason policy o = some reason) :
    ∃ err, o = .error err ∧ classify err policy = .retry reason := by
  cases o with
  | ok value => cases h
  | error err =>
    refine ⟨err, rfl, ?_⟩
    simp only [retryReason] at h
    cases hc : classify err policy with
    | retry r =>
      rw [hc] at h
      rw [Option.some.inj h]
    | nonTransient | ambiguousOrderPlacement =>
      rw [hc] at h
      cases h

theorem classifyKraken_invalidNonce {codes : List String} (h : classifyKraken codes.head? = .retry .invalidNonce) :
    ∃ code rest, codes = code :: rest ∧ strStartsWith code "EAPI:Invalid nonce" = true := by
  cases codes with
  | nil => cases h
  | cons code rest =>
    refine ⟨code, rest, rfl, ?_⟩
    simp only [List.head?_cons, classifyKraken] at h
    split_ifs at h with h₁ h₂ h₃ h₄ h₅ hnonce
    · exact absurd (RetryDecision.retry.inj h) (by decide)
    · exact absurd (RetryDecision.retry.inj h) (by decide)
    · exact absurd (RetryDecision.retry.inj h) (by decide)
    · exact absurd (RetryDecision.retry.inj h) (by decide)
    · exact absurd (RetryDecision.retry.inj h) (by decide)
    · exact hnonce

/-- Without `transient`, only the nonce is ever retried. -/
theorem classify_not_transient {err : RestError} {reason : RetryReason} (htransient : policy.transient = false)
    (h : classify err policy = .retry reason) :
    policy.nonceHeal = true ∧ reason = .invalidNonce ∧
      ∃ code codes, err = .kraken (code :: codes) ∧ strStartsWith code "EAPI:Invalid nonce" = true := by
  simp only [classify, htransient, Bool.not_false, if_true] at h
  cases err with
  | kraken codes =>
    dsimp only at h
    split_ifs at h with hheal
    rw [Bool.and_eq_true, decide_eq_true_eq] at hheal
    obtain ⟨code, rest, rfl, hcode⟩ := classifyKraken_invalidNonce hheal.2
    exact ⟨hheal.1, (RetryDecision.retry.inj h).symm, code, rest, rfl, hcode⟩
  | transport | auth | unexpectedShape | rateLimit => cases h

/-- An attempt the call goes past failed in a way that is retried. -/
theorem reason_of_makes (h : Makes policy defaultMaxAttempts s n) {m : Nat} (hm : m < n) :
    ∃ err reason, s m = .error err ∧ classify err policy = .retry reason ∧ retryReason policy (s m) = some reason := by
  obtain ⟨-, hnone⟩ := isLeast_setOf.1 (makes_iff.1 h)
  cases hr : retryReason policy (s m) with
  | none => exact absurd (stops_none hr).1 (hnone m hm)
  | some reason =>
    obtain ⟨err, hs, hc⟩ := retryReason_some hr
    exact ⟨err, reason, hs, hc, rfl⟩

theorem budget_lt (policy : RetryPolicy) (hpolicy : policy.maxAttempts = none ∨ policy.maxAttempts = some 1)
    (hdefault : defaultMaxAttempts < 2 ^ 32) :
    policy.budget defaultMaxAttempts < 2 ^ 32 ∧ 1 ≤ policy.budget defaultMaxAttempts := by
  unfold RetryPolicy.budget
  rcases hpolicy with h | h <;> rw [h, Option.getD] <;> omega

/-- **The policies of the retry loop.** Whatever the attempts return, a call of each policy terminates, returns the
outcome of its last attempt and retries what its policy says; under `idempotent` it makes the attempts of the reference
exactly when the healed nonce spends none of the budget. -/
theorem meetsPolicy_iff
    (hpolicy : policy = .neverRetry ∨ policy = .neverRetryExceptNonce ∨ policy = .idempotent)
    (hdefault : defaultMaxAttempts < 2 ^ 32) (s : Nat → Outcome) :
    MeetsPolicy policy defaultMaxAttempts s ↔
      (policy = .idempotent → ¬ HealSpends policy (max defaultMaxAttempts 1) s) := by
  have hmax : policy.maxAttempts = none ∨ policy.maxAttempts = some 1 := by
    rcases hpolicy with rfl | rfl | rfl <;> simp [RetryPolicy.neverRetry, RetryPolicy.neverRetryExceptNonce, RetryPolicy.idempotent]
  obtain ⟨hbudget, hpos⟩ := budget_lt policy hmax hdefault
  constructor
  · intro h hidem
    have hiff := h.idem hidem
    simp only [makes_iff] at hiff
    have hnot := (loop_reference_iff hbudget hpos).1 hiff
    subst hidem
    exact hnot
  · intro h
    refine ⟨?_, fun n hn m hm => ?_, ?_, ?_, ?_⟩
    · have hex : ∃ n, loopStops policy (policy.budget defaultMaxAttempts) s n = true := exists_loopStops hbudget hpos
      exact ⟨Nat.find hex, makes_iff.2 (isLeast_setOf.2 ⟨Nat.find_spec hex, fun m hm => Nat.find_min hex hm⟩)⟩
    · obtain ⟨err, reason, hs, hc, -⟩ := reason_of_makes hn hm
      exact ⟨err, reason, hs, hc⟩
    · rintro rfl n hn
      by_contra hne
      obtain ⟨err, reason, -, hc, -⟩ := reason_of_makes hn (Nat.pos_of_ne_zero hne)
      rw [classify_neverRetry] at hc
      cases hc
    · rintro rfl n hn
      by_cases hzero : n = 0
      · exact .inl hzero
      · obtain ⟨err, reason, hs, hc, hr⟩ := reason_of_makes hn (Nat.pos_of_ne_zero hzero)
        obtain ⟨-, rfl, code, codes, rfl, hcode⟩ := classify_not_transient rfl hc
        refine .inr ⟨?_, code, codes, hs, hcode⟩
        by_contra hone
        -- A second failure for the nonce finds the first counted.
        obtain ⟨err', reason', -, hc', hr'⟩ := reason_of_makes hn (show 1 < n by omega)
        obtain ⟨-, rfl, -⟩ := classify_not_transient rfl hc'
        obtain ⟨-, hnone⟩ := isLeast_setOf.1 (makes_iff.1 hn)
        have hcount : nonceFailures .neverRetryExceptNonce s 1 = 0 + 1 := (nonceFailures_succ _ s 0).1 hr
        refine hnone 1 (by omega) ((stops_nonce hr').1.2 ?_)
        omega
    · rintro rfl
      simp only [makes_iff]
      exact (loop_reference_iff hbudget hpos).2 (h rfl)

/-- Two attempts in the budget, and nothing fails. -/
theorem meetsPolicy_ok : MeetsPolicy .idempotent 2 fun _ => .ok .null := by
  refine (meetsPolicy_iff (.inr (.inr rfl)) (by decide) _).2 fun _ => ?_
  rintro ⟨j, -, hnonce, -⟩
  cases hnonce

/-- A nonce failure, then a transient one, out of a budget of two: the third attempt is not made. -/
theorem heal_spends_budget :
    ¬ MeetsPolicy .idempotent 2 fun n => .error (.kraken [if n = 0 then "EAPI:Invalid nonce" else "EService:Unavailable"]) := by
  intro h
  have hmakes := (h.idem rfl 1).1 (makes_iff.2 (isLeast_setOf.2 ⟨by decide +kernel, by decide +kernel⟩))
  have hstops := (isLeast_setOf.1 hmakes).1
  revert hstops
  decide +kernel

end KrakenSdk.Rest
