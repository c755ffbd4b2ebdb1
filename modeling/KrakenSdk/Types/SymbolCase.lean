import Mathlib.Data.List.TakeDrop
import Mathlib.Tactic.SplitIfs
import KrakenSdk.Types.Symbol
/-!
# Upper and lower case in trading pairs (types/symbol.rs)

`Symbol::new` keeps the upper-case spelling of the pair, and the legs are compared with the legacy
table in upper case too. The test for the concatenated forms (`XXBTZUSD`) is the one check made on
the string as it was given. `Symbol.new_caseStable_iff` says for which pairs that makes a difference.
-/
namespace KrakenSdk.Types

open KrakenSdk.Conn (Symbol strStartsWith)

/-! ## Characters -/

theorem toNat_toUpper (c : Char) :
    c.toUpper.toNat = if 97 ≤ c.toNat ∧ c.toNat ≤ 122 then c.toNat - 32 else c.toNat := by
  have hval : c.toNat = c.val.toNat := rfl
  unfold Char.toUpper
  split
  · rename_i h
    have h1 : 97 ≤ c.val.toNat := UInt32.le_iff_toNat_le.mp h.1
    have h2 : c.val.toNat ≤ 122 := UInt32.le_iff_toNat_le.mp h.2
    have hoff : ('A'.val - 'a'.val).toNat = 4294967264 := by decide
    rw [if_pos (by omega)]
    show (c.val + ('A'.val - 'a'.val)).toNat = _
    rw [UInt32.toNat_add]
    omega
  · rename_i h
    rw [if_neg]
    intro hb
    exact h ⟨UInt32.le_iff_toNat_le.mpr hb.1, UInt32.le_iff_toNat_le.mpr hb.2⟩

theorem toNat_toLower (c : Char) :
    c.toLower.toNat = if 65 ≤ c.toNat ∧ c.toNat ≤ 90 then c.toNat + 32 else c.toNat := by
  have hval : c.toNat = c.val.toNat := rfl
  unfold Char.toLower
  split
  · rename_i h
    have h1 : 65 ≤ c.val.toNat := UInt32.le_iff_toNat_le.mp h.1
    have h2 : c.val.toNat ≤ 90 := UInt32.le_iff_toNat_le.mp h.2
    have hoff : ('a'.val - 'A'.val).toNat = 32 := by decide
    rw [if_pos (by omega)]
    show (c.val + ('a'.val - 'A'.val)).toNat = _
    rw [UInt32.toNat_add]
    omega
  · rename_i h
    rw [if_neg]
    intro hb
    exact h ⟨UInt32.le_iff_toNat_le.mpr hb.1, UInt32.le_iff_toNat_le.mpr hb.2⟩

theorem isAlphanum_iff (c : Char) : c.isAlphanum = true ↔
    (65 ≤ c.toNat ∧ c.toNat ≤ 90) ∨ (97 ≤ c.toNat ∧ c.toNat ≤ 122) ∨ (48 ≤ c.toNat ∧ c.toNat ≤ 57) := by
  have hclasses : c.isAlphanum = (decide ('A'.val ≤ c.val ∧ c.val ≤ 'Z'.val) ||
      (decide ('a'.val ≤ c.val) && decide (c.val ≤ 'z'.val)) ||
      (decide ('0'.val ≤ c.val) && decide (c.val ≤ '9'.val))) := rfl
  simp [hclasses, UInt32.le_iff_toNat_le, or_assoc]

@[simp] theorem toUpper_toUpper (c : Char) : c.toUpper.toUpper = c.toUpper := by
  apply Char.toNat_inj.mp
  simp only [toNat_toUpper]
  split_ifs <;> omega

@[simp] theorem toUpper_toLower (c : Char) : c.toLower.toUpper = c.toUpper := by
  apply Char.toNat_inj.mp
  simp only [toNat_toUpper, toNat_toLower]
  split_ifs <;> omega

@[simp] theorem isAlphanum_toUpper (c : Char) : c.toUpper.isAlphanum = c.isAlphanum := by
  rw [Bool.eq_iff_iff, isAlphanum_iff, isAlphanum_iff, toNat_toUpper]
  split_ifs <;> omega

/-- The separator has no other case, and no letter turns into it. -/
theorem toUpper_eq_slash (c : Char) : c.toUpper = '/' ↔ c = '/' := by
  rw [← Char.toNat_inj, ← Char.toNat_inj, toNat_toUpper]
  have hslash : '/'.toNat = 47 := by decide
  split_ifs <;> omega

theorem toLower_ne_of_upper {c u : Char} (hu : 65 ≤ u.toNat ∧ u.toNat ≤ 90) : c.toLower ≠ u := by
  rw [Ne, ← Char.toNat_inj, toNat_toLower]
  split_ifs <;> omega

/-! ## Strings -/

/-- `str::to_ascii_lowercase`. -/
def toAsciiLowercase (s : String) : String := String.ofList (s.toList.map Char.toLower)

/-- The two strings differ only in ASCII letter case. -/
def CaseVariant (s t : String) : Prop := List.Forall₂ (fun c d => c.toUpper = d.toUpper) s.toList t.toList

theorem caseVariant_iff {s t : String} : CaseVariant s t ↔ toAsciiUppercase s = toAsciiUppercase t := by
  unfold CaseVariant toAsciiUppercase
  rw [String.ofList_inj, ← List.forall₂_eq_eq_eq]
  exact List.forall₂_map_left_iff.trans List.forall₂_map_right_iff |>.symm

@[simp] theorem toList_toAsciiUppercase (s : String) :
    (toAsciiUppercase s).toList = s.toList.map Char.toUpper := String.toList_ofList

@[simp] theorem toAsciiUppercase_idem (s : String) :
    toAsciiUppercase (toAsciiUppercase s) = toAsciiUppercase s := by
  apply String.toList_injective
  simp

@[simp] theorem toAsciiUppercase_toAsciiLowercase (s : String) :
    toAsciiUppercase (toAsciiLowercase s) = toAsciiUppercase s := by
  apply String.toList_injective
  simp [toAsciiLowercase]

theorem toAsciiUppercase_ofList (l : List Char) :
    toAsciiUppercase (String.ofList l) = String.ofList (l.map Char.toUpper) := by
  apply String.toList_injective
  simp

/-! ## The legs -/

/-- **A leg is judged by its upper-case spelling.** -/
theorem validateLeg_toAsciiUppercase (leg : String) : validateLeg (toAsciiUppercase leg) = validateLeg leg := by
  have halnum : (leg.toList.map Char.toUpper).all Char.isAlphanum = leg.toList.all Char.isAlphanum := by
    rw [List.all_map]
    exact congrArg leg.toList.all (funext isAlphanum_toUpper)
  unfold validateLeg
  simp only [toList_toAsciiUppercase, toAsciiUppercase_idem, List.map_eq_nil_iff, halnum]

theorem span_slash_map_toUpper (l : List Char) :
    (l.map Char.toUpper).span (· ≠ '/') =
      ((l.span (· ≠ '/')).1.map Char.toUpper, (l.span (· ≠ '/')).2.map Char.toUpper) := by
  have hp : (fun c : Char => decide (c.toUpper ≠ '/')) = fun c => decide (c ≠ '/') := by
    funext c
    simp only [Ne, toUpper_eq_slash]
  simp only [List.span_eq_takeWhile_dropWhile, List.takeWhile_map, List.dropWhile_map, Function.comp_def, hp]

/-- The pair splits in the same place in every case. -/
theorem splitOnce_toAsciiUppercase (s : String) : splitOnce (toAsciiUppercase s) '/' =
    (splitOnce s '/').map fun legs => (toAsciiUppercase legs.1, toAsciiUppercase legs.2) := by
  unfold splitOnce
  rw [toList_toAsciiUppercase, span_slash_map_toUpper]
  cases h : (s.toList.span (· ≠ '/')).2 with
  | nil =>
    rw [show s.toList.span (· ≠ '/') = ((s.toList.span (· ≠ '/')).1, []) from Prod.ext rfl h]
    rfl
  | cons c after =>
    rw [show s.toList.span (· ≠ '/') = ((s.toList.span (· ≠ '/')).1, c :: after) from Prod.ext rfl h]
    simp [toAsciiUppercase_ofList]

/-- The shape `Symbol::new` asks for: two legs around the separator, each of them valid. -/
def WellShaped (s : String) : Prop :=
  ∃ base quote, splitOnce s '/' = some (base, quote) ∧ validateLeg base = .ok () ∧ validateLeg quote = .ok ()

theorem wellShaped_toAsciiUppercase (s : String) : WellShaped (toAsciiUppercase s) ↔ WellShaped s := by
  unfold WellShaped
  rw [splitOnce_toAsciiUppercase]
  constructor
  · rintro ⟨_, _, hsplit, hbase, hquote⟩
    obtain ⟨⟨base, quote⟩, hs, hlegs⟩ := Option.map_eq_some_iff.mp hsplit
    cases hlegs
    exact ⟨base, quote, hs, (validateLeg_toAsciiUppercase base).symm.trans hbase,
      (validateLeg_toAsciiUppercase quote).symm.trans hquote⟩
  · rintro ⟨base, quote, hs, hbase, hquote⟩
    exact ⟨_, _, by rw [hs]; rfl, (validateLeg_toAsciiUppercase base).trans hbase,
      (validateLeg_toAsciiUppercase quote).trans hquote⟩

theorem wellShaped_congr {s t : String} (h : CaseVariant s t) : WellShaped s ↔ WellShaped t := by
  rw [← wellShaped_toAsciiUppercase s, ← wellShaped_toAsciiUppercase t, caseVariant_iff.mp h]

/-! ## `Symbol::new` -/

/-- The check made before the separator is looked for (symbol.rs:20). -/
def concatenatedForm (s : String) : Bool := strStartsWith s "XX" || strStartsWith s "ZZ"

/-- What `Symbol::new` accepts and what it keeps of it. -/
theorem Symbol.new_eq_ok (s : String) (x : Symbol) :
    Symbol.new s = .ok x ↔ concatenatedForm s = false ∧ WellShaped s ∧ x = toAsciiUppercase s := by
  unfold Symbol.new concatenatedForm WellShaped
  by_cases hempty : s.toList = []
  · have hsplit : splitOnce s '/' = none := by
      unfold splitOnce
      rw [hempty]
      rfl
    simp [hempty, hsplit]
  by_cases hlegacy : (strStartsWith s "XX" || strStartsWith s "ZZ") = true
  · simp [hempty, hlegacy]
  rw [if_neg hempty, if_neg hlegacy]
  cases hsplit : splitOnce s '/' with
  | none => simp
  | some legs =>
    obtain ⟨base, quote⟩ := legs
    cases hbase : validateLeg base with
    | error e => simp [hbase, bind, Except.bind]
    | ok u =>
      cases hquote : validateLeg quote with
      | error e => simp [hbase, hquote, bind, Except.bind]
      | ok v => simp [hbase, hquote, bind, Except.bind, Bool.not_eq_true _ ▸ hlegacy, eq_comm]

theorem concatenatedForm_toAsciiLowercase (s : String) : concatenatedForm (toAsciiLowercase s) = false := by
  unfold concatenatedForm strStartsWith toAsciiLowercase
  rw [String.toList_ofList]
  cases s.toList with
  | nil => rfl
  | cons c rest =>
    have hx : c.toLower ≠ 'X' := toLower_ne_of_upper (by decide)
    have hz : c.toLower ≠ 'Z' := toLower_ne_of_upper (by decide)
    simp [List.isPrefixOf, hx.symm, hz.symm]

/-- The forms only grow in upper case: a string that starts with `XX` or `ZZ` still does. -/
theorem concatenatedForm_mono {s : String} (h : concatenatedForm s = true) :
    concatenatedForm (toAsciiUppercase s) = true := by
  unfold concatenatedForm strStartsWith at *
  rw [toList_toAsciiUppercase]
  rw [Bool.or_eq_true, List.isPrefixOf_iff_prefix, List.isPrefixOf_iff_prefix] at *
  rcases h with h | h
  · exact Or.inl (by simpa using h.map Char.toUpper)
  · exact Or.inr (by simpa using h.map Char.toUpper)

/-- What the canonical form owes its users, for one string: the kept spelling is accepted as itself, and
the strings that differ only in letter case are accepted alike. -/
def CaseStable (s : String) : Prop :=
  (∀ x, Symbol.new s = .ok x → Symbol.new x = .ok x) ∧
    ∀ t, CaseVariant s t → ∀ x, Symbol.new s = .ok x ↔ Symbol.new t = .ok x

/-- The pairs of a good shape whose upper-case spelling starts like a concatenated legacy pair. -/
def LegacyInUpperCase (s : String) : Prop := concatenatedForm (toAsciiUppercase s) = true ∧ WellShaped s

/-- **A pair is stable exactly if it does not look concatenated in upper case.** The check on the prefix
is the only one that sees the case. -/
theorem Symbol.new_caseStable_iff (s : String) : CaseStable s ↔ ¬ LegacyInUpperCase s := by
  constructor
  · rintro ⟨-, hvariants⟩ ⟨hupper, hshape⟩
    have hlower : CaseVariant s (toAsciiLowercase s) := caseVariant_iff.mpr (by simp)
    have hcanon : CaseVariant s (toAsciiUppercase s) := caseVariant_iff.mpr (by simp)
    -- the lower-case spelling gets past the prefix check, the canonical one does not
    have haccepted : Symbol.new (toAsciiLowercase s) = .ok (toAsciiUppercase s) :=
      (Symbol.new_eq_ok _ _).mpr ⟨concatenatedForm_toAsciiLowercase s, (wellShaped_congr hlower).mp hshape, by simp⟩
    have hkept := (hvariants _ hcanon _).mp ((hvariants _ hlower _).mpr haccepted)
    rw [((Symbol.new_eq_ok _ _).mp hkept).1] at hupper
    exact absurd hupper (by decide)
  · intro hstable
    have hfront (t : String) (ht : CaseVariant s t) (hshape : WellShaped t) : concatenatedForm t = false := by
      by_contra hne
      have hform := concatenatedForm_mono (by simpa using hne)
      rw [← caseVariant_iff.mp ht] at hform
      exact hstable ⟨hform, (wellShaped_congr ht).mpr hshape⟩
    have hself : CaseVariant s s := caseVariant_iff.mpr rfl
    have haccept (t : String) (ht : CaseVariant s t) (x : Symbol) :
        Symbol.new t = .ok x ↔ WellShaped s ∧ x = toAsciiUppercase s := by
      rw [Symbol.new_eq_ok, caseVariant_iff.mp ht, wellShaped_congr ht]
      exact ⟨fun h => h.2, fun h => ⟨hfront t ht h.1, h⟩⟩
    constructor
    · intro x hx
      obtain ⟨hshape, rfl⟩ := (haccept s hself x).mp hx
      exact (haccept _ (caseVariant_iff.mpr (by simp)) _).mpr ⟨hshape, rfl⟩
    · intro t ht x
      rw [haccept s hself, haccept t ht]

/-- `xxyz/usd` is accepted and kept as `XXYZ/USD`, which `Symbol::new` refuses when the echo comes back. -/
theorem Symbol.new_refuses_its_own_spelling :
    Symbol.new "xxyz/usd" = .ok "XXYZ/USD" ∧ Symbol.new "XXYZ/USD" = .error .legacyPrefix ∧
      ¬ ∀ s, CaseStable s := by
  have hkept : Symbol.new "xxyz/usd" = .ok "XXYZ/USD" := by decide +kernel
  have hrefused : Symbol.new "XXYZ/USD" = .error .legacyPrefix := by decide +kernel
  refine ⟨hkept, hrefused, fun hall => ?_⟩
  have hback := (hall "xxyz/usd").1 _ hkept
  rw [hrefused] at hback
  cases hback

end KrakenSdk.Types
