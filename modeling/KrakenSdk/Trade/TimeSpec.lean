import KrakenSdk.Types.Decimal
/-!
# Instants in an order (api/trade/types/requests.rs:33-86)

An instant is whole seconds since the epoch; REST sends the number, WS a date and time in UTC. No two instants have
the same date and time (`toWs_injective`): the day number is computed back from the date.
-/
namespace KrakenSdk.Trade

open KrakenSdk.Types (repr_injective isDigit_padded ofDigitChars_padded)

/-- `TimeSpec` (requests.rs:36), an `i64` that its constructors keep from being negative. -/
@[ext]
structure TimeSpec where
  secs : Nat
  secs_lt : secs < 2 ^ 63
  deriving DecidableEq, Repr

namespace TimeSpec

/-- `from_unix_secs` (requests.rs:42), of an `i64`. -/
def fromUnixSecs (secs : Int) (h : secs < 2 ^ 63) : TimeSpec := ⟨secs.toNat, by omega⟩

/-- `to_rest_form` (requests.rs:55). -/
def toRestForm (t : TimeSpec) : String := Nat.repr t.secs

/-! ## `unix_secs_to_rfc3339_utc` (requests.rs:67) -/

/-- The year of an era a day of it is in. -/
def yearOfEra (doe : Int) : Int := (doe - doe / 1460 + doe / 36524 - doe / 146096) / 365

/-- The day of the year, from March on. -/
def dayOfYear (doe : Int) : Int := doe - (365 * yearOfEra doe + yearOfEra doe / 4 - yearOfEra doe / 100)

/-- The month of a day of the year, which begins in March. -/
def monthOf (doy : Int) : Int :=
  let mp := (5 * doy + 2) / 153
  if mp < 10 then mp + 3 else mp - 9

/-- The day of the month. -/
def dayOf (doy : Int) : Int := doy - (153 * ((5 * doy + 2) / 153) + 2) / 5 + 1

/-- January and February are in the next civil year. -/
def yearShift (m : Int) : Int := if m ≤ 2 then 1 else 0

/-- Year, month and day. -/
def civilFromDays (days : Int) : Int × Int × Int :=
  let z := days + 719468
  let era := z / 146097
  let doe := z % 146097
  let doy := dayOfYear doe
  (yearOfEra doe + era * 400 + yearShift (monthOf doy), monthOf doy, dayOf doy)

/-- `{n:0width}`, of a number that is not negative. -/
def zeroPad (width : Nat) (n : Int) : List Char :=
  List.replicate (width - (Nat.toDigits 10 n.toNat).length) '0' ++ Nat.toDigits 10 n.toNat

def unixSecsToRfc3339Utc (secs : Int) : String :=
  let days := secs / 86400
  let tod := secs % 86400
  let (hh, mi, ss) := (tod / 3600, tod % 3600 / 60, tod % 60)
  let (y, m, d) := civilFromDays days
  String.ofList (zeroPad 4 y ++ '-' :: (zeroPad 2 m ++ '-' :: (zeroPad 2 d ++ 'T' :: (zeroPad 2 hh ++ ':' ::
    (zeroPad 2 mi ++ ':' :: (zeroPad 2 ss ++ ['Z']))))))

/-- `to_ws` (requests.rs:60). -/
def toWs (t : TimeSpec) : String := unixSecsToRfc3339Utc t.secs

example : (fromUnixSecs 951782400 (by decide)).toWs = "2000-02-29T00:00:00Z" := by decide +kernel

/-! ## The date gives the day -/

theorem yearOfEra_bounds {doe : Int} (h0 : 0 ≤ doe) (h1 : doe < 146097) : 0 ≤ yearOfEra doe ∧ yearOfEra doe ≤ 399 := by
  unfold yearOfEra
  omega

/-- A year has at most 366 days. The last day of an era is apart; every other is in one of four centuries, whose leap
years are every fourth. -/
theorem dayOfYear_bounds {doe : Int} (h0 : 0 ≤ doe) (h1 : doe < 146097) : 0 ≤ dayOfYear doe ∧ dayOfYear doe ≤ 365 := by
  obtain ⟨hy0, hy1⟩ := yearOfEra_bounds h0 h1
  unfold dayOfYear
  have hyoe : yearOfEra doe = (doe - doe / 1460 + doe / 36524 - doe / 146096) / 365 := rfl
  generalize yearOfEra doe = yoe at *
  have hdays : doe / 36524 = 0 ∨ doe / 36524 = 1 ∨ doe / 36524 = 2 ∨ doe / 36524 = 3 ∨ doe / 36524 = 4 := by omega
  have hyears : yoe / 100 = 0 ∨ yoe / 100 = 1 ∨ yoe / 100 = 2 ∨ yoe / 100 = 3 := by omega
  have hlast : doe / 146096 = 0 ∨ doe = 146096 := by omega
  rcases hlast with hlast | rfl
  · rcases hdays with hdays | hdays | hdays | hdays | hdays <;>
      rcases hyears with hyears | hyears | hyears | hyears <;>
        rw [hdays, hlast] at hyoe <;> rw [hyears] <;> constructor <;> omega
  · omega

/-- The day of the year from its month and day. -/
def dayOfYearOf (m d : Int) : Int := (153 * (if 2 < m then m - 3 else m + 9) + 2) / 5 + d - 1

theorem dayOfYearOf_eq {doy : Int} (h0 : 0 ≤ doy) (h1 : doy ≤ 365) : dayOfYearOf (monthOf doy) (dayOf doy) = doy := by
  have hmp : 0 ≤ (5 * doy + 2) / 153 ∧ (5 * doy + 2) / 153 ≤ 11 := by omega
  have hmonth : (5 * doy + 2) / 153 < 10 ∧ monthOf doy = (5 * doy + 2) / 153 + 3 ∨
      10 ≤ (5 * doy + 2) / 153 ∧ monthOf doy = (5 * doy + 2) / 153 - 9 := by
    unfold monthOf
    dsimp only
    split_ifs with h
    · exact .inl ⟨h, rfl⟩
    · exact .inr ⟨by omega, rfl⟩
  generalize monthOf doy = m at *
  unfold dayOfYearOf dayOf
  split_ifs <;> omega

/-- The day number from year, month and day. -/
def daysFromCivil (date : Int × Int × Int) : Int :=
  let (y, m, d) := date
  let y := y - yearShift m
  let yoe := y % 400
  y / 400 * 146097 + (365 * yoe + yoe / 4 - yoe / 100 + dayOfYearOf m d) - 719468

theorem daysFromCivil_civilFromDays (days : Int) : daysFromCivil (civilFromDays days) = days := by
  have hdoe0 : 0 ≤ (days + 719468) % 146097 := Int.emod_nonneg _ (by decide)
  have hdoe1 : (days + 719468) % 146097 < 146097 := Int.emod_lt_of_pos _ (by decide)
  obtain ⟨hy0, hy1⟩ := yearOfEra_bounds hdoe0 hdoe1
  obtain ⟨hd0, hd1⟩ := dayOfYear_bounds hdoe0 hdoe1
  have hsplit := Int.emod_add_mul_ediv (days + 719468) 146097
  have hdoy : dayOfYear ((days + 719468) % 146097) = (days + 719468) % 146097 -
      (365 * yearOfEra ((days + 719468) % 146097) + yearOfEra ((days + 719468) % 146097) / 4 -
        yearOfEra ((days + 719468) % 146097) / 100) := rfl
  have hyear : ∀ era yoe : Int, 0 ≤ yoe → yoe ≤ 399 → (yoe + era * 400) / 400 = era ∧ (yoe + era * 400) % 400 = yoe := by
    intro era yoe h0 h1
    omega
  obtain ⟨hera, hyoe⟩ := hyear ((days + 719468) / 146097) _ hy0 hy1
  simp only [civilFromDays, daysFromCivil, dayOfYearOf_eq hd0 hd1, Int.add_sub_cancel, hera, hyoe]
  omega

theorem civilFromDays_injective {days days' : Int} (h : civilFromDays days = civilFromDays days') : days = days' := by
  rw [← daysFromCivil_civilFromDays days, h, daysFromCivil_civilFromDays]

/-! ## The text gives the date -/

/-- The runs of digits of a text, as numbers. -/
def numbers (s : List Char) : List Nat := (s.splitOnP (!·.isDigit)).map (Nat.ofDigitChars 10 · 0)

theorem numbers_zeroPad (width : Nat) (n : Int) {sep : Char} (hsep : sep.isDigit = false) (rest : List Char) :
    numbers (zeroPad width n ++ sep :: rest) = n.toNat :: numbers rest := by
  have hdigits : ∀ c ∈ zeroPad width n, (!c.isDigit) = false := by
    intro c hc
    rw [isDigit_padded hc]
    rfl
  rw [numbers, List.splitOnP_append_cons_of_forall_mem hdigits sep (by rw [hsep]; rfl), List.map_cons, zeroPad,
    ofDigitChars_padded]
  rfl

/-- What is read of a rendered instant. -/
theorem numbers_unixSecs (secs : Int) :
    numbers (unixSecsToRfc3339Utc secs).toList =
      [(civilFromDays (secs / 86400)).1.toNat, (civilFromDays (secs / 86400)).2.1.toNat,
        (civilFromDays (secs / 86400)).2.2.toNat, (secs % 86400 / 3600).toNat, (secs % 86400 % 3600 / 60).toNat,
        (secs % 86400 % 60).toNat, 0] := by
  simp only [unixSecsToRfc3339Utc, String.toList_ofList]
  rw [numbers_zeroPad 4 _ (by rfl), numbers_zeroPad 2 _ (by rfl), numbers_zeroPad 2 _ (by rfl), numbers_zeroPad 2 _ (by rfl),
    numbers_zeroPad 2 _ (by rfl), numbers_zeroPad 2 _ (by rfl)]
  rfl

/-- From 1970 on, year, month and day are not negative. -/
theorem civilFromDays_nonneg {days : Int} (h : 0 ≤ days) :
    0 ≤ (civilFromDays days).1 ∧ 0 ≤ (civilFromDays days).2.1 ∧ 0 ≤ (civilFromDays days).2.2 := by
  have hdoe0 : 0 ≤ (days + 719468) % 146097 := Int.emod_nonneg _ (by decide)
  have hdoe1 : (days + 719468) % 146097 < 146097 := Int.emod_lt_of_pos _ (by decide)
  obtain ⟨hy0, -⟩ := yearOfEra_bounds hdoe0 hdoe1
  obtain ⟨hd0, hd1⟩ := dayOfYear_bounds hdoe0 hdoe1
  have hera : 0 ≤ (days + 719468) / 146097 := by omega
  have hshift : ∀ m, 0 ≤ yearShift m := by
    intro m
    unfold yearShift
    split_ifs <;> omega
  have hmonth : ∀ doy : Int, 0 ≤ doy → 0 ≤ monthOf doy ∧ 0 ≤ dayOf doy := by
    intro doy hdoy
    simp only [monthOf, dayOf]
    split_ifs <;> omega
  refine ⟨?_, hmonth _ hd0⟩
  have := hshift (monthOf (dayOfYear ((days + 719468) % 146097)))
  simp only [civilFromDays]
  omega

theorem toNat_inj_of_nonneg {a b : Int} (ha : 0 ≤ a) (hb : 0 ≤ b) (h : a.toNat = b.toNat) : a = b := by omega

/-- Hour, minute and second give the time of day. -/
theorem timeOfDay_inj {a b : Int} (hhour : a / 3600 = b / 3600) (hminute : a % 3600 / 60 = b % 3600 / 60)
    (hsecond : a % 60 = b % 60) : a = b := by
  omega

/-- **No two instants have the same date and time.** -/
theorem toWs_injective {t t' : TimeSpec} (h : t.toWs = t'.toWs) : t = t' := by
  have hnumbers : numbers t.toWs.toList = numbers t'.toWs.toList := by rw [h]
  simp only [toWs, numbers_unixSecs, List.cons.injEq, and_true] at hnumbers
  obtain ⟨hy, hm, hd, hhh, hmi, hss⟩ := hnumbers
  obtain ⟨hy0, hm0, hd0⟩ := civilFromDays_nonneg (show (0 : Int) ≤ (t.secs : Int) / 86400 by omega)
  obtain ⟨hy0', hm0', hd0'⟩ := civilFromDays_nonneg (show (0 : Int) ≤ (t'.secs : Int) / 86400 by omega)
  have hdate : civilFromDays ((t.secs : Int) / 86400) = civilFromDays ((t'.secs : Int) / 86400) :=
    Prod.ext (toNat_inj_of_nonneg hy0 hy0' hy) (Prod.ext (toNat_inj_of_nonneg hm0 hm0' hm) (toNat_inj_of_nonneg hd0 hd0' hd))
  have hdays := civilFromDays_injective hdate
  have htod : (t.secs : Int) % 86400 = (t'.secs : Int) % 86400 := by
    apply timeOfDay_inj
    · exact toNat_inj_of_nonneg (by omega) (by omega) hhh
    · exact toNat_inj_of_nonneg (by omega) (by omega) hmi
    · exact toNat_inj_of_nonneg (by omega) (by omega) hss
  have hsecs : (t.secs : Int) = t'.secs := by
    rw [← Int.mul_ediv_add_emod (t.secs : Int) 86400, hdays, htod, Int.mul_ediv_add_emod]
  exact TimeSpec.ext (Int.ofNat.inj hsecs)

theorem toWs_inj {t t' : TimeSpec} : t.toWs = t'.toWs ↔ t = t' := ⟨toWs_injective, congrArg toWs⟩

theorem toRestForm_inj {t t' : TimeSpec} : t.toRestForm = t'.toRestForm ↔ t = t' :=
  ⟨fun h => TimeSpec.ext (repr_injective h), congrArg toRestForm⟩

end TimeSpec

end KrakenSdk.Trade
