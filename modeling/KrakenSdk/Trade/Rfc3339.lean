import Mathlib.Tactic.Ring
import KrakenSdk.Lib.Calendar
import KrakenSdk.Trade.TimeSpec
/-!
# The date and time of an instant (api/trade/types/requests.rs:65-86)

`unix_secs_to_rfc3339_utc` works on `i64` values. Here each of its operations is checked for overflow, and what it
renders is compared with the calendar: `unixSecsToRfc3339Utc_exact`.
-/
namespace KrakenSdk.Trade.TimeSpec

open KrakenSdk.Lib

/-! ## The checked evaluation -/

/-- The values of an `i64`. -/
def InI64 (n : Int) : Prop := -2 ^ 63 ≤ n ∧ n < 2 ^ 63

instance (n : Int) : Decidable (InI64 n) := inferInstanceAs (Decidable (_ ∧ _))

/-- The result of an `i64` operation; none is the overflow panic. -/
def checked (n : Int) : Option Int := if InI64 n then some n else none

theorem checked_eq {n : Int} (h0 : -2 ^ 63 ≤ n) (h1 : n < 2 ^ 63) : checked n = some n := if_pos ⟨h0, h1⟩

/-- `/` of a remainder or of a day count: it truncates, unlike `div_euclid`. -/
def checkedDiv (a b : Int) : Option Int := checked (a.tdiv b)

/-- Days and time of day (requests.rs:68-70). -/
def timeOfDayChecked (secs : Int) : Option (Int × Int × Int × Int) := do
  let days ← checked (secs / 86400)
  let tod ← checked (secs % 86400)
  let hh ← checkedDiv tod 3600
  let mi ← checkedDiv (← checked (tod.tmod 3600)) 60
  let ss ← checked (tod.tmod 60)
  some (days, hh, mi, ss)

/-- The year of the era (requests.rs:75), each quotient and each difference on its own. -/
def yearOfEraChecked (doe : Int) : Option Int := do
  let a ← checked (doe - (← checkedDiv doe 1460))
  let b ← checked (a + (← checkedDiv doe 36524))
  let c ← checked (b - (← checkedDiv doe 146096))
  checkedDiv c 365

/-- The day of the year (requests.rs:76). -/
def dayOfYearChecked (doe yoe : Int) : Option Int := do
  let a ← checked (365 * yoe)
  let b ← checked (a + (← checkedDiv yoe 4))
  let c ← checked (b - (← checkedDiv yoe 100))
  checked (doe - c)

/-- Month and day (requests.rs:77-79). -/
def monthDayChecked (doy : Int) : Option (Int × Int) := do
  let mp ← checkedDiv (← checked ((← checked (5 * doy)) + 2)) 153
  let upto ← checkedDiv (← checked ((← checked (153 * mp)) + 2)) 5
  let d ← checked ((← checked (doy - upto)) + 1)
  let m ← if mp < 10 then checked (mp + 3) else checked (mp - 9)
  some (m, d)

/-- Year, month and day (requests.rs:72-80). -/
def civilFromDaysChecked (days : Int) : Option (Int × Int × Int) := do
  let z ← checked (days + 719468)
  let era ← checked (z / 146097)
  let doe ← checked (z - (← checked (era * 146097)))
  let yoe ← yearOfEraChecked doe
  let doy ← dayOfYearChecked doe yoe
  let (m, d) ← monthDayChecked doy
  let y ← checked ((← checked (yoe + (← checked (era * 400)))) + yearShift m)
  some (y, m, d)

/-- The `format!` of requests.rs:82. -/
def rfc3339Text (y m d hh mi ss : Int) : String :=
  String.ofList (zeroPad 4 y ++ '-' :: (zeroPad 2 m ++ '-' :: (zeroPad 2 d ++ 'T' :: (zeroPad 2 hh ++ ':' ::
    (zeroPad 2 mi ++ ':' :: (zeroPad 2 ss ++ ['Z']))))))

/-- `unix_secs_to_rfc3339_utc` (requests.rs:67) with every operation checked. -/
def unixSecsToRfc3339UtcChecked (secs : Int) : Option String := do
  let (days, hh, mi, ss) ← timeOfDayChecked secs
  let (y, m, d) ← civilFromDaysChecked days
  some (rfc3339Text y m d hh mi ss)

theorem checkedDiv_eq {a b : Int} (h0 : 0 ≤ a) (h1 : a < 2 ^ 63) (hb : 0 < b) : checkedDiv a b = some (a / b) := by
  unfold checkedDiv
  rw [Int.tdiv_eq_ediv_of_nonneg h0]
  have := Int.ediv_nonneg h0 hb.le
  have := Int.ediv_le_self b h0
  exact checked_eq (by omega) (by omega)

theorem timeOfDayChecked_eq {secs : Int} (h0 : 0 ≤ secs) (h1 : secs < 2 ^ 63) : timeOfDayChecked secs =
    some (secs / 86400, secs % 86400 / 3600, secs % 86400 % 3600 / 60, secs % 86400 % 60) := by
  have htod : 0 ≤ secs % 86400 ∧ secs % 86400 < 86400 := by omega
  unfold timeOfDayChecked
  simp (disch := omega) only [checked_eq, checkedDiv_eq, Int.tmod_eq_emod_of_nonneg, Option.bind_some,
    Option.bind_eq_bind]

theorem yearOfEraChecked_eq {doe : Int} (h0 : 0 ≤ doe) (h1 : doe < 146097) :
    yearOfEraChecked doe = some (yearOfEra doe) := by
  unfold yearOfEraChecked yearOfEra
  simp (disch := omega) only [checked_eq, checkedDiv_eq, Option.bind_some, Option.bind_eq_bind]

theorem dayOfYearChecked_eq {doe : Int} (h0 : 0 ≤ doe) (h1 : doe < 146097) :
    dayOfYearChecked doe (yearOfEra doe) = some (dayOfYear doe) := by
  obtain ⟨hy0, hy1⟩ := yearOfEra_bounds h0 h1
  unfold dayOfYearChecked dayOfYear
  generalize yearOfEra doe = yoe at *
  simp (disch := omega) only [checked_eq, checkedDiv_eq, Option.bind_some, Option.bind_eq_bind]

theorem monthDayChecked_eq {doy : Int} (h0 : 0 ≤ doy) (h1 : doy ≤ 365) :
    monthDayChecked doy = some (monthOf doy, dayOf doy) := by
  have hmp : 0 ≤ (5 * doy + 2) / 153 ∧ (5 * doy + 2) / 153 ≤ 11 := by omega
  unfold monthDayChecked monthOf dayOf
  simp only [Option.bind_eq_bind]
  rw [checked_eq (by omega) (by omega), Option.bind_some, checked_eq (by omega) (by omega), Option.bind_some,
    checkedDiv_eq (by omega) (by omega) (by decide), Option.bind_some]
  generalize (5 * doy + 2) / 153 = mp at *
  have hupto : 0 ≤ (153 * mp + 2) / 5 ∧ (153 * mp + 2) / 5 ≤ 337 := by omega
  rw [checked_eq (by omega) (by omega), Option.bind_some, checked_eq (by omega) (by omega), Option.bind_some,
    checkedDiv_eq (by omega) (by omega) (by decide), Option.bind_some]
  generalize (153 * mp + 2) / 5 = upto at *
  rw [checked_eq (by omega) (by omega), Option.bind_some, checked_eq (by omega) (by omega), Option.bind_some]
  by_cases hearly : mp < 10
  · rw [if_pos hearly, if_pos hearly, checked_eq (by omega) (by omega)]
    rfl
  · rw [if_neg hearly, if_neg hearly, checked_eq (by omega) (by omega)]
    rfl

theorem yearShift_bounds (m : Int) : 0 ≤ yearShift m ∧ yearShift m ≤ 1 := by
  unfold yearShift
  split_ifs <;> omega

theorem civilFromDaysChecked_eq {days : Int} (h0 : 0 ≤ days) (h1 : days < 2 ^ 62) :
    civilFromDaysChecked days = some (civilFromDays days) := by
  have hz : days + 719468 - (days + 719468) / 146097 * 146097 = (days + 719468) % 146097 := by omega
  have hdoe0 : 0 ≤ (days + 719468) % 146097 := Int.emod_nonneg _ (by decide)
  have hdoe1 : (days + 719468) % 146097 < 146097 := Int.emod_lt_of_pos _ (by decide)
  -- an era has more than 400 days, so its years fit
  have hera : 0 ≤ (days + 719468) / 146097 ∧ (days + 719468) / 146097 ≤ 2 ^ 46 := by omega
  obtain ⟨hy0, hy1⟩ := yearOfEra_bounds hdoe0 hdoe1
  obtain ⟨hd0, hd1⟩ := dayOfYear_bounds hdoe0 hdoe1
  obtain ⟨hs0, hs1⟩ := yearShift_bounds (monthOf (dayOfYear ((days + 719468) % 146097)))
  unfold civilFromDaysChecked
  simp only [Option.bind_eq_bind]
  rw [checked_eq (by omega) (by omega), Option.bind_some, checked_eq (by omega) (by omega), Option.bind_some,
    checked_eq (by omega) (by omega), Option.bind_some, hz, checked_eq (by omega) (by omega), Option.bind_some,
    yearOfEraChecked_eq hdoe0 hdoe1, Option.bind_some, dayOfYearChecked_eq hdoe0 hdoe1, Option.bind_some,
    monthDayChecked_eq hd0 hd1, Option.bind_some]
  dsimp only
  rw [checked_eq (by omega) (by omega), Option.bind_some, checked_eq (by omega) (by omega), Option.bind_some,
    checked_eq (by omega) (by omega)]
  rfl

theorem unixSecsToRfc3339UtcChecked_eq {secs : Int} (h0 : 0 ≤ secs) (h1 : secs < 2 ^ 63) :
    unixSecsToRfc3339UtcChecked secs = some (unixSecsToRfc3339Utc secs) := by
  unfold unixSecsToRfc3339UtcChecked
  rw [timeOfDayChecked_eq h0 h1, Option.bind_eq_bind, Option.bind_some]
  dsimp only
  rw [civilFromDaysChecked_eq (by omega) (by omega)]
  rfl

/-! ## The calendar -/

/-- Only a leap year has a 366th day: its number then leaves the year too few days to be any other. -/
theorem leap_of_lastDay {doe : Int} (h0 : 0 ≤ doe) (h1 : doe < 146097) (hlast : dayOfYear doe = 365) :
    (yearOfEra doe + 1) % 4 = 0 ∧ ((yearOfEra doe + 1) % 100 ≠ 0 ∨ (yearOfEra doe + 1) % 400 = 0) := by
  obtain ⟨hy0, hy1⟩ := yearOfEra_bounds h0 h1
  unfold dayOfYear at hlast
  have hyoe : yearOfEra doe = (doe - doe / 1460 + doe / 36524 - doe / 146096) / 365 := rfl
  generalize yearOfEra doe = yoe at *
  have hdoe : doe = 365 * yoe + yoe / 4 - yoe / 100 + 365 := by omega
  have hquads : yoe / 4 - yoe / 100 + doe / 36524 + 1 ≤ doe / 1460 + doe / 146096 := by omega
  have hdays : doe / 36524 = 0 ∨ doe / 36524 = 1 ∨ doe / 36524 = 2 ∨ doe / 36524 = 3 ∨ doe / 36524 = 4 := by omega
  have hyears : yoe / 100 = 0 ∨ yoe / 100 = 1 ∨ yoe / 100 = 2 ∨ yoe / 100 = 3 := by omega
  have hend : doe / 146096 = 0 ∨ doe = 146096 := by omega
  rcases hend with hend | rfl
  · have hquad : 1460 * (yoe / 4) + 1460 ≤ doe := by
      by_contra hlt
      rcases hdays with hdays | hdays | hdays | hdays | hdays <;>
        rcases hyears with hyears | hyears | hyears | hyears <;>
          rw [hdays, hend, hyears] at hquads <;> rw [hyears] at hdoe <;> omega
    constructor
    · have hrem : yoe % 4 = 0 ∨ yoe % 4 = 1 ∨ yoe % 4 = 2 ∨ yoe % 4 = 3 := by omega
      rcases hrem with hrem | hrem | hrem | hrem <;> omega
    · by_contra hcent
      rcases hyears with hyears | hyears | hyears | hyears
      · obtain rfl : yoe = 99 := by omega
        omega
      · obtain rfl : yoe = 199 := by omega
        omega
      · obtain rfl : yoe = 299 := by omega
        omega
      · omega
  · omega

/-- The lengths of the months from March to February, as the formula of `d` has them. -/
theorem dayOf_le {doy : Int} (h0 : 0 ≤ doy) (h1 : doy ≤ 365) (y : Nat) (hleap : doy = 365 → isLeapYear y = true) :
    1 ≤ monthOf doy ∧ monthOf doy ≤ 12 ∧ 1 ≤ dayOf doy ∧ dayOf doy ≤ monthLength y (monthOf doy).toNat := by
  have hmp : 0 ≤ (5 * doy + 2) / 153 ∧ (5 * doy + 2) / 153 ≤ 11 := by omega
  have hlo : 153 * ((5 * doy + 2) / 153) ≤ 5 * doy + 2 := by omega
  have hhi : 5 * doy + 2 < 153 * ((5 * doy + 2) / 153) + 153 := by omega
  have hcommon : doy ≤ 364 ∨ isLeapYear y = true := by
    by_cases hlast : doy = 365
    · exact .inr (hleap hlast)
    · exact .inl (by omega)
  unfold monthOf dayOf
  dsimp only
  generalize (5 * doy + 2) / 153 = mp at *
  obtain ⟨hmp0, hmp1⟩ := hmp
  by_cases hfeb : mp = 11
  · subst hfeb
    rcases hcommon with hcommon | hcommon
    · simp only [monthLength]
      norm_num
      split_ifs <;> omega
    · simp only [monthLength, hcommon]
      norm_num
      omega
  · interval_cases mp <;> simp only [monthLength] <;> norm_num <;> omega

/-- The days before the first of March of year `y`, from year 0 on. -/
theorem marchDays_eq (y doy : Int) : y / 400 * 146097 + (365 * (y % 400) + y % 400 / 4 - y % 400 / 100 + doy) =
    365 * y + y / 4 - y / 100 + y / 400 + doy := by
  omega

/-- The days before the first of March of year `y`, as the calendar counts them. -/
theorem daysBeforeMarch_eq (y : Nat) : (daysBeforeYear y : Int) + (if isLeapYear y then 60 else 59 : Nat) =
    60 + (365 * (y : Int) + y / 4 - y / 100 + y / 400) := by
  have hyears := daysBeforeYear_eq y
  generalize daysBeforeYear y = before at *
  by_cases hleap : isLeapYear y = true
  · rw [if_pos hleap]
    rw [isLeapYear_iff] at hleap
    omega
  · rw [if_neg hleap]
    rw [isLeapYear_iff] at hleap
    omega

/-- The same for the year that began in March of the year before. -/
theorem daysBeforeWinter_eq (y : Nat) : (daysBeforeYear y : Int) =
    366 + (365 * ((y : Int) - 1) + (y - 1) / 4 - (y - 1) / 100 + (y - 1) / 400) := by
  have hyears := daysBeforeYear_eq y
  generalize daysBeforeYear y = before at *
  omega

/-- The day number of the source is that of the calendar. -/
theorem daysFromCivil_eq_unixDay (c : CivilDate) : daysFromCivil (c.year, c.month, c.day) = c.unixDay := by
  obtain ⟨y, m, d, hm0, hm1, hd0, -⟩ := c
  unfold CivilDate.unixDay daysFromCivil
  dsimp only at *
  rw [marchDays_eq, daysBeforeYear_1970]
  by_cases hm : m ≤ 2
  · have hdoy : dayOfYearOf m d = 306 + 31 * (m - 1) + (d - 1) := by
      unfold dayOfYearOf
      rw [if_neg (by omega)]
      omega
    rw [daysBeforeMonth_of_winter hm0 hm, hdoy, yearShift, if_pos (by omega), daysBeforeWinter_eq y]
    push_cast [hm0]
    ring
  · have hdoy : dayOfYearOf m d = (153 * (m - 3) + 2) / 5 + (d - 1) := by
      unfold dayOfYearOf
      rw [if_pos (by omega)]
      omega
    have hmarch := daysBeforeMarch_eq y
    rw [daysBeforeMonth_of_march (by omega) hm1, hdoy, yearShift, if_neg (by omega), Int.sub_zero, Nat.cast_add]
    push_cast [show 3 ≤ m by omega] at hmarch ⊢
    linarith

/-- A day from 1970 on is rendered as the calendar's date of that day. -/
theorem civilFromDays_date {days : Int} (h : 0 ≤ days) :
    ∃ c : CivilDate, civilFromDays days = (↑c.year, ↑c.month, ↑c.day) ∧ c.unixDay = days := by
  have hdoe0 : 0 ≤ (days + 719468) % 146097 := Int.emod_nonneg _ (by decide)
  have hdoe1 : (days + 719468) % 146097 < 146097 := Int.emod_lt_of_pos _ (by decide)
  obtain ⟨hy0, -⟩ := civilFromDays_nonneg h
  obtain ⟨hd0, hd1⟩ := dayOfYear_bounds hdoe0 hdoe1
  have hleap : dayOfYear ((days + 719468) % 146097) = 365 → isLeapYear (civilFromDays days).1.toNat = true := by
    intro hlast
    have hrule := leap_of_lastDay hdoe0 hdoe1 hlast
    have hfeb : monthOf (dayOfYear ((days + 719468) % 146097)) = 2 := by rw [hlast]; decide
    have hyear : (civilFromDays days).1 =
        yearOfEra ((days + 719468) % 146097) + 1 + (days + 719468) / 146097 * 400 := by
      simp only [civilFromDays, hfeb, yearShift]
      rw [if_pos (by decide)]
      omega
    rw [isLeapYear_iff]
    generalize yearOfEra ((days + 719468) % 146097) = yoe at *
    generalize (civilFromDays days).1 = year at *
    omega
  obtain ⟨hm0, hm1, hday0, hday1⟩ := dayOf_le hd0 hd1 _ hleap
  change 1 ≤ (civilFromDays days).2.1 at hm0
  change (civilFromDays days).2.1 ≤ 12 at hm1
  change 1 ≤ (civilFromDays days).2.2 at hday0
  change (civilFromDays days).2.2 ≤ monthLength _ (civilFromDays days).2.1.toNat at hday1
  refine ⟨⟨(civilFromDays days).1.toNat, (civilFromDays days).2.1.toNat, (civilFromDays days).2.2.toNat,
    by omega, by omega, by omega, by omega⟩, ?_, ?_⟩
  · simp only [Int.toNat_of_nonneg hy0, Int.toNat_of_nonneg (show 0 ≤ (civilFromDays days).2.1 by omega),
      Int.toNat_of_nonneg (show 0 ≤ (civilFromDays days).2.2 by omega)]
  · rw [← daysFromCivil_eq_unixDay]
    simp only [Int.toNat_of_nonneg hy0, Int.toNat_of_nonneg (show 0 ≤ (civilFromDays days).2.1 by omega),
      Int.toNat_of_nonneg (show 0 ≤ (civilFromDays days).2.2 by omega)]
    exact daysFromCivil_civilFromDays days

/-! ## The rendered text -/

/-- `YYYY-MM-DDThh:mm:ssZ`. -/
def rfc3339 (c : CivilInstant) : String := rfc3339Text c.year c.month c.day c.hour c.minute c.second

theorem rfc3339_injective {c c' : CivilInstant} (h : rfc3339 c = rfc3339 c') : c = c' := by
  have hnumbers : ∀ c : CivilInstant, numbers (rfc3339 c).toList =
      [c.year, c.month, c.day, c.hour, c.minute, c.second, 0] := by
    intro c
    simp only [rfc3339, rfc3339Text, String.toList_ofList]
    rw [numbers_zeroPad 4 _ (by rfl), numbers_zeroPad 2 _ (by rfl), numbers_zeroPad 2 _ (by rfl),
      numbers_zeroPad 2 _ (by rfl), numbers_zeroPad 2 _ (by rfl), numbers_zeroPad 2 _ (by rfl)]
    rfl
  have heq := congrArg (fun s : String => numbers s.toList) h
  simp only [hnumbers, List.cons.injEq, and_true] at heq
  obtain ⟨hy, hm, hd, hh, hmi, hs⟩ := heq
  exact CivilInstant.ext hy hm hd hh hmi hs

/-- The calendar's instant at a number of seconds since 1970, and the text of it. -/
theorem unixSecsToRfc3339Utc_instant {secs : Int} (h : 0 ≤ secs) :
    ∃ c : CivilInstant, unixSecsToRfc3339Utc secs = rfc3339 c ∧ c.toUnixSecs = secs := by
  obtain ⟨date, hdate, hdays⟩ := civilFromDays_date (show 0 ≤ secs / 86400 by omega)
  refine ⟨⟨date, (secs % 86400 / 3600).toNat, (secs % 86400 % 3600 / 60).toNat, (secs % 86400 % 60).toNat,
    by omega, by omega, by omega⟩, ?_, ?_⟩
  · simp only [unixSecsToRfc3339Utc, rfc3339, rfc3339Text, hdate,
      Int.toNat_of_nonneg (show 0 ≤ secs % 86400 / 3600 by omega),
      Int.toNat_of_nonneg (show 0 ≤ secs % 86400 % 3600 / 60 by omega),
      Int.toNat_of_nonneg (show 0 ≤ secs % 86400 % 60 by omega)]
  · unfold CivilInstant.toUnixSecs
    rw [hdays]
    dsimp only
    omega

/-- **The rendering is exact.** From the epoch to the last second of an `i64` nothing overflows, the text is that of
an instant of the calendar, that instant is the given number of seconds after the epoch, and no other number of
seconds has that text. -/
theorem unixSecsToRfc3339Utc_exact (secs : Int) (h0 : 0 ≤ secs) (h1 : secs < 2 ^ 63) :
    ∃ c : CivilInstant, unixSecsToRfc3339UtcChecked secs = some (rfc3339 c) ∧ c.toUnixSecs = secs ∧
      ∀ secs', 0 ≤ secs' → secs' < 2 ^ 63 → unixSecsToRfc3339UtcChecked secs' = some (rfc3339 c) → secs' = secs := by
  obtain ⟨c, htext, hsecs⟩ := unixSecsToRfc3339Utc_instant h0
  refine ⟨c, by rw [unixSecsToRfc3339UtcChecked_eq h0 h1, htext], hsecs, ?_⟩
  intro secs' h0' h1' hsame
  obtain ⟨c', htext', hsecs'⟩ := unixSecsToRfc3339Utc_instant h0'
  rw [unixSecsToRfc3339UtcChecked_eq h0' h1', htext', Option.some.injEq] at hsame
  rw [← hsecs, ← hsecs', rfc3339_injective hsame]

theorem unixSecsToRfc3339Utc_exact_leapDay : ∃ c : CivilInstant,
    unixSecsToRfc3339UtcChecked 951782400 = some (rfc3339 c) ∧ c.toUnixSecs = 951782400 ∧
      ∀ secs', 0 ≤ secs' → secs' < 2 ^ 63 → unixSecsToRfc3339UtcChecked secs' = some (rfc3339 c) →
        secs' = 951782400 :=
  unixSecsToRfc3339Utc_exact 951782400 (by decide) (by decide)

end KrakenSdk.Trade.TimeSpec
