import Mathlib.Data.Int.Cast.Basic
import Mathlib.Tactic.IntervalCases
import Mathlib.Tactic.Linarith
import Mathlib.Tactic.SplitIfs
/-!
# The proleptic Gregorian calendar

Dates with the leap-year rule carried by the type, and the number of days between two of them, counted as anybody
would: the lengths of the years and months in between are added up.
-/
namespace KrakenSdk.Lib

/-- Every fourth year, but of the hundreds only every fourth. -/
def isLeapYear (y : Nat) : Bool := y % 4 = 0 && (y % 100 ≠ 0 || y % 400 = 0)

def yearLength (y : Nat) : Nat := if isLeapYear y then 366 else 365

/-- The months are counted from 1. -/
def monthLength (y m : Nat) : Nat :=
  if m = 2 then if isLeapYear y then 29 else 28
  else if m = 4 ∨ m = 6 ∨ m = 9 ∨ m = 11 then 30
  else 31

/-- A day of the calendar. -/
@[ext]
structure CivilDate where
  year : Nat
  month : Nat
  day : Nat
  month_pos : 1 ≤ month
  month_le : month ≤ 12
  day_pos : 1 ≤ day
  day_le : day ≤ monthLength year month

/-- A second of the calendar; no leap seconds, as in Unix time. -/
@[ext]
structure CivilInstant extends CivilDate where
  hour : Nat
  minute : Nat
  second : Nat
  hour_lt : hour < 24
  minute_lt : minute < 60
  second_lt : second < 60

/-- The days from the first of January of year 0 to that of year `y`. -/
def daysBeforeYear (y : Nat) : Nat := ((List.range y).map yearLength).sum

/-- The days of year `y` before its month `m`. -/
def daysBeforeMonth (y m : Nat) : Nat := ((List.range (m - 1)).map fun k => monthLength y (k + 1)).sum

/-- The days since the first of January 1970. -/
def CivilDate.unixDay (c : CivilDate) : Int :=
  daysBeforeYear c.year + daysBeforeMonth c.year c.month + (c.day - 1) - daysBeforeYear 1970

/-- The seconds since 1970-01-01T00:00:00Z. -/
def CivilInstant.toUnixSecs (c : CivilInstant) : Int :=
  86400 * c.unixDay + 3600 * c.hour + 60 * c.minute + c.second

/-! ## Closed forms -/

theorem isLeapYear_iff (y : Nat) : isLeapYear y = true ↔ y % 4 = 0 ∧ (y % 100 ≠ 0 ∨ y % 400 = 0) := by
  simp [isLeapYear]

theorem quads_succ (y : Nat) : (y + 1 + 3) / 4 = (y + 3) / 4 + if y % 4 = 0 then 1 else 0 := by
  split_ifs <;> omega

theorem hundreds_succ (y : Nat) : (y + 1 + 99) / 100 = (y + 99) / 100 + if y % 100 = 0 then 1 else 0 := by
  split_ifs <;> omega

theorem eras_succ (y : Nat) : (y + 1 + 399) / 400 = (y + 399) / 400 + if y % 400 = 0 then 1 else 0 := by
  split_ifs <;> omega

theorem yearLength_eq (y : Nat) : yearLength y + (if y % 100 = 0 then 1 else 0) =
    365 + (if y % 4 = 0 then 1 else 0) + if y % 400 = 0 then 1 else 0 := by
  unfold yearLength
  by_cases hleap : isLeapYear y = true
  · rw [if_pos hleap]
    rw [isLeapYear_iff] at hleap
    split_ifs <;> omega
  · rw [if_neg hleap]
    rw [isLeapYear_iff] at hleap
    split_ifs <;> omega

/-- The years with the leap years among them counted. -/
theorem daysBeforeYear_eq (y : Nat) :
    daysBeforeYear y + (y + 99) / 100 = 365 * y + (y + 3) / 4 + (y + 399) / 400 := by
  induction y with
  | zero => rfl
  | succ y ih =>
    have hsucc : daysBeforeYear (y + 1) = daysBeforeYear y + yearLength y := by
      simp [daysBeforeYear, List.range_succ]
    have hlength := yearLength_eq y
    rw [hsucc, quads_succ, hundreds_succ, eras_succ]
    omega

theorem daysBeforeYear_1970 : daysBeforeYear 1970 = 719528 := by
  have := daysBeforeYear_eq 1970
  omega

/-- From March on the lengths of the months repeat every five, so that their sum is linear. -/
theorem daysBeforeMonth_of_march {y m : Nat} (h : 3 ≤ m) (h' : m ≤ 12) :
    daysBeforeMonth y m = (if isLeapYear y then 60 else 59) + (153 * (m - 3) + 2) / 5 := by
  unfold daysBeforeMonth
  by_cases hleap : isLeapYear y = true
  · interval_cases m <;> simp [List.range_succ, monthLength, hleap]
  · interval_cases m <;> simp [List.range_succ, monthLength, hleap]

theorem daysBeforeMonth_of_winter {y m : Nat} (h : 1 ≤ m) (h' : m ≤ 2) :
    daysBeforeMonth y m = 31 * (m - 1) := by
  unfold daysBeforeMonth
  interval_cases m
  · rfl
  · rfl

end KrakenSdk.Lib
