/-
# Civil dates

Dates of the proleptic Gregorian calendar and their numbers, counted in days from
the first of January 1970.  Years are counted from March, so that the leap day is
the last day of its year, and in eras of 400 years, which all have 146097 days.
-/
namespace AccessControl

/-- A date of the calendar. -/
structure Date where
  year : Int
  month : Nat
  day : Nat
  deriving DecidableEq, Repr

namespace Date

/-- A year with a leap day. -/
def isLeap (year : Int) : Bool := year % 4 = 0 && (year % 100 ≠ 0 || year % 400 = 0)

/-- The number of days of a month. -/
def monthLength (year : Int) (month : Nat) : Nat :=
  if month = 2 then if isLeap year then 29 else 28
  else if month = 4 ∨ month = 6 ∨ month = 9 ∨ month = 11 then 30
  else 31

/-- A date that the calendar has. -/
def IsValid (date : Date) : Prop :=
  1 ≤ date.month ∧ date.month ≤ 12 ∧ 1 ≤ date.day ∧ date.day ≤ monthLength date.year date.month

instance (date : Date) : Decidable date.IsValid := by unfold IsValid; infer_instance

/-- The days before the given month of a year that starts in March. -/
def daysBefore (marchMonth : Nat) : Nat := (153 * marchMonth + 2) / 5

/-- The number of a date. -/
def dayNumber (date : Date) : Int :=
  let year := if date.month ≤ 2 then date.year - 1 else date.year
  let yearOfEra := year % 400
  let dayOfYear := daysBefore ((date.month + 9) % 12) + date.day - 1
  year / 400 * 146097 + (yearOfEra * 365 + yearOfEra / 4 - yearOfEra / 100 + dayOfYear) - 719468

/-- The date with a given number. -/
def ofDayNumber (number : Int) : Date :=
  let days := number + 719468
  let dayOfEra := (days % 146097).toNat
  let yearOfEra := (dayOfEra - dayOfEra / 1460 + dayOfEra / 36524 - dayOfEra / 146096) / 365
  let dayOfYear := dayOfEra - (365 * yearOfEra + yearOfEra / 4 - yearOfEra / 100)
  let marchMonth := (5 * dayOfYear + 2) / 153
  let month := if marchMonth < 10 then marchMonth + 3 else marchMonth - 9
  let year := yearOfEra + days / 146097 * 400
  ⟨if month ≤ 2 then year + 1 else year, month, dayOfYear - daysBefore marchMonth + 1⟩

example : dayNumber ⟨1970, 1, 1⟩ = 0 := by decide
example : ofDayNumber (-1) = ⟨1969, 12, 31⟩ := by decide
example : ofDayNumber 11016 = ⟨2000, 2, 29⟩ := by decide

end Date

end AccessControl
