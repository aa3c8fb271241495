/-
# Dates and their numbers

Every number of a day is that of the date which the calendar gives for it
(`dayNumber_ofDayNumber`), and this date is one that the calendar has.  A number is
taken apart into an era, a year of the era and a day of the year, all counted from
March (`Position`); that the division by 365 in the calendar finds the year is read off
the first and the last day of each of the 400 years of an era.
-/
import AccessControl.Time.Text
import Mathlib.Order.Monotone.Basic
import Mathlib.Tactic.ByContra
import Mathlib.Tactic.IntervalCases

namespace AccessControl.Date

/-! ## The years of an era -/

/-- The first day of a year of an era. -/
def firstDay (year : Nat) : Nat := 365 * year + year / 4 - year / 100

/-- The days up to a day of an era, as if every year had 365 of them. -/
def evenDays (day : Nat) : Nat := day - day / 1460 + day / 36524 - day / 146096

theorem monotone_evenDays : Monotone evenDays := by
  refine monotone_nat_of_le_succ fun day => ?_
  -- a day that is taken away at the end of an era is one that has been given before
  have hquarter : ∀ n, n / 146096 = n / 36524 / 4 := fun n =>
    (Nat.div_div_eq_div_mul n 36524 4).symm
  unfold evenDays
  rw [hquarter, hquarter]
  omega

/-- In every year of an era, the even days of its first and its last day are in the year. -/
theorem evenDays_bounds : ∀ year < 400, 365 * year ≤ evenDays (firstDay year) ∧
    evenDays (firstDay (year + 1) - 1) < 365 * (year + 1) := by
  decide +kernel

/-- The year in which a day of an era lies. -/
def yearOfDay (day : Nat) : Nat := evenDays day / 365

variable {day year : Nat}

theorem yearOfDay_lt (hday : day < 146097) : yearOfDay day < 400 := by
  unfold yearOfDay evenDays
  omega

/-- The year of a day has begun by then. -/
theorem firstDay_le (hday : day < 146097) : firstDay (yearOfDay day) ≤ day := by
  by_contra hbefore
  have hyear := yearOfDay_lt hday
  cases hindex : yearOfDay day with
  | zero =>
    rw [hindex] at hbefore
    exact hbefore (Nat.zero_le day)
  | succ previous =>
    -- the day would be no later than the last day of the year before
    rw [hindex] at hbefore hyear
    have hmono := monotone_evenDays (show day ≤ firstDay (previous + 1) - 1 by omega)
    have hlast := (evenDays_bounds previous (by omega)).2
    unfold yearOfDay at hindex
    omega

/-- The year of a day has not ended; the last year of an era has one day more. -/
theorem lt_firstDay_succ (hday : day < 146097) :
    day < firstDay (yearOfDay day + 1) ∨ yearOfDay day = 399 := by
  by_contra! hafter
  obtain ⟨hnext, hlast⟩ := hafter
  have hyear := yearOfDay_lt hday
  have hmono := monotone_evenDays hnext
  have hfirst := (evenDays_bounds (yearOfDay day + 1) (by omega)).1
  unfold yearOfDay at hmono hfirst
  omega

theorem isLeap_iff {year : Int} :
    isLeap year = true ↔ year % 4 = 0 ∧ (year % 100 ≠ 0 ∨ year % 400 = 0) := by
  simp [isLeap]

/-- A year has 365 days, and one more when the calendar year in which it ends is a leap year. -/
theorem firstDay_succ (year : Nat) :
    firstDay (year + 1) = firstDay year + 365 ∨
      firstDay (year + 1) = firstDay year + 366 ∧ (year + 1) % 4 = 0 ∧ (year + 1) % 100 ≠ 0 := by
  have hfour : (year + 1) / 4 = year / 4 + if (year + 1) % 4 = 0 then 1 else 0 := by
    split <;> omega
  have hhundred : (year + 1) / 100 = year / 100 + if (year + 1) % 100 = 0 then 1 else 0 := by
    split <;> omega
  unfold firstDay
  rw [hfour, hhundred]
  split <;> split <;> omega

/-! ## The days of a year -/

/-- The month of the calendar for a month counted from March. -/
def civilMonth (marchMonth : Nat) : Nat :=
  if marchMonth < 10 then marchMonth + 3 else marchMonth - 9

/-- The month, counted from March, in which a day of a year lies. -/
def monthOfDay (day : Nat) : Nat := (5 * day + 2) / 153

theorem civilMonth_bounds {month : Nat} (hmonth : month < 12) :
    1 ≤ civilMonth month ∧ civilMonth month ≤ 12 := by
  unfold civilMonth
  split <;> omega

theorem marchMonth_civilMonth {month : Nat} (hmonth : month < 12) :
    (civilMonth month + 9) % 12 = month := by
  unfold civilMonth
  split <;> omega

theorem monthOfDay_lt (hday : day < 366) : monthOfDay day < 12 := by
  unfold monthOfDay
  omega

/-- A day lies in its month. -/
theorem daysBefore_monthOfDay (day : Nat) :
    daysBefore (monthOfDay day) ≤ day ∧ day < daysBefore (monthOfDay day + 1) := by
  unfold daysBefore monthOfDay
  omega

/-- All months but the last one, which is February, have their lengths in every year. -/
theorem daysBefore_succ {month : Nat} (hmonth : month < 11) (year : Int) :
    daysBefore (month + 1) = daysBefore month + monthLength year (civilMonth month) := by
  interval_cases month <;> rfl

/-- A day of a year is a day of its month; the last one of a long year needs a leap year. -/
theorem le_monthLength {year : Int} (hday : day < 365 ∨ day = 365 ∧ isLeap year) :
    day - daysBefore (monthOfDay day) + 1 ≤ monthLength year (civilMonth (monthOfDay day)) := by
  obtain ⟨hfirst, hnext⟩ := daysBefore_monthOfDay day
  have hmonth := monthOfDay_lt (show day < 366 by omega)
  by_cases hlast : monthOfDay day = 11
  · rw [hlast]
    rw [hlast] at hfirst
    have hbefore : daysBefore 11 = 337 := rfl
    show _ ≤ if isLeap year then 29 else 28
    rcases hday with hshort | ⟨rfl, hleap⟩
    · split <;> omega
    · rw [if_pos hleap]
      omega
  · rw [daysBefore_succ (by omega) year] at hnext
    omega

/-- The two months before March are the last ones of the year that starts then. -/
theorem civilMonth_monthOfDay_le_iff (hday : day < 366) :
    civilMonth (monthOfDay day) ≤ 2 ↔ 306 ≤ day := by
  unfold civilMonth monthOfDay
  split <;> omega

/-! ## Positions -/

/-- A day of a year of an era; the day after February 28 is there in leap years only. -/
structure Position where
  era : Int
  year : Nat
  day : Nat
  year_lt : year < 400
  day_fits : day < 365 ∨ day = 365 ∧ isLeap (year + era * 400 + 1)

namespace Position

variable (p : Position)

/-- The number of the day at a position. -/
def number : Int := p.era * 146097 + (firstDay p.year + p.day : Nat) - 719468

/-- The date of the day at a position. -/
def date : Date where
  year := if civilMonth (monthOfDay p.day) ≤ 2 then p.year + p.era * 400 + 1
    else p.year + p.era * 400
  month := civilMonth (monthOfDay p.day)
  day := p.day - daysBefore (monthOfDay p.day) + 1

theorem day_lt : p.day < 366 := by
  rcases p.day_fits with h | h <;> omega

/-- The date at a position is one that the calendar has. -/
theorem isValid_date : p.date.IsValid := by
  obtain ⟨hfirst, hlast⟩ := civilMonth_bounds (monthOfDay_lt p.day_lt)
  refine ⟨hfirst, hlast, Nat.le_add_left 1 _, le_monthLength ?_⟩
  rcases p.day_fits with hshort | ⟨hday, hleap⟩
  · exact .inl hshort
  · -- the last day is in February, so its year is the next one of the calendar
    have hfebruary : civilMonth (monthOfDay p.day) ≤ 2 :=
      (civilMonth_monthOfDay_le_iff p.day_lt).2 (by omega)
    refine .inr ⟨hday, ?_⟩
    rw [date, if_pos hfebruary]
    exact hleap

/-- The date at a position has the number of the position. -/
theorem dayNumber_date : p.date.dayNumber = p.number := by
  have hmonth := marchMonth_civilMonth (monthOfDay_lt p.day_lt)
  have hfirst := (daysBefore_monthOfDay p.day).1
  have hyear : (if p.date.month ≤ 2 then p.date.year - 1 else p.date.year)
      = p.year + p.era * 400 := by
    dsimp only [date]
    split <;> omega
  have hera : (p.year + p.era * 400 : Int) / 400 = p.era := by
    have := p.year_lt
    omega
  have hyearOfEra : (p.year + p.era * 400 : Int) % 400 = p.year := by
    have := p.year_lt
    omega
  have hday : daysBefore ((p.date.month + 9) % 12) + p.date.day - 1 = p.day := by
    dsimp only [date]
    rw [hmonth]
    omega
  unfold dayNumber number
  simp only [hyear, hera, hyearOfEra, hday]
  unfold firstDay
  omega

/-- The first year in which every day can be represented. -/
theorem le_year (h : -96465292 ≤ p.number) : -262143 ≤ p.date.year := by
  have hyear := p.year_lt
  have hmonth := civilMonth_monthOfDay_le_iff p.day_lt
  have hday := p.day_lt
  unfold number firstDay at h
  dsimp only [date]
  split <;> omega

/-- The last year in which every day can be represented. -/
theorem year_le (h : p.number < 95026237) : p.date.year ≤ 262142 := by
  have hyear := p.year_lt
  have hmonth := civilMonth_monthOfDay_le_iff p.day_lt
  have hera : p.era < 655 ∨ p.era = 655 ∧ firstDay p.year + p.day < 52170 := by
    unfold number firstDay at h
    unfold firstDay
    omega
  dsimp only [date]
  rcases hera with hera | ⟨hera, hlate⟩
  · split <;> omega
  · -- the year that starts in March 262142 is the last one, without its last two months
    have hlast : p.year < 142 ∨ p.year = 142 ∧ p.day < 306 := by
      unfold firstDay at hlate
      rcases lt_trichotomy p.year 142 with hbefore | hsame | hafter
      · exact .inl hbefore
      · rw [hsame] at hlate
        exact .inr ⟨hsame, by omega⟩
      · omega
    split <;> omega

end Position

/-- The last day of a year with 366 of them is a leap day. -/
theorem day_fits_yearOfDay (hday : day < 146097) (era : Int) :
    day - firstDay (yearOfDay day) < 365 ∨
      day - firstDay (yearOfDay day) = 365 ∧ isLeap (yearOfDay day + era * 400 + 1) := by
  have hfirst := firstDay_le hday
  have hnext := lt_firstDay_succ hday
  have hsucc := firstDay_succ (yearOfDay day)
  have hlast : firstDay 399 = 145731 := rfl
  generalize yearOfDay day = year at *
  by_cases hshort : day - firstDay year < 365
  · exact .inl hshort
  · rw [isLeap_iff]
    rcases hnext with hnext | rfl
    · exact .inr ⟨by omega, by omega, .inl (by omega)⟩
    · -- the last year of an era ends in one that 400 divides
      exact .inr ⟨by omega, by omega, .inr (by omega)⟩

/-- The position of a day with a given number. -/
def Position.ofNumber (number : Int) : Position where
  era := (number + 719468) / 146097
  year := yearOfDay ((number + 719468) % 146097).toNat
  day := ((number + 719468) % 146097).toNat -
    firstDay (yearOfDay ((number + 719468) % 146097).toNat)
  year_lt := yearOfDay_lt (by omega)
  day_fits := day_fits_yearOfDay (by omega) _

theorem Position.number_ofNumber (number : Int) : (ofNumber number).number = number := by
  have hfirst := firstDay_le (show ((number + 719468) % 146097).toNat < 146097 by omega)
  unfold Position.number
  dsimp only [ofNumber]
  omega

theorem Position.date_ofNumber (number : Int) : (ofNumber number).date = ofDayNumber number := rfl

/-! ## Dates of numbers -/

/-- The date with a given number is one that the calendar has. -/
theorem isValid_ofDayNumber (number : Int) : (ofDayNumber number).IsValid :=
  (Position.ofNumber number).isValid_date

/-- The date with a given number has this number. -/
theorem dayNumber_ofDayNumber (number : Int) : (ofDayNumber number).dayNumber = number := by
  rw [← Position.date_ofNumber, Position.dayNumber_date, Position.number_ofNumber]

/-- The years of the dates whose days can be represented. -/
theorem isCovered_ofDayNumber {number : Int} (hleast : -96465292 ≤ number)
    (hgreatest : number < 95026237) : Instant.IsCovered (ofDayNumber number).year := by
  rw [← Position.date_ofNumber]
  rw [← Position.number_ofNumber number] at hleast hgreatest
  generalize Position.ofNumber number = p at *
  exact ⟨p.le_year hleast, p.year_le hgreatest⟩

end AccessControl.Date
