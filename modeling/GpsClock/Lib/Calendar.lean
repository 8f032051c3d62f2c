import Mathlib

/-! # The Gregorian calendar

Years of months of days, extended backwards to year 0. A date's number counts the days
of the years and the months before it, from the first day of year 0. Both parts have
closed forms: the years' (`Calendar.daysBeforeYear_succ`), and the months' once the year
is counted from March (`Calendar.daysOfMonths_eq`).
-/

namespace Calendar

def LeapYear (year : Nat) : Prop :=
  year % 4 = 0 ∧ year % 100 ≠ 0 ∨ year % 400 = 0

instance (year : Nat) : Decidable (LeapYear year) :=
  inferInstanceAs (Decidable (_ ∨ _))

/-- The days of a month, from 1 on. -/
def monthLength (year : Nat) : (month : Nat) → Nat
  | 2 => if LeapYear year then 29 else 28
  | 4 | 6 | 9 | 11 => 30
  | _ => 31

/-- The days of the year's first so many months. -/
def daysOfMonths (year : Nat) : (months : Nat) → Nat
  | 0 => 0
  | months + 1 => daysOfMonths year months + monthLength year (months + 1)

def yearLength (year : Nat) : Nat := daysOfMonths year 12

def daysBeforeYear : (year : Nat) → Nat
  | 0 => 0
  | year + 1 => daysBeforeYear year + yearLength year

/-- A date's number of days since the first day of year 0. -/
def dayNumber (year month day : Nat) : Nat :=
  daysBeforeYear year + daysOfMonths year (month - 1) + (day - 1)

/-- A day that exists. -/
structure ValidDate (year month day : Nat) : Prop where
  firstMonth : 1 ≤ month
  lastMonth : month ≤ 12
  firstDay : 1 ≤ day
  lastDay : day ≤ monthLength year month

theorem yearLength_eq (year : Nat) : yearLength year = if LeapYear year then 366 else 365 := by
  by_cases leap : LeapYear year <;> simp [yearLength, daysOfMonths, monthLength, leap]

theorem succ_div (year divisor : Nat) :
    (year + 1) / divisor = year / divisor + if (year + 1) % divisor = 0 then 1 else 0 := by
  rw [Nat.succ_div]
  simp only [Nat.dvd_iff_mod_eq_zero]

/-- One leap year is year 0 itself. -/
theorem daysBeforeYear_succ (year : Nat) :
    daysBeforeYear (year + 1) = 366 + (365 * year + year / 4 + year / 400 - year / 100) := by
  induction year with
  | zero => rfl
  | succ year ih =>
      have fewer := Nat.div_le_self year 100
      rw [daysBeforeYear, ih, yearLength_eq, succ_div year 4, succ_div year 100, succ_div year 400]
      generalize year / 4 = byFours, year / 100 = byHundreds, year / 400 = byEras at fewer ⊢
      by_cases fours : (year + 1) % 4 = 0
      · by_cases hundreds : (year + 1) % 100 = 0
        · by_cases eras : (year + 1) % 400 = 0
          · simp only [LeapYear, fours, hundreds, eras, or_true, if_true]
            omega
          · simp only [LeapYear, fours, hundreds, eras, ne_eq, not_true_eq_false, and_false,
              or_false, if_true, if_false]
            omega
        · have eras : (year + 1) % 400 ≠ 0 := by omega
          simp only [LeapYear, fours, hundreds, eras, ne_eq, not_false_eq_true, and_true, true_or,
            if_true, if_false]
          omega
      · have hundreds : (year + 1) % 100 ≠ 0 := by omega
        have eras : (year + 1) % 400 ≠ 0 := by omega
        simp only [LeapYear, fours, hundreds, eras, false_and, or_false, if_false]
        omega

/-- From March on the months' days go up by 153 in five months. -/
theorem daysOfMonths_eq (year : Nat) {month : Nat} (first : 1 ≤ month) (last : month ≤ 12) :
    daysOfMonths year (month - 1) =
      if month ≤ 2 then 31 * (month - 1)
      else (153 * (month - 3) + 2) / 5 + if LeapYear year then 60 else 59 := by
  by_cases leap : LeapYear year <;> interval_cases month <;>
    simp [daysOfMonths, monthLength, leap]

theorem monthLength_le (year month : Nat) : monthLength year month ≤ 31 := by
  unfold monthLength
  split
  · split <;> decide
  all_goals decide

/-! ## Months in a row -/

/-- The length of a month, counted from January of year 0. -/
def lengthAt (index : Nat) : Nat := monthLength (index / 12) (index % 12 + 1)

/-- The number of its first day. -/
def monthStart (index : Nat) : Nat :=
  daysBeforeYear (index / 12) + daysOfMonths (index / 12) (index % 12)

/-- The month of a date. -/
def monthIndex (year month : Nat) : Nat := 12 * year + (month - 1)

theorem monthIndex_parts (year : Nat) {month : Nat} (last : month ≤ 12) :
    monthIndex year month / 12 = year ∧ monthIndex year month % 12 = month - 1 := by
  have few : month - 1 < 12 := by omega
  rw [monthIndex, Nat.mul_add_div (by decide), Nat.mul_add_mod, Nat.div_eq_of_lt few,
    Nat.mod_eq_of_lt few]
  exact ⟨rfl, rfl⟩

theorem lengthAt_monthIndex (year : Nat) {month : Nat} (first : 1 ≤ month) (last : month ≤ 12) :
    lengthAt (monthIndex year month) = monthLength year month := by
  obtain ⟨years, months⟩ := monthIndex_parts year last
  rw [lengthAt, years, months, Nat.sub_add_cancel first]

theorem dayNumber_eq (year : Nat) {month : Nat} (last : month ≤ 12) (day : Nat) :
    dayNumber year month day = monthStart (monthIndex year month) + (day - 1) := by
  obtain ⟨years, months⟩ := monthIndex_parts year last
  rw [dayNumber, monthStart, years, months]

/-- A month starts where the one before it ends. -/
theorem monthStart_succ (index : Nat) : monthStart (index + 1) = monthStart index + lengthAt index := by
  rw [monthStart, monthStart, lengthAt]
  rcases Nat.lt_or_ge (index % 12) 11 with within | last
  · have year : (index + 1) / 12 = index / 12 := by omega
    have month : (index + 1) % 12 = index % 12 + 1 := by omega
    rw [year, month, daysOfMonths, Nat.add_assoc]
  · have december : index % 12 = 11 := by omega
    have year : (index + 1) / 12 = index / 12 + 1 := by omega
    have month : (index + 1) % 12 = 0 := by omega
    rw [year, month, december, daysBeforeYear, daysOfMonths, yearLength, daysOfMonths,
      Nat.add_zero, Nat.add_assoc]

theorem monthStart_mono : Monotone monthStart := by
  apply monotone_nat_of_le_succ
  intro index
  rw [monthStart_succ]
  exact Nat.le_add_right _ _

/-- A month ends before a later one starts. -/
theorem monthStart_add_le {earlier later : Nat} (before : earlier < later) :
    monthStart earlier + lengthAt earlier ≤ monthStart later := by
  rw [← monthStart_succ]
  exact monthStart_mono before

theorem lengthAt_pos (index : Nat) : 0 < lengthAt index := by
  rw [lengthAt]
  unfold monthLength
  split
  · split <;> decide
  all_goals decide

end Calendar
