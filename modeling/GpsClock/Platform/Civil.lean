import GpsClock.Lib.Calendar
import GpsClock.Platform.Utc

/-! # Calendar dates

`utc.c`: days and seconds since 1970 as proleptic Gregorian dates, years counted from
March so that the leap day ends the year. The days are the calendar's own
(`GpsClock.Platform.utcDaysFromCivil_eq`).
-/

namespace GpsClock.Platform

/-- `DAYS_TO_1970`. -/
def daysTo1970 : Nat := 719468

/-- `DAYS_PER_ERA`. -/
def daysPerEra : Nat := 146097

/-- `UTC_SECONDS_PER_DAY`. -/
def utcSecondsPerDay : Nat := 86400

structure UtcCivil where
  year : Nat
  month : Nat
  day : Nat
  hour : Nat := 0
  minute : Nat := 0
  second : Nat := 0
  deriving DecidableEq, Repr

/-- `utc_days_from_civil`. The date must be valid and in range. -/
def utcDaysFromCivil (year month day : Nat) : Nat :=
  let y := year - (if month ≤ 2 then 1 else 0)
  let era := y / 400
  let yearOfEra := y - era * 400
  let dayOfYear := (153 * (if 2 < month then month - 3 else month + 9) + 2) / 5 + day - 1
  let dayOfEra := yearOfEra * 365 + yearOfEra / 4 - yearOfEra / 100 + dayOfYear
  (era * daysPerEra + dayOfEra - daysTo1970) % 2 ^ 16

/-- `utc_civil_from_days`. -/
def utcCivilFromDays (days : Nat) : UtcCivil :=
  let z := days + daysTo1970
  let era := z / daysPerEra
  let dayOfEra := z - era * daysPerEra
  let yearOfEra := (dayOfEra - dayOfEra / 1460 + dayOfEra / 36524 - dayOfEra / 146096) / 365
  let dayOfYear := dayOfEra - (365 * yearOfEra + yearOfEra / 4 - yearOfEra / 100)
  let monthIndex := (5 * dayOfYear + 2) / 153
  let month := if monthIndex < 10 then monthIndex + 3 else monthIndex - 9
  { year := yearOfEra + era * 400 + (if month ≤ 2 then 1 else 0)
    month := month
    day := dayOfYear - (153 * monthIndex + 2) / 5 + 1 }

/-- `utc_to_civil`. -/
def utcToCivil (utcSeconds : BitVec 32) (leapSecond : Bool) : UtcCivil :=
  let secondOfDay := utcSeconds.toNat % utcSecondsPerDay
  let minuteOfDay := secondOfDay / 60
  { utcCivilFromDays (utcSeconds.toNat / utcSecondsPerDay) with
    hour := minuteOfDay / 60
    minute := minuteOfDay % 60
    second := if leapSecond then 60 else secondOfDay % 60 }

/-- `utc_from_civil`. -/
def utcFromCivil (civil : UtcCivil) : BitVec 32 :=
  let days := utcDaysFromCivil civil.year civil.month civil.day
  let second := if 59 < civil.second then 59 else civil.second
  BitVec.ofNat 32
    (days * utcSecondsPerDay + civil.hour * 3600 + civil.minute * 60 + second)

/-- `days_in_month`. -/
def daysInMonth (year month : Nat) : Nat :=
  let leapYear := (year % 4 = 0 ∧ year % 100 ≠ 0) ∨ year % 400 = 0
  [31, 28, 31, 30, 31, 30, 31, 31, 30, 31, 30, 31].getD (month - 1) 0 +
    if month = 2 ∧ leapYear then 1 else 0

/-- `UTC_LAST_YEAR`. -/
def utcLastYear : Nat := 2106

/-- `LAST_SECOND_OF_LAST_DAY`. -/
def lastSecondOfLastDay : Nat := 6 * 3600 + 28 * 60 + 15

/-- `utc_civil_is_valid`. -/
def utcCivilIsValid (civil : UtcCivil) : Bool :=
  if civil.year < 1970 ∨ utcLastYear < civil.year ∨ civil.month < 1 ∨ 12 < civil.month ∨
      civil.day < 1 ∨ daysInMonth civil.year civil.month < civil.day ∨ 23 < civil.hour ∨
      59 < civil.minute ∨ 60 < civil.second then
    false
  else if civil.year < utcLastYear ∨ civil.month = 1 ∨ civil.month = 2 ∧ civil.day < 7 then true
  else
    let secondOfDay := civil.hour * 3600 + civil.minute * 60 + civil.second
    decide (civil.month = 2 ∧ civil.day = 7 ∧ secondOfDay ≤ lastSecondOfLastDay)

/-! ## Against the calendar -/

open Calendar

/-- The first day of 1970. -/
theorem dayNumber_1970 : dayNumber 1970 1 1 = 719528 := by
  rw [dayNumber, daysBeforeYear_succ]
  rfl

/-- A year's place in its era makes no difference to the sum. -/
theorem eraDays_eq (year dayOfYear : Nat) :
    year / 400 * daysPerEra +
        ((year - year / 400 * 400) * 365 + (year - year / 400 * 400) / 4 -
          (year - year / 400 * 400) / 100 + dayOfYear) =
      365 * year + year / 4 + year / 400 - year / 100 + dayOfYear := by
  obtain ⟨era, rest, small, split⟩ : ∃ era rest, rest < 400 ∧ year = 400 * era + rest :=
    ⟨year / 400, year % 400, Nat.mod_lt _ (by decide), (Nat.div_add_mod year 400).symm⟩
  subst split
  have eras : (400 * era + rest) / 400 = era := by omega
  have fours : (400 * era + rest) / 4 = 100 * era + rest / 4 := by omega
  have hundreds : (400 * era + rest) / 100 = 4 * era + rest / 100 := by omega
  have left : 400 * era + rest - era * 400 = rest := by omega
  rw [eras, fours, hundreds, left]
  unfold daysPerEra
  omega

/-- The day a year ends on, as a sum over its own number. -/
theorem daysBeforeYear_next (year : Nat) :
    366 + (365 * year + year / 4 + year / 400 - year / 100) =
      daysBeforeYear year + yearLength year := by
  rw [← daysBeforeYear_succ, daysBeforeYear]

theorem leapDays_ge {year : Nat} (since : 1969 ≤ year) :
    719162 + 364 * (year - 1969) ≤ 365 * year + year / 4 + year / 400 - year / 100 := by
  obtain ⟨later, rfl⟩ : ∃ later, year = 1969 + later := ⟨year - 1969, by omega⟩
  have fours : 492 ≤ (1969 + later) / 4 := by omega
  have eras : 4 ≤ (1969 + later) / 400 := by omega
  have hundreds : (1969 + later) / 100 ≤ 19 + later := by omega
  omega

/-- The count of days is the calendar's, from 1970 on. -/
theorem utcDaysFromCivil_eq {year month day : Nat} (since : 1970 ≤ year) (range : year ≤ 2106)
    (valid : ValidDate year month day) :
    utcDaysFromCivil year month day + dayNumber 1970 1 1 = dayNumber year month day := by
  obtain ⟨first, last, some, few⟩ := valid
  have short := few.trans (monthLength_le year month)
  rw [dayNumber_1970, dayNumber, daysOfMonths_eq _ first last]
  unfold utcDaysFromCivil
  dsimp only
  rw [eraDays_eq]
  unfold daysTo1970
  by_cases early : month ≤ 2
  · obtain ⟨before, rfl⟩ : ∃ before, year = before + 1 := ⟨year - 1, by omega⟩
    rw [if_pos early, if_pos early, if_neg (by omega), daysBeforeYear_succ, Nat.add_sub_cancel]
    have since := leapDays_ge (Nat.le_of_lt_succ since)
    have range : 365 * before + before / 4 + before / 400 - before / 100 ≤ 769000 := by omega
    have months : (153 * (month + 9) + 2) / 5 = 306 + 31 * (month - 1) := by
      interval_cases month <;> rfl
    generalize 365 * before + before / 4 + before / 400 - before / 100 = days at *
    rw [months, Nat.mod_eq_of_lt]
    · omega
    · omega
  · rw [if_neg early, if_neg early, if_pos (by omega), Nat.sub_zero]
    have year_ := daysBeforeYear_next year
    have since := leapDays_ge (Nat.le_of_succ_le since)
    have range : 365 * year + year / 4 + year / 400 - year / 100 ≤ 769300 := by omega
    generalize 365 * year + year / 4 + year / 400 - year / 100 = days at *
    have months : (153 * (month - 3) + 2) / 5 ≤ 306 := by
      interval_cases month <;> decide
    rw [yearLength_eq] at year_
    rw [Nat.mod_eq_of_lt (by omega)]
    split at year_
    · next leap =>
      rw [if_pos leap]
      omega
    · next common =>
      rw [if_neg common]
      omega
theorem daysInMonth_eq {year month : Nat} (first : 1 ≤ month) (last : month ≤ 12) :
    daysInMonth year month = monthLength year month := by
  by_cases leap : LeapYear year
  · have same : (year % 4 = 0 ∧ year % 100 ≠ 0) ∨ year % 400 = 0 := leap
    interval_cases month <;> simp [daysInMonth, monthLength, leap, same]
  · have same : ¬((year % 4 = 0 ∧ year % 100 ≠ 0) ∨ year % 400 = 0) := leap
    interval_cases month <;> simp [daysInMonth, monthLength, leap, same]

/-- What is accepted is a date of the calendar, and a time of day with a second of at
most 60. -/
theorem utcCivilIsValid_date {civil : UtcCivil} (valid : utcCivilIsValid civil = true) :
    ValidDate civil.year civil.month civil.day ∧ 1970 ≤ civil.year ∧ civil.year ≤ 2106 ∧
      civil.hour ≤ 23 ∧ civil.minute ≤ 59 ∧ civil.second ≤ 60 := by
  unfold utcCivilIsValid at valid
  split at valid
  · exact absurd valid Bool.false_ne_true
  · next fits =>
      simp only [utcLastYear, not_or, not_lt] at fits
      obtain ⟨since, range, first, last, firstDay, lastDay, hour, minute, second⟩ := fits
      exact ⟨⟨first, last, firstDay, daysInMonth_eq first last ▸ lastDay⟩, since, range, hour, minute,
        second⟩

/-- The seconds of a date and time since 1970 by the calendar, 60 held as 59. -/
def unixSeconds (civil : UtcCivil) : Nat :=
  (dayNumber civil.year civil.month civil.day - dayNumber 1970 1 1) * utcSecondsPerDay +
    civil.hour * 3600 + civil.minute * 60 + min civil.second 59

theorem dayNumber_le {year month day : Nat} (range : year ≤ 2105)
    (valid : ValidDate year month day) : dayNumber year month day ≤ 719528 + 49700 := by
  obtain ⟨first, last, _, few⟩ := valid
  have short := few.trans (monthLength_le year month)
  have years : daysBeforeYear year ≤ 768850 := by
    rcases Nat.eq_zero_or_pos year with rfl | some
    · exact Nat.zero_le _
    · obtain ⟨before, rfl⟩ : ∃ before, year = before + 1 := ⟨year - 1, by omega⟩
      rw [daysBeforeYear_succ]
      omega
  have months : daysOfMonths year (month - 1) ≤ 335 := by
    rw [daysOfMonths_eq year first last]
    by_cases leap : LeapYear year <;> interval_cases month <;> simp [leap]
  rw [dayNumber]
  omega

/-- A moment before 2106 and not in 1970 has seconds before it and after it. -/
theorem unixSeconds_range {civil : UtcCivil} (valid : utcCivilIsValid civil = true)
    (since : 2020 ≤ civil.year) (range : civil.year < utcLastYear) :
    1 ≤ unixSeconds civil ∧ unixSeconds civil + 2 < 2 ^ 32 := by
  obtain ⟨date, _, until_, hour, minute, _⟩ := utcCivilIsValid_date valid
  have few := dayNumber_le (Nat.le_of_lt_succ range) date
  have short : min civil.second 59 ≤ 59 := Nat.min_le_right _ _
  have many : 719529 ≤ dayNumber civil.year civil.month civil.day := by
    obtain ⟨before, later⟩ : ∃ before, civil.year = before + 1 := ⟨civil.year - 1, by omega⟩
    have years := leapDays_ge (by omega : 1969 ≤ before)
    rw [dayNumber, later, daysBeforeYear_succ]
    omega
  rw [unixSeconds, dayNumber_1970]
  unfold utcSecondsPerDay
  omega

theorem toNat_utcFromCivil {civil : UtcCivil} (valid : utcCivilIsValid civil = true)
    (range : civil.year < utcLastYear) : (utcFromCivil civil).toNat = unixSeconds civil := by
  obtain ⟨date, since, until_, hour, minute, _⟩ := utcCivilIsValid_date valid
  have days := utcDaysFromCivil_eq since until_ date
  have few := dayNumber_le (Nat.le_of_lt_succ range) date
  rw [dayNumber_1970] at days
  have second : (if 59 < civil.second then 59 else civil.second) = min civil.second 59 := by
    rw [Nat.min_def]
    split <;> split <;> omega
  have short : min civil.second 59 ≤ 59 := Nat.min_le_right _ _
  rw [utcFromCivil, unixSeconds, dayNumber_1970, second, BitVec.toNat_ofNat, Nat.mod_eq_of_lt]
  · rw [show utcDaysFromCivil civil.year civil.month civil.day =
      dayNumber civil.year civil.month civil.day - 719528 from by omega]
  · unfold utcSecondsPerDay
    omega

/-! ## The last day -/

/-- The first day of the month the count of seconds ends in. -/
theorem monthStart_last : monthStart (monthIndex utcLastYear 2) = 719528 + 49704 := by
  obtain ⟨year, month⟩ := monthIndex_parts utcLastYear (by decide : 2 ≤ 12)
  have years : daysBeforeYear utcLastYear =
      366 + (365 * 2105 + 2105 / 4 + 2105 / 400 - 2105 / 100) := daysBeforeYear_succ 2105
  have months : daysOfMonths utcLastYear (2 - 1) = 31 := rfl
  rw [monthStart, year, month]
  omega

/-- Before the last month the days are few enough, and after it too many. -/
theorem dayNumber_last {year month day : Nat} (valid : ValidDate year month day) :
    (monthIndex year month < monthIndex utcLastYear 2 →
        dayNumber year month day < 719528 + 49704) ∧
      (monthIndex year month = monthIndex utcLastYear 2 →
        dayNumber year month day = 719528 + 49704 + (day - 1)) ∧
      (monthIndex utcLastYear 2 < monthIndex year month →
        719528 + 49732 ≤ dayNumber year month day) := by
  obtain ⟨first, last, firstDay, lastDay⟩ := valid
  rw [dayNumber_eq year last day]
  refine ⟨fun earlier => ?_, fun same => ?_, fun later => ?_⟩
  · have starts := monthStart_add_le earlier
    rw [lengthAt_monthIndex year first last, monthStart_last] at starts
    omega
  · rw [same, monthStart_last]
  · have starts := monthStart_add_le later
    rw [monthStart_last, lengthAt_monthIndex _ (by decide) (by decide)] at starts
    exact le_trans starts (Nat.le_add_right _ _)

/-- The dates and times counted in 32 bits: from 1970 on, seconds to 59. -/
structure UtcCivil.Counted (civil : UtcCivil) : Prop where
  date : ValidDate civil.year civil.month civil.day
  since : 1970 ≤ civil.year
  hour : civil.hour ≤ 23
  minute : civil.minute ≤ 59
  second : civil.second ≤ 59
  few : unixSeconds civil < 2 ^ 32

/-- The seconds since 1970 of a date, whether 32 bits hold them. -/
theorem unixSeconds_lt_iff {civil : UtcCivil}
    (date : ValidDate civil.year civil.month civil.day) (since : 1970 ≤ civil.year)
    (hour : civil.hour ≤ 23) (minute : civil.minute ≤ 59) (second : civil.second ≤ 59) :
    unixSeconds civil < 2 ^ 32 ↔
      civil.year < utcLastYear ∨ civil.year = utcLastYear ∧
        (civil.month = 1 ∨ civil.month = 2 ∧ (civil.day < 7 ∨ civil.day = 7 ∧
          civil.hour * 3600 + civil.minute * 60 + civil.second ≤ lastSecondOfLastDay)) := by
  obtain ⟨earlier, same, later⟩ := dayNumber_last date
  obtain ⟨first, last, firstDay, -⟩ := date
  have fits : unixSeconds civil < 2 ^ 32 ↔
      dayNumber civil.year civil.month civil.day < 719528 + 49710 ∨
        dayNumber civil.year civil.month civil.day = 719528 + 49710 ∧
          civil.hour * 3600 + civil.minute * 60 + civil.second ≤ lastSecondOfLastDay := by
    rw [unixSeconds, dayNumber_1970, Nat.min_eq_left second, utcSecondsPerDay,
      lastSecondOfLastDay]
    omega
  have lastMonth : monthIndex utcLastYear 2 = 12 * 2106 + 1 := by decide
  rw [lastMonth, monthIndex] at earlier same later
  rw [fits, utcLastYear]
  rcases lt_trichotomy (12 * civil.year + (civil.month - 1)) (12 * 2106 + 1) with before | at_ | after
  · have few := earlier before
    omega
  · have days := same at_
    omega
  · have many := later after
    omega

/-- What is accepted with a second below 60 is what 32 bits count. -/
theorem utcCivilIsValid_iff {civil : UtcCivil} (common : civil.second ≤ 59) :
    utcCivilIsValid civil = true ↔ civil.Counted := by
  constructor
  · intro valid
    obtain ⟨date, since, range, hour, minute, -⟩ := utcCivilIsValid_date valid
    refine ⟨date, since, hour, minute, common, ?_⟩
    rw [unixSeconds_lt_iff date since hour minute common]
    unfold utcCivilIsValid at valid
    split at valid
    · exact absurd valid Bool.false_ne_true
    · split at valid
      · omega
      · have onLastDay := of_decide_eq_true valid
        rw [utcLastYear] at *
        omega
  · intro counted
    obtain ⟨date, since, hour, minute, -, few⟩ := counted
    rw [unixSeconds_lt_iff date since hour minute common] at few
    obtain ⟨first, last, firstDay, lastDay⟩ := date
    rw [← daysInMonth_eq first last] at lastDay
    unfold utcCivilIsValid
    rw [if_neg (by rw [utcLastYear] at *; omega)]
    split
    · rfl
    · rw [utcLastYear] at *
      apply decide_eq_true
      omega

theorem toNat_utcFromCivil_counted {civil : UtcCivil} (counted : civil.Counted) :
    (utcFromCivil civil).toNat = unixSeconds civil := by
  obtain ⟨date, since, hour, minute, second, few⟩ := counted
  have range : civil.year ≤ 2106 := by
    rcases (unixSeconds_lt_iff date since hour minute second).mp few with before | last
    · exact Nat.le_of_lt before
    · exact Nat.le_of_eq last.1
  have days := utcDaysFromCivil_eq since range date
  have kept : (if 59 < civil.second then 59 else civil.second) = min civil.second 59 := by
    rw [if_neg (Nat.not_lt.mpr second), Nat.min_eq_left second]
  have counts : dayNumber civil.year civil.month civil.day - dayNumber 1970 1 1 =
      utcDaysFromCivil civil.year civil.month civil.day := by
    rw [← days, Nat.add_sub_cancel]
  rw [unixSeconds, counts] at few ⊢
  rw [utcFromCivil, kept, BitVec.toNat_ofNat, Nat.mod_eq_of_lt few]

/-! ## From a count of days -/

/-- The days of an era's years before one of them, counted from March. -/
def marchDays (yearOfEra : Nat) : Nat := 365 * yearOfEra + yearOfEra / 4 - yearOfEra / 100

/-- The days of an era less its leap days so far. -/
def commonDays (dayOfEra : Nat) : Nat :=
  dayOfEra - dayOfEra / 1460 + dayOfEra / 36524 - dayOfEra / 146096

theorem commonDays_mono {earlier later : Nat} (le : earlier ≤ later) :
    commonDays earlier ≤ commonDays later := by
  refine monotone_nat_of_le_succ (fun day => ?_) le
  rw [commonDays, commonDays]
  omega

/-- A year of the era starts and ends in its own 365 common days. -/
theorem commonDays_year :
    ∀ year < 400, 365 * year ≤ commonDays (marchDays year) ∧
      commonDays (marchDays (year + 1) - 1) < 365 * (year + 1) := by
  decide +kernel

/-- The year a day of the era lies in: the last has the leap day that ends the era. -/
theorem yearOfEra_spec {dayOfEra : Nat} (short : dayOfEra < daysPerEra) :
    commonDays dayOfEra / 365 < 400 ∧ marchDays (commonDays dayOfEra / 365) ≤ dayOfEra ∧
      (dayOfEra < marchDays (commonDays dayOfEra / 365 + 1) ∨
        commonDays dayOfEra / 365 = 399 ∧ dayOfEra = 146096) := by
  have last : commonDays dayOfEra ≤ commonDays 146096 := commonDays_mono (Nat.le_of_lt_succ short)
  have few : commonDays dayOfEra / 365 < 400 := by
    apply (Nat.div_lt_iff_lt_mul (by decide)).mpr
    exact lt_of_le_of_lt last (by decide)
  have low := Nat.div_mul_le_self (commonDays dayOfEra) 365
  have high := @Nat.lt_div_mul_add (commonDays dayOfEra) 365 (by decide)
  generalize commonDays dayOfEra / 365 = year at *
  refine ⟨few, ?_, ?_⟩
  · by_contra before
    rcases Nat.eq_zero_or_pos year with rfl | some
    · exact before (Nat.zero_le _)
    · obtain ⟨earlier, rfl⟩ : ∃ earlier, year = earlier + 1 := ⟨year - 1, by omega⟩
      have ends := (commonDays_year earlier (by omega)).2
      have le := commonDays_mono (by omega : dayOfEra ≤ marchDays (earlier + 1) - 1)
      omega
  · rcases Nat.lt_or_ge (year + 1) 400 with next | end_
    · left
      by_contra after
      have starts := (commonDays_year (year + 1) next).1
      have le := commonDays_mono (Nat.le_of_not_lt after)
      omega
    · obtain rfl : year = 399 := by omega
      rcases Nat.lt_or_ge dayOfEra 146096 with inside | leapDay
      · exact .inl inside
      · exact .inr ⟨rfl, Nat.le_antisymm (Nat.le_of_lt_succ short) leapDay⟩

/-- A day of the year, counted from March, in its month. -/
theorem marchMonth_spec {year dayOfYear : Nat} (short : dayOfYear ≤ 365)
    (leap : dayOfYear = 365 → LeapYear (year + 1)) :
    let index := (5 * dayOfYear + 2) / 153
    let month := if index < 10 then index + 3 else index - 9
    (153 * index + 2) / 5 ≤ dayOfYear ∧
      ValidDate (year + if month ≤ 2 then 1 else 0) month (dayOfYear - (153 * index + 2) / 5 + 1) := by
  dsimp only
  have reached : (5 * dayOfYear + 2) / 153 ≤ 11 := by omega
  have low : 153 * ((5 * dayOfYear + 2) / 153) ≤ 5 * dayOfYear + 2 := by omega
  have high : 5 * dayOfYear + 2 < 153 * ((5 * dayOfYear + 2) / 153) + 153 := by omega
  generalize (5 * dayOfYear + 2) / 153 = index at *
  refine ⟨by omega, ?_⟩
  have months : ∀ index < 11,
      let month := if index < 10 then index + 3 else index - 9
      (1 ≤ month ∧ month ≤ 12) ∧
        ∀ year, (153 * (index + 1) + 2) / 5 - (153 * index + 2) / 5 ≤ monthLength year month := by
    intro index few
    interval_cases index <;> exact ⟨by decide, fun _ => by simp [monthLength]⟩
  by_cases february : index = 11
  · subst february
    refine ⟨by decide, by decide, Nat.succ_pos _, ?_⟩
    change dayOfYear - 337 + 1 ≤ if LeapYear (year + 1) then 29 else 28
    split
    · omega
    · rename_i common
      have other : dayOfYear ≠ 365 := fun same => common (leap same)
      omega
  · obtain ⟨⟨first, last⟩, lengths⟩ := months index (Nat.lt_of_le_of_ne reached february)
    refine ⟨first, last, Nat.succ_pos _, le_trans ?_ (lengths _)⟩
    omega

/-- A count of days gives a date that exists, and is its own count again. -/
theorem utcCivilFromDays_spec {days : Nat} (few : days < 2 ^ 16) :
    let civil := utcCivilFromDays days
    ValidDate civil.year civil.month civil.day ∧ 1970 ≤ civil.year ∧
      (days ≤ 49710 → civil.year ≤ 2106) ∧
      utcDaysFromCivil civil.year civil.month civil.day = days := by
  have short : days + daysTo1970 - (days + daysTo1970) / daysPerEra * daysPerEra < daysPerEra := by
    rw [Nat.mul_comm, ← Nat.mod_eq_sub_mul_div]
    exact Nat.mod_lt _ (by decide)
  have whole := Nat.div_mul_le_self (days + daysTo1970) daysPerEra
  have eraMost : (days + daysTo1970) / daysPerEra ≤ 5 := by
    apply Nat.le_of_lt_succ
    apply (Nat.div_lt_iff_lt_mul (by decide)).mpr
    rw [daysTo1970, daysPerEra]
    omega
  have eraLeast : 4 ≤ (days + daysTo1970) / daysPerEra := by
    apply (Nat.le_div_iff_mul_le (by decide)).mpr
    rw [daysTo1970, daysPerEra]
    omega
  obtain ⟨yearFew, starts, ends⟩ := yearOfEra_spec short
  rw [utcCivilFromDays]
  dsimp only
  generalize (days + daysTo1970) / daysPerEra = era at *
  generalize counted : days + daysTo1970 - era * daysPerEra = dayOfEra at *
  change commonDays dayOfEra / 365 < 400 at yearFew
  have yearEq : (dayOfEra - dayOfEra / 1460 + dayOfEra / 36524 - dayOfEra / 146096) / 365 =
      commonDays dayOfEra / 365 := rfl
  rw [yearEq]
  generalize commonDays dayOfEra / 365 = year at *
  rw [marchDays] at starts ends
  have dayOfYearMost : dayOfEra - (365 * year + year / 4 - year / 100) ≤ 365 := by omega
  clear yearEq
  have leap : dayOfEra - (365 * year + year / 4 - year / 100) = 365 →
      LeapYear (year + era * 400 + 1) := by
    intro long
    rcases ends with within | ⟨rfl, -⟩
    · have fours : (year + 1) % 4 = 0 := by omega
      have hundreds : (year + 1) % 100 ≠ 0 := by omega
      refine .inl ⟨?_, ?_⟩
      · rw [Nat.add_right_comm, ← fours, show era * 400 = 4 * (era * 100) by ring,
          Nat.add_mul_mod_self_left]
      · rwa [Nat.add_right_comm, show era * 400 = 100 * (era * 4) by ring,
          Nat.add_mul_mod_self_left]
    · refine .inr ?_
      rw [Nat.add_right_comm, Nat.add_mul_mod_self_right]
  obtain ⟨monthStarts, valid⟩ := marchMonth_spec dayOfYearMost leap
  clear ends leap
  have inYear : year * 365 + year / 4 - year / 100 +
      (dayOfEra - (365 * year + year / 4 - year / 100)) = dayOfEra := by
    rw [Nat.mul_comm year]
    exact Nat.add_sub_cancel' starts
  generalize dayOfEra - (365 * year + year / 4 - year / 100) = dayOfYear at *
  have indexMost : (5 * dayOfYear + 2) / 153 ≤ 11 := by omega
  have since : 1970 ≤ year + era * 400 +
      if (if (5 * dayOfYear + 2) / 153 < 10 then (5 * dayOfYear + 2) / 153 + 3
        else (5 * dayOfYear + 2) / 153 - 9) ≤ 2 then 1 else 0 := by
    rw [daysTo1970, daysPerEra] at counted whole
    by_cases spring : (5 * dayOfYear + 2) / 153 < 10
    · rw [if_pos spring, if_neg (by omega)]
      by_contra early
      obtain rfl : era = 4 := by omega
      have few : year ≤ 369 := by omega
      rcases Nat.lt_or_eq_of_le few with fewer | rfl
      · omega
      · omega
    · rw [if_neg spring, if_pos (by omega)]
      omega
  have range : days ≤ 49710 → year + era * 400 +
      (if (if (5 * dayOfYear + 2) / 153 < 10 then (5 * dayOfYear + 2) / 153 + 3
        else (5 * dayOfYear + 2) / 153 - 9) ≤ 2 then 1 else 0) ≤ 2106 := by
    intro representable
    rw [daysTo1970, daysPerEra] at counted whole
    have one : ∀ month : Nat, (if month ≤ 2 then 1 else 0) ≤ 1 := by
      intro month
      split
      · exact le_rfl
      · exact Nat.zero_le 1
    refine le_trans (Nat.add_le_add_left (one _) _) ?_
    clear valid since monthStarts
    omega
  generalize (5 * dayOfYear + 2) / 153 = index at *
  refine ⟨valid, since, range, ?_⟩
  rw [utcDaysFromCivil]
  have march : year + era * 400 + (if (if index < 10 then index + 3 else index - 9) ≤ 2 then 1
      else 0) - (if (if index < 10 then index + 3 else index - 9) ≤ 2 then 1 else 0) =
      year + era * 400 := Nat.add_sub_cancel ..
  have eras : (year + era * 400) / 400 = era := by omega
  have months : (if 2 < (if index < 10 then index + 3 else index - 9) then
      (if index < 10 then index + 3 else index - 9) - 3
      else (if index < 10 then index + 3 else index - 9) + 9) = index := by
    by_cases spring : index < 10
    · rw [if_pos spring, if_pos (by omega), Nat.add_sub_cancel]
    · rw [if_neg spring, if_neg (by omega), Nat.sub_add_cancel (by omega)]
  have dayOf : (153 * index + 2) / 5 + (dayOfYear - (153 * index + 2) / 5 + 1) - 1 = dayOfYear := by
    omega
  rw [march, eras, months, Nat.add_sub_cancel, dayOf, inYear, ← counted,
    Nat.add_sub_cancel' whole, Nat.add_sub_cancel, Nat.mod_eq_of_lt few]

/-- A count of seconds gives a date and a time of day that exist, and is its own count
again. -/
theorem utcToCivil_spec (utcSeconds : BitVec 32) :
    let civil := utcToCivil utcSeconds false
    ValidDate civil.year civil.month civil.day ∧ 1970 ≤ civil.year ∧ civil.year ≤ 2106 ∧
      civil.hour ≤ 23 ∧ civil.minute ≤ 59 ∧ civil.second ≤ 59 ∧
      utcDaysFromCivil civil.year civil.month civil.day = utcSeconds.toNat / utcSecondsPerDay ∧
      civil.hour * 3600 + civil.minute * 60 + civil.second =
        utcSeconds.toNat % utcSecondsPerDay := by
  have range := utcSeconds.isLt
  have representable : utcSeconds.toNat / utcSecondsPerDay ≤ 49710 := by
    apply Nat.le_of_lt_succ
    apply (Nat.div_lt_iff_lt_mul (by decide)).mpr
    exact range.trans (by decide)
  obtain ⟨valid, since, until_, days⟩ :=
    utcCivilFromDays_spec (lt_of_le_of_lt representable (by decide))
  have second : utcSeconds.toNat % utcSecondsPerDay < utcSecondsPerDay := Nat.mod_lt _ (by decide)
  refine ⟨valid, since, until_ representable, ?_, ?_, ?_, days, ?_⟩
  all_goals
    rw [utcToCivil]
    dsimp only
    generalize utcSeconds.toNat % utcSecondsPerDay = ofDay at *
    change ofDay < 86400 at second
  · omega
  · omega
  · rw [if_neg Bool.false_ne_true]
    omega
  · rw [if_neg Bool.false_ne_true]
    omega

/-- The date and time of a count of seconds is one 32 bits count. -/
theorem counted_utcToCivil (utcSeconds : BitVec 32) :
    (utcToCivil utcSeconds false).Counted ∧
      unixSeconds (utcToCivil utcSeconds false) = utcSeconds.toNat := by
  obtain ⟨date, since, range, hour, minute, second, days, ofDay⟩ := utcToCivil_spec utcSeconds
  have counts := utcDaysFromCivil_eq since range date
  have seconds : unixSeconds (utcToCivil utcSeconds false) = utcSeconds.toNat := by
    rw [unixSeconds, ← counts, Nat.add_sub_cancel, Nat.min_eq_left second, days, Nat.add_assoc,
      Nat.add_assoc, ← Nat.add_assoc (_ * 3600), ofDay]
    exact Nat.div_add_mod' _ _
  exact ⟨⟨date, since, hour, minute, second, seconds ▸ utcSeconds.isLt⟩, seconds⟩

theorem utcFromCivil_utcToCivil (utcSeconds : BitVec 32) :
    utcFromCivil (utcToCivil utcSeconds false) = utcSeconds := by
  obtain ⟨counted, seconds⟩ := counted_utcToCivil utcSeconds
  exact BitVec.eq_of_toNat_eq ((toNat_utcFromCivil_counted counted).trans seconds)

end GpsClock.Platform
