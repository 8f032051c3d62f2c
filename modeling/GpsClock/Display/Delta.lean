import GpsClock.Display.Modes
import GpsClock.Lib.Wrapping

/-! # The delta's whole months

`render_delta` counts calendar months from the earlier of two moments. They are the most
that can be added to it, a day that does not exist taken as its month's last, without
passing the later one, unless the later moment is on the last day of a month that the
earlier one's day does not exist in, at its time of day or after
(`GpsClock.Display.counts_months_iff`): that day is taken as before the earlier one's.
Neither way do the figures step back.
-/

namespace GpsClock.Display

open Calendar GpsClock.Platform

/-- The seconds of a moment's own day. -/
def secondOfDay (civil : UtcCivil) : Nat :=
  civil.hour * 3600 + civil.minute * 60 + civil.second

/-- A moment's month, counted from January of year 0. -/
def monthOf (civil : UtcCivil) : Nat :=
  monthIndex civil.year civil.month

/-- The seconds, from the first of year 0, of a moment advanced by calendar months: the day
that does not exist is the month's last. -/
def advanced (civil : UtcCivil) (months : Nat) : Nat :=
  (monthStart (monthOf civil + months) + (min civil.day (lengthAt (monthOf civil + months)) - 1)) *
      utcSecondsPerDay + secondOfDay civil

/-- The seconds from the first of year 0 to 1970. -/
def secondsTo1970 : Nat := 719528 * utcSecondsPerDay

/-- The months `render_delta` counts. -/
def deltaMonths (first last : BitVec 32) : Nat :=
  wholeMonths (utcToCivil first false) (utcToCivil last false)

/-- The rest it shows. -/
def deltaRest (first last : BitVec 32) : Nat :=
  (last - utcFromCivil (monthsOn (utcToCivil first false) (deltaMonths first last))).toNat

/-- `render_delta` draws these, from the earlier moment to the later. -/
theorem renderDelta_eq (settings : DisplaySettings) (view : DisplayView) (frame : TubesFrame) :
    renderDelta settings view frame =
      let now := if settings.deltaLocal then view.utcSeconds + view.zone.offsetS else view.utcSeconds
      let future := now < settings.deltaEpoch
      let first := if future then now else settings.deltaEpoch
      let last := if future then settings.deltaEpoch else now
      let months := deltaMonths first last
      let figures := deltaFigures months (deltaRest first last)
      let drawn := blink view
        (if 1200 ≤ months then frameNumberBlanked frame 0 4 (months / 12)
          else pair figures.1 figures.2 frame) false
      if future then drawn.light tubesStartLine else drawn :=
  rfl

/-- The months are the most that do not pass the later moment, and the rest what is left to
it. -/
structure CountsMonths (first last : BitVec 32) : Prop where
  reached : advanced (utcToCivil first false) (deltaMonths first last) ≤ last.toNat + secondsTo1970
  most : ∀ months, advanced (utcToCivil first false) months ≤ last.toNat + secondsTo1970 →
    months ≤ deltaMonths first last
  rest : deltaRest first last + advanced (utcToCivil first false) (deltaMonths first last) =
    last.toNat + secondsTo1970

/-- The later moment is on the last day of a month that the earlier one's day does not exist
in, at its time of day or after. -/
def OnClampedDay (a b : UtcCivil) : Prop :=
  daysInMonth b.year b.month < a.day ∧ b.day = daysInMonth b.year b.month ∧
    secondOfDay a ≤ secondOfDay b

instance (a b : UtcCivil) : Decidable (OnClampedDay a b) :=
  inferInstanceAs (Decidable (_ ∧ _))

theorem daysInMonth_eq {year month : Nat} (first : 1 ≤ month) (last : month ≤ 12) :
    daysInMonth year month = monthLength year month := by
  by_cases leap : LeapYear year
  · have same : month = 2 ∧ year % 4 = 0 ∧ (year % 100 ≠ 0 ∨ year % 400 = 0) ↔ month = 2 := by
      refine ⟨And.left, fun february => ⟨february, ?_⟩⟩
      rcases leap with ⟨fours, hundreds⟩ | eras
      · exact ⟨fours, .inl hundreds⟩
      · exact ⟨by omega, .inr eras⟩
    rw [daysInMonth]
    simp only [same]
    interval_cases month <;> simp [monthLength, leap]
  · have other : ¬(month = 2 ∧ year % 4 = 0 ∧ (year % 100 ≠ 0 ∨ year % 400 = 0)) := by
      rintro ⟨-, fours, hundreds | eras⟩
      · exact leap (.inl ⟨fours, hundreds⟩)
      · exact leap (.inr eras)
    rw [daysInMonth, if_neg other]
    interval_cases month <;> simp [monthLength, leap]

/-! ## Moments of the calendar -/

/-- A date and a time of day that exist. -/
structure Exists (civil : UtcCivil) : Prop where
  date : ValidDate civil.year civil.month civil.day
  hour : civil.hour ≤ 23
  minute : civil.minute ≤ 59
  second : civil.second ≤ 59

/-- Its seconds from the first of year 0. -/
def secondsOf (civil : UtcCivil) : Nat :=
  (monthStart (monthOf civil) + (civil.day - 1)) * utcSecondsPerDay + secondOfDay civil

namespace Exists

variable {a b civil : UtcCivil}

theorem ofDay (real : Exists civil) : secondOfDay civil < utcSecondsPerDay := by
  have hour := real.hour
  have minute := real.minute
  have second := real.second
  rw [secondOfDay, utcSecondsPerDay]
  omega

theorem day_le (real : Exists civil) : civil.day ≤ lengthAt (monthOf civil) := by
  rw [monthOf, lengthAt_monthIndex _ real.date.firstMonth real.date.lastMonth]
  exact real.date.lastDay

theorem daysInMonth_eq (real : Exists civil) :
    daysInMonth civil.year civil.month = lengthAt (monthOf civil) := by
  rw [Display.daysInMonth_eq real.date.firstMonth real.date.lastMonth, monthOf,
    lengthAt_monthIndex _ real.date.firstMonth real.date.lastMonth]

/-- A moment is its own, no months on. -/
theorem advanced_zero (real : Exists civil) : advanced civil 0 = secondsOf civil := by
  rw [advanced, secondsOf, Nat.add_zero, Nat.min_eq_left real.day_le]

end Exists

/-- Moments are ordered by their days, and within a day by its seconds. -/
theorem seconds_le_iff {day other second otherSecond : Nat} (small : second < utcSecondsPerDay)
    (otherSmall : otherSecond < utcSecondsPerDay) :
    day * utcSecondsPerDay + second ≤ other * utcSecondsPerDay + otherSecond ↔
      day < other ∨ day = other ∧ second ≤ otherSecond := by
  rw [utcSecondsPerDay] at *
  omega

/-- A moment's month and day, from its seconds. -/
theorem advanced_le_iff {a b : UtcCivil} (earlier : Exists a) (later : Exists b) (months : Nat) :
    advanced a months ≤ secondsOf b ↔
      monthOf a + months < monthOf b ∨
        monthOf a + months = monthOf b ∧
          (min a.day (lengthAt (monthOf b)) < b.day ∨
            min a.day (lengthAt (monthOf b)) = b.day ∧ secondOfDay a ≤ secondOfDay b) := by
  have firstDay := earlier.date.firstDay
  have otherDay := later.date.firstDay
  have some := lengthAt_pos (monthOf a + months)
  have within := later.day_le
  rw [advanced, secondsOf, seconds_le_iff earlier.ofDay later.ofDay]
  rcases Nat.lt_trichotomy (monthOf a + months) (monthOf b) with before | same | after
  · have ends := monthStart_add_le before
    refine iff_of_true (.inl ?_) (.inl before)
    omega
  · rw [same] at some ⊢
    constructor
    · rintro (before | ⟨day, second⟩)
      · exact .inr ⟨rfl, .inl (by omega)⟩
      · exact .inr ⟨rfl, .inr ⟨by omega, second⟩⟩
    · rintro (wrong | ⟨-, before | ⟨day, second⟩⟩)
      · exact absurd wrong (Nat.lt_irrefl _)
      · exact .inl (by omega)
      · exact .inr ⟨by omega, second⟩
  · have ends := monthStart_add_le after
    refine iff_of_false ?_ ?_
    · rintro (before | ⟨day, -⟩) <;> omega
    · rintro (before | ⟨same, -⟩) <;> omega

/-- A count of seconds is a moment of the calendar. -/
theorem utcToCivil_exists (utcSeconds : BitVec 32) :
    Exists (utcToCivil utcSeconds false) ∧
      secondsOf (utcToCivil utcSeconds false) = utcSeconds.toNat + secondsTo1970 ∧
      (utcToCivil utcSeconds false).year ≤ 2106 ∧ 1970 ≤ (utcToCivil utcSeconds false).year := by
  obtain ⟨valid, since, until_, hour, minute, second, days, ofDay⟩ := utcToCivil_spec utcSeconds
  have counted := utcDaysFromCivil_eq since until_ valid
  have parts := Nat.div_add_mod utcSeconds.toNat utcSecondsPerDay
  refine ⟨⟨valid, hour, minute, second⟩, ?_, until_, since⟩
  rw [days, dayNumber_1970, dayNumber_eq _ valid.lastMonth] at counted
  rw [secondsOf, secondOfDay, ofDay, monthOf, ← counted, secondsTo1970, Nat.add_mul]
  rw [Nat.mul_comm] at parts
  omega

theorem beforeInMonth_iff {x y : UtcCivil} (first : Exists x) (second : Exists y) :
    beforeInMonth x y = true ↔
      x.day < y.day ∨ x.day = y.day ∧ secondOfDay x < secondOfDay y := by
  obtain ⟨-, hour, minute, seconds⟩ := first
  obtain ⟨-, otherHour, otherMinute, otherSeconds⟩ := second
  rw [beforeInMonth, decide_eq_true_eq, secondOfDay, secondOfDay]
  dsimp only
  omega

/-- The months between two dates. -/
theorem months_between {a b : UtcCivil} (earlier : Exists a) (later : Exists b)
    (onward : monthOf a ≤ monthOf b) :
    (b.year - a.year) * 12 + b.month - a.month = monthOf b - monthOf a := by
  obtain ⟨⟨first, last, -, -⟩, -, -, -⟩ := earlier
  obtain ⟨⟨otherFirst, otherLast, -, -⟩, -, -, -⟩ := later
  rw [monthOf, monthOf, monthIndex, monthIndex] at *
  omega

section Months

variable {a b : UtcCivil}

/-- The months counted: those between the two, less one where the later moment comes before
the earlier in its month. -/
theorem wholeMonths_eq (earlier : Exists a) (later : Exists b) (onward : monthOf a ≤ monthOf b) :
    wholeMonths a b =
      if monthOf a < monthOf b ∧
          (b.day < a.day ∨ b.day = a.day ∧ secondOfDay b < secondOfDay a) then
        monthOf b - monthOf a - 1
      else monthOf b - monthOf a := by
  rw [wholeMonths, months_between earlier later onward]
  simp only [beforeInMonth_iff later earlier, Nat.sub_pos_iff_lt]

/-- The moment so many months on, as the code forms it. -/
theorem monthsOn_spec (earlier : Exists a) (months : Nat) :
    Exists (monthsOn a months) ∧ monthOf (monthsOn a months) = monthOf a + months ∧
      secondsOf (monthsOn a months) = advanced a months := by
  obtain ⟨⟨first, last, firstDay, -⟩, hour, minute, second⟩ := earlier
  have month : (a.month - 1 + months) % 12 < 12 := Nat.mod_lt _ (by decide)
  have onFirst : 1 ≤ (monthsOn a months).month := Nat.succ_pos _
  have onLast : (monthsOn a months).month ≤ 12 := month
  have index : monthOf (monthsOn a months) = monthOf a + months := by
    rw [monthOf, monthOf, monthIndex, monthIndex, monthsOn]
    dsimp only
    omega
  have length : daysInMonth (monthsOn a months).year (monthsOn a months).month =
      lengthAt (monthOf a + months) := by
    rw [← index, monthOf, lengthAt_monthIndex _ onFirst onLast]
    exact daysInMonth_eq onFirst onLast
  have day : (monthsOn a months).day = min a.day (lengthAt (monthOf a + months)) := by
    rw [← length, monthsOn]
    dsimp only
    split
    · rename_i short
      exact (Nat.min_eq_right short.le).symm
    · rename_i long
      exact (Nat.min_eq_left (Nat.le_of_not_lt long)).symm
  have some := lengthAt_pos (monthOf a + months)
  refine ⟨⟨⟨Nat.succ_pos _, month, ?_, ?_⟩, hour, minute, second⟩, index, ?_⟩
  · rw [day]
    omega
  · rw [day, ← daysInMonth_eq onFirst onLast, length]
    exact Nat.min_le_right _ _
  · rw [secondsOf, advanced, index, day]
    rfl

/-- Every month counted is reached by the later moment. -/
theorem wholeMonths_reached (earlier : Exists a) (later : Exists b)
    (onward : secondsOf a ≤ secondsOf b) :
    monthOf a ≤ monthOf b ∧ advanced a (wholeMonths a b) ≤ secondsOf b := by
  have start := onward
  rw [← earlier.advanced_zero] at start
  have order := (advanced_le_iff earlier later 0).mp start
  have months : monthOf a ≤ monthOf b := by
    rcases order with before | ⟨same, -⟩
    · exact before.le
    · exact same.le
  refine ⟨months, (advanced_le_iff earlier later _).mpr ?_⟩
  rw [wholeMonths_eq earlier later months]
  split
  · rename_i short
    exact .inl (by omega)
  · rename_i whole
    refine .inr ⟨Nat.add_sub_cancel' months, ?_⟩
    rcases Nat.lt_or_eq_of_le months with before | same
    · have reached : ¬(b.day < a.day ∨ b.day = a.day ∧ secondOfDay b < secondOfDay a) :=
        fun wrong => whole ⟨before, wrong⟩
      push Not at reached
      obtain ⟨day, second⟩ := reached
      have clamped := Nat.min_le_left a.day (lengthAt (monthOf b))
      rcases Nat.lt_or_eq_of_le (clamped.trans day) with sooner | equal
      · exact .inl sooner
      · exact .inr ⟨equal, second (Nat.le_antisymm (equal.ge.trans clamped) day)⟩
    · rcases order with wrong | ⟨-, reached⟩
      · exact absurd same.ge (Nat.not_le.mpr wrong)
      · exact reached

/-- They are the most, but where the later moment is on a clamped day. -/
theorem wholeMonths_most_iff (earlier : Exists a) (later : Exists b)
    (onward : secondsOf a ≤ secondsOf b) :
    (∀ months, advanced a months ≤ secondsOf b → months ≤ wholeMonths a b) ↔
      ¬OnClampedDay a b := by
  obtain ⟨months, -⟩ := wholeMonths_reached earlier later onward
  have within := earlier.day_le
  have ends := later.day_le
  simp only [advanced_le_iff earlier later]
  rw [wholeMonths_eq earlier later months, OnClampedDay, later.daysInMonth_eq]
  constructor
  · rintro most ⟨short, day, second⟩
    have between : monthOf a < monthOf b := by
      apply lt_of_le_of_ne months
      intro same
      rw [same] at within
      exact absurd within (Nat.not_le.mpr short)
    have reached := most (monthOf b - monthOf a) (.inr ⟨Nat.add_sub_cancel' months,
      .inr ⟨by rw [day]; exact Nat.min_eq_right short.le, second⟩⟩)
    rw [if_pos ⟨between, .inl (by rw [day]; exact short)⟩] at reached
    omega
  · intro other count
    rintro (before | ⟨same, reached⟩)
    · split <;> omega
    · rw [if_neg]
      · omega
      · rintro ⟨-, early⟩
        apply other
        rcases Nat.lt_or_ge (lengthAt (monthOf b)) a.day with short | long
        · rw [Nat.min_eq_right short.le] at reached
          rcases reached with wrong | ⟨day, second⟩
          · exact absurd ends (Nat.not_le.mpr wrong)
          · exact ⟨short, day.symm, second⟩
        · rw [Nat.min_eq_left long] at reached
          omega

/-- As the later moment goes on, no month is taken back. -/
theorem wholeMonths_mono {c : UtcCivil} (earlier : Exists a) (later : Exists b) (last : Exists c)
    (onward : secondsOf a ≤ secondsOf b) (further : secondsOf b ≤ secondsOf c) :
    wholeMonths a b ≤ wholeMonths a c := by
  obtain ⟨months, -⟩ := wholeMonths_reached earlier later onward
  obtain ⟨more, -⟩ := wholeMonths_reached later last further
  rw [wholeMonths_eq earlier later months, wholeMonths_eq earlier last (months.trans more)]
  rcases Nat.lt_or_eq_of_le more with before | same
  · split <;> split <;> omega
  · have order := further
    rw [secondsOf, secondsOf, same, seconds_le_iff later.ofDay last.ofDay] at order
    have firstDay := later.date.firstDay
    have otherDay := last.date.firstDay
    rw [same]
    split
    · split <;> omega
    · rename_i whole
      rw [if_neg]
      rintro ⟨between, early⟩
      exact whole ⟨between, by omega⟩

end Months

/-- The rest shown is what is left from the moment the months reach. -/
theorem deltaRest_eq {first last : BitVec 32} (onward : first.toNat ≤ last.toNat) :
    deltaRest first last + advanced (utcToCivil first false) (deltaMonths first last) =
      last.toNat + secondsTo1970 := by
  obtain ⟨earlier, start, -, since⟩ := utcToCivil_exists first
  obtain ⟨later, end_, until_, -⟩ := utcToCivil_exists last
  obtain ⟨-, reached⟩ := wholeMonths_reached earlier later (by rw [start, end_]; omega)
  obtain ⟨anchor, month, seconds⟩ :=
    monthsOn_spec earlier (wholeMonths (utcToCivil first false) (utcToCivil last false))
  rw [deltaRest, deltaMonths]
  rw [← seconds] at reached ⊢
  have index : monthOf (utcToCivil first false) ≤ monthOf
      (monthsOn (utcToCivil first false)
        (wholeMonths (utcToCivil first false) (utcToCivil last false))) := by
    rw [month]
    exact Nat.le_add_right _ _
  generalize monthsOn (utcToCivil first false)
    (wholeMonths (utcToCivil first false) (utcToCivil last false)) = civil at *
  obtain ⟨before, -⟩ := wholeMonths_reached anchor later reached
  have range : 1970 ≤ civil.year ∧ civil.year ≤ 2106 := by
    have lastMonth := later.date.lastMonth
    have firstMonth := anchor.date.firstMonth
    have otherMonth := anchor.date.lastMonth
    rw [monthOf, monthOf, monthIndex, monthIndex] at before index
    omega
  have days := utcDaysFromCivil_eq range.1 range.2 anchor.date
  rw [dayNumber_1970, dayNumber_eq _ anchor.date.lastMonth] at days
  have total : utcDaysFromCivil civil.year civil.month civil.day * utcSecondsPerDay +
      secondOfDay civil + secondsTo1970 = secondsOf civil := by
    rw [secondsOf, monthOf, ← days, secondsTo1970]
    ring
  have second : (if 59 < civil.second then 59 else civil.second) = civil.second :=
    if_neg (Nat.not_lt.mpr anchor.second)
  have formed : utcFromCivil civil =
      BitVec.ofNat 32 (utcDaysFromCivil civil.year civil.month civil.day * utcSecondsPerDay +
        secondOfDay civil) := by
    rw [utcFromCivil, second, secondOfDay, ← Nat.add_assoc, ← Nat.add_assoc]
  have past : utcDaysFromCivil civil.year civil.month civil.day * utcSecondsPerDay +
      secondOfDay civil ≤ last.toNat := by omega
  have apart := @Wrapping.toNat_sub 32 _ last.toNat past
    (lt_of_le_of_lt (Nat.sub_le _ _) last.isLt)
  rw [BitVec.ofNat_toNat, BitVec.setWidth_eq] at apart
  rw [formed, apart]
  omega

/-- The months and the rest are as they should be but where the later moment is on a clamped
day, and they never step back as it goes on. -/
theorem counts_months_iff (first last : BitVec 32) (onward : first.toNat ≤ last.toNat) :
    (CountsMonths first last ↔ ¬OnClampedDay (utcToCivil first false) (utcToCivil last false)) ∧
    ∀ later : BitVec 32, last.toNat ≤ later.toNat →
      deltaMonths first last < deltaMonths first later ∨
        deltaMonths first last = deltaMonths first later ∧
          deltaRest first last ≤ deltaRest first later := by
  obtain ⟨earlier, start, -, -⟩ := utcToCivil_exists first
  obtain ⟨moment, end_, -, -⟩ := utcToCivil_exists last
  have order : secondsOf (utcToCivil first false) ≤ secondsOf (utcToCivil last false) := by
    rw [start, end_]
    exact Nat.add_le_add_right onward _
  have most := wholeMonths_most_iff earlier moment order
  rw [end_] at most
  constructor
  · rw [← most]
    refine ⟨CountsMonths.most, fun largest => ⟨?_, largest, deltaRest_eq onward⟩⟩
    rw [← end_]
    exact (wholeMonths_reached earlier moment order).2
  · intro later further
    obtain ⟨next, ends, -, -⟩ := utcToCivil_exists later
    have le : deltaMonths first last ≤ deltaMonths first later :=
      wholeMonths_mono earlier moment next order
        (by rw [end_, ends]; exact Nat.add_le_add_right further _)
    rcases Nat.lt_or_eq_of_le le with fewer | same
    · exact .inl fewer
    · have rest := deltaRest_eq onward
      have longer := deltaRest_eq (onward.trans further)
      rw [same] at rest
      exact .inr ⟨same, by omega⟩

/-- From 31 January 2026, 10:00, to the last of February: short of ten o'clock. -/
theorem counts_months_february :
    (CountsMonths 1769853600 1772272799 ↔
      ¬OnClampedDay (utcToCivil 1769853600 false) (utcToCivil 1772272799 false)) :=
  (counts_months_iff 1769853600 1772272799 (by decide)).1

/-- At noon a month has passed, to 28 February at ten, but none is counted. -/
theorem not_counts_months :
    deltaMonths 1769853600 1772280000 = 0 ∧ ¬CountsMonths 1769853600 1772280000 := by
  refine ⟨by decide +kernel, fun counts => ?_⟩
  have none : deltaMonths 1769853600 1772280000 = 0 := by decide +kernel
  have most := counts.most 1 (by decide +kernel)
  rw [none] at most
  exact absurd most (by decide)

end GpsClock.Display
