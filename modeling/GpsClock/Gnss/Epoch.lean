import GpsClock.Platform.Civil
import GpsClock.Platform.Timeline

/-! # The time of a navigation epoch

`gnss_epoch.c`, `derive_time`: the second a navigation solution's time is nearest to, and
how far it is from it. The second is rounded, the leap second's flag is the calendar's:
the two agree exactly where no leap second lies between the calendar's second and the
nearest one (`GpsClock.Gnss.nearest_iff`).
-/

namespace GpsClock.Gnss

open Calendar GpsClock.Platform

structure UbxNavStatus where
  fixType : BitVec 8
  flags : BitVec 8
  deriving DecidableEq, Repr

structure UbxNavTimeutc where
  fractionalSecondNs : Int
  year : Nat
  month : Nat
  day : Nat
  hour : Nat
  minute : Nat
  second : Nat
  validityFlags : BitVec 8
  deriving DecidableEq, Repr

/-- `GnssEpoch`: the decoded messages, and what is derived from them. -/
structure GnssEpoch where
  status : UbxNavStatus
  timeUtc : UbxNavTimeutc
  timeValid : Bool := false
  fixOk : Bool := false
  utcSeconds : BitVec 32 := 0
  leapSecond : Bool := false
  offsetFromSecondNs : Int := 0
  deriving DecidableEq, Repr

/-- `NANOSECONDS_PER_SECOND`. -/
abbrev nanosecondsPerSecond : Int := 1000000000

/-- `HALF_SECOND_NS`. -/
abbrev halfSecondNs : Int := 500000000

/-- `GNSS_EPOCH_ALIGNMENT_LIMIT_NS`. -/
abbrev gnssEpochAlignmentLimitNs : Int := 100000000

/-- `TIMEUTC_FULLY_VALID`: time of week, week and UTC. -/
def timeutcFullyValid : BitVec 8 := 0x01 ||| 0x02 ||| 0x04

/-- `UBX_STATUS_FIX_OK`. -/
def ubxStatusFixOk : BitVec 8 := 0x01

/-- The fix types `fix_is_usable` takes: 2D, 3D, GNSS with dead reckoning, time only. -/
def usableFixTypes : List (BitVec 8) := [2, 3, 4, 5]

/-- The calendar fields of a NAV-TIMEUTC. -/
def UbxNavTimeutc.civil (timeUtc : UbxNavTimeutc) : UtcCivil where
  year := timeUtc.year
  month := timeUtc.month
  day := timeUtc.day
  hour := timeUtc.hour
  minute := timeUtc.minute
  second := timeUtc.second

/-- `calendar_is_plausible`. -/
def calendarIsPlausible (timeUtc : UbxNavTimeutc) : Bool :=
  decide (2020 ≤ timeUtc.year) && decide (timeUtc.year < utcLastYear) &&
    utcCivilIsValid timeUtc.civil

/-- `fix_is_usable`. -/
def fixIsUsable (status : UbxNavStatus) : Bool :=
  usableFixTypes.contains status.fixType && status.flags &&& ubxStatusFixOk != 0

/-- The second a time is rounded to, and what is left. -/
def roundToSecond (wholeSecond : BitVec 32) (offsetNs : Int) : BitVec 32 × Int :=
  if halfSecondNs ≤ offsetNs then (wholeSecond + 1, offsetNs - nanosecondsPerSecond)
  else if offsetNs < -halfSecondNs then (wholeSecond - 1, offsetNs + nanosecondsPerSecond)
  else (wholeSecond, offsetNs)

/-- `derive_time`. -/
def deriveTime (epoch : GnssEpoch) : GnssEpoch :=
  let timeUtc := epoch.timeUtc
  let utcValid := timeUtc.validityFlags &&& timeutcFullyValid == timeutcFullyValid
  let epoch :=
    { epoch with
      fixOk := fixIsUsable epoch.status
      leapSecond := timeUtc.second == 60 }
  if !calendarIsPlausible timeUtc then
    { epoch with
      utcSeconds := 0
      offsetFromSecondNs := 0
      timeValid := false }
  else
    -- 23:59:60 is held as :59 and flagged
    let (wholeSecond, offsetNs) :=
      roundToSecond (utcFromCivil timeUtc.civil) timeUtc.fractionalSecondNs
    let aligned := decide (offsetNs ≤ gnssEpochAlignmentLimitNs ∧
      -gnssEpochAlignmentLimitNs ≤ offsetNs)
    { epoch with
      utcSeconds := wholeSecond
      offsetFromSecondNs := offsetNs
      timeValid := epoch.fixOk && utcValid && aligned }

/-! ## The second it is nearest to -/

/-- The label of the calendar's second, by the calendar. -/
def UbxNavTimeutc.label (timeUtc : UbxNavTimeutc) : Label :=
  (BitVec.ofNat 32 (unixSeconds timeUtc.civil), timeUtc.second == 60)

/-- The end of a day, as a leap second's event is. -/
def AtMidnight (leap : Option UtcLeap) : Prop :=
  ∀ known, leap = some known → 2 ≤ known.eventUtc ∧ known.eventUtc.toNat % utcSecondsPerDay = 0

/-- A calendar time that happens, with a second of 60 only as an inserted one, and a
fraction. -/
structure RealInstant (leap : Option UtcLeap) (timeUtc : UbxNavTimeutc) : Prop where
  happens : Happens leap timeUtc.label
  fraction : |timeUtc.fractionalSecondNs| < nanosecondsPerSecond

/-- The second a time is nearest to, of the seconds that happen; and what its flag says of
it. -/
structure Nearest (leap : Option UtcLeap) (calendar : Label) (fractionNs : Int)
    (label : Label) : Prop where
  happens : Happens leap label
  near : |(place leap calendar * nanosecondsPerSecond + fractionNs) -
    place leap label * nanosecondsPerSecond| ≤ halfSecondNs
  endOfDay : label.2 = true → label.1.toNat % utcSecondsPerDay = 86399

/-- The fraction stays within the calendar's second, or reaches the next or the last one
with no leap second on the way. -/
def NoLeapCrossed (leap : Option UtcLeap) (timeUtc : UbxNavTimeutc) : Prop :=
  |timeUtc.fractionalSecondNs| < halfSecondNs ∨
    timeUtc.second ≠ 60 ∧
      (0 < timeUtc.fractionalSecondNs → ¬LeapFollows leap timeUtc.label) ∧
      (timeUtc.fractionalSecondNs < 0 → ¬LeapPrecedes leap timeUtc.label)

variable {leap : Option UtcLeap} {epoch : GnssEpoch} {calendar label : Label}

theorem AtMidnight.scheduled (midnight : AtMidnight leap) : Scheduled leap :=
  fun known announced => (midnight known announced).1

/-- Only the last second of a day is repeated. -/
theorem flagged_endOfDay (midnight : AtMidnight leap) (happens : Happens leap label)
    (flag : label.2 = true) : label.1.toNat % utcSecondsPerDay = 86399 := by
  obtain ⟨known, announced, _, here⟩ := happens.flagged flag
  obtain ⟨_, atMidnight⟩ := midnight known announced
  subst announced
  obtain ⟨late, pred⟩ := midnight.scheduled.event
  unfold utcSecondsPerDay at atMidnight ⊢
  rw [here, pred]
  omega

/-- A second within the alignment limit of a time is the nearest one. -/
theorem nearest_of_offset (midnight : AtMidnight leap) {shift offsetNs : Int}
    (aligned : offsetNs ≤ gnssEpochAlignmentLimitNs ∧ -gnssEpochAlignmentLimitNs ≤ offsetNs) :
    Nearest leap calendar (shift * nanosecondsPerSecond + offsetNs) label ↔
      Happens leap label ∧ (place leap label : Int) = place leap calendar + shift := by
  obtain ⟨early, late⟩ := aligned
  constructor
  · intro nearest
    refine ⟨nearest.happens, ?_⟩
    obtain ⟨low, high⟩ := abs_le.mp nearest.near
    dsimp only [halfSecondNs, gnssEpochAlignmentLimitNs, nanosecondsPerSecond] at *
    omega
  · intro ⟨happens, there⟩
    have apart : (place leap calendar * nanosecondsPerSecond +
        (shift * nanosecondsPerSecond + offsetNs)) - place leap label * nanosecondsPerSecond =
          offsetNs := by
      rw [there]
      grind
    refine ⟨happens, ?_, flagged_endOfDay midnight happens⟩
    rw [apart]
    exact (abs_le.mpr ⟨late, early⟩).trans (by decide)

/-- What a valid time is: the calendar's second rounded, within the limit of it. -/
structure Derived (epoch : GnssEpoch) (shift : Int) : Prop where
  second : (deriveTime epoch).utcSeconds = epoch.timeUtc.label.1 + BitVec.ofInt 32 shift
  leapSecond : (deriveTime epoch).leapSecond = epoch.timeUtc.label.2
  fraction : epoch.timeUtc.fractionalSecondNs =
    shift * nanosecondsPerSecond + (deriveTime epoch).offsetFromSecondNs
  aligned : (deriveTime epoch).offsetFromSecondNs ≤ gnssEpochAlignmentLimitNs ∧
    -gnssEpochAlignmentLimitNs ≤ (deriveTime epoch).offsetFromSecondNs

/-- A plausible calendar's label is the code's, with room on both sides. -/
theorem plausible_label {timeUtc : UbxNavTimeutc} (sane : calendarIsPlausible timeUtc = true) :
    utcFromCivil timeUtc.civil = timeUtc.label.1 ∧ 1 ≤ timeUtc.label.1.toNat ∧
      timeUtc.label.1.toNat + 2 < 2 ^ 32 := by
  simp only [calendarIsPlausible, Bool.and_eq_true, decide_eq_true_eq] at sane
  obtain ⟨⟨since, range⟩, valid⟩ := sane
  have seconds : (utcFromCivil timeUtc.civil).toNat = unixSeconds timeUtc.civil :=
    toNat_utcFromCivil valid range
  have same : utcFromCivil timeUtc.civil = timeUtc.label.1 := by
    rw [UbxNavTimeutc.label, ← seconds, BitVec.ofNat_toNat, BitVec.setWidth_eq]
  obtain ⟨low, high⟩ := unixSeconds_range valid since range
  refine ⟨same, ?_, ?_⟩
  · rw [← same, seconds]
    exact low
  · rw [← same, seconds]
    exact high

theorem deriveTime_valid (valid : (deriveTime epoch).timeValid = true) :
    calendarIsPlausible epoch.timeUtc = true ∧
      (Derived epoch 0 ∨ Derived epoch 1 ∨ Derived epoch (-1)) := by
  cases sane : calendarIsPlausible epoch.timeUtc with
  | false =>
      simp only [deriveTime, sane, Bool.not_false, if_true] at valid
      exact absurd valid Bool.false_ne_true
  | true =>
      obtain ⟨label, _, _⟩ := plausible_label sane
      refine ⟨rfl, ?_⟩
      simp only [deriveTime, sane, Bool.not_true, Bool.false_eq_true, if_false,
        Bool.and_eq_true, decide_eq_true_eq] at valid
      obtain ⟨_, aligned⟩ := valid
      have second : (deriveTime epoch).utcSeconds = (roundToSecond epoch.timeUtc.label.1
          epoch.timeUtc.fractionalSecondNs).1 := by
        simp [deriveTime, sane, label]
      have offset : (deriveTime epoch).offsetFromSecondNs = (roundToSecond epoch.timeUtc.label.1
          epoch.timeUtc.fractionalSecondNs).2 := by
        simp [deriveTime, sane, label]
      have flag : (deriveTime epoch).leapSecond = epoch.timeUtc.label.2 := by
        simp [deriveTime, sane, UbxNavTimeutc.label]
      rw [label, ← offset] at aligned
      rw [roundToSecond] at second offset
      split at second
      · next late =>
          rw [if_pos late] at offset
          have one : BitVec.ofInt 32 1 = 1 := by decide
          refine .inr (.inl ⟨?_, flag, ?_, aligned⟩)
          · rw [second, one]
          · rw [offset]
            omega
      · next notLate =>
          rw [if_neg notLate] at offset
          split at second
          · next early =>
              rw [if_pos early] at offset
              have minus : BitVec.ofInt 32 (-1) = -1 := by decide
              refine .inr (.inr ⟨?_, flag, ?_, aligned⟩)
              · rw [second, minus, BitVec.sub_eq_add_neg]
              · rw [offset]
                omega
          · next within =>
              rw [if_neg within] at offset
              have zero : BitVec.ofInt 32 0 = 0 := by decide
              refine .inl ⟨?_, flag, ?_, aligned⟩
              · rw [second, zero]
                exact (BitVec.add_zero _).symm
              · rw [offset]
                omega

/-- **The nearest second.** Of a valid time of a calendar that happens, the second and
flag published are those of the UTC second it is nearest to, exactly where no leap second
lies between that and the calendar's own second. -/
theorem nearest_iff (midnight : AtMidnight leap) (real : RealInstant leap epoch.timeUtc)
    (valid : (deriveTime epoch).timeValid = true) :
    Nearest leap epoch.timeUtc.label epoch.timeUtc.fractionalSecondNs
        ((deriveTime epoch).utcSeconds, (deriveTime epoch).leapSecond) ↔
      NoLeapCrossed leap epoch.timeUtc := by
  obtain ⟨sane, rounded⟩ := deriveTime_valid valid
  obtain ⟨_, some, room⟩ := plausible_label sane
  have scheduled := midnight.scheduled
  have sixty : epoch.timeUtc.second ≠ 60 ↔ epoch.timeUtc.label.2 = false := by
    simp [UbxNavTimeutc.label]
  rw [NoLeapCrossed, sixty, abs_lt]
  rcases rounded with within | up | down
  · rw [within.fraction, nearest_of_offset midnight within.aligned, within.second,
      within.leapSecond]
    obtain ⟨early, late⟩ := within.aligned
    have here : (epoch.timeUtc.label.1 + BitVec.ofInt 32 0, epoch.timeUtc.label.2) =
        epoch.timeUtc.label :=
      Prod.ext (BitVec.add_zero _) rfl
    rw [here]
    dsimp only [halfSecondNs, gnssEpochAlignmentLimitNs, nanosecondsPerSecond] at *
    exact iff_of_true ⟨real.happens, (Int.add_zero _).symm⟩ (.inl ⟨by omega, by omega⟩)
  · have next := next_iff scheduled real.happens room
    obtain ⟨early, late⟩ := up.aligned
    have one : BitVec.ofInt 32 1 = 1 := by decide
    rw [up.fraction, nearest_of_offset midnight up.aligned, up.second, up.leapSecond, one]
    dsimp only [halfSecondNs, gnssEpochAlignmentLimitNs, nanosecondsPerSecond] at *
    have far : ¬(-500000000 < 1 * 1000000000 + (deriveTime epoch).offsetFromSecondNs ∧
        1 * 1000000000 + (deriveTime epoch).offsetFromSecondNs < 500000000) := by
      omega
    have positive : 0 < 1 * 1000000000 + (deriveTime epoch).offsetFromSecondNs := by omega
    rw [or_iff_right far]
    constructor
    · intro ⟨happens, there⟩
      obtain ⟨unflagged, quiet⟩ := next.mp ⟨happens, by omega⟩
      exact ⟨unflagged, fun _ => quiet, fun negative => absurd positive (by omega)⟩
    · intro ⟨unflagged, quiet, _⟩
      obtain ⟨happens, there⟩ := next.mpr ⟨unflagged, quiet positive⟩
      exact ⟨happens, by omega⟩
  · have last := last_iff scheduled real.happens some room
    obtain ⟨early, late⟩ := down.aligned
    have minus : BitVec.ofInt 32 (-1) = -1 := by decide
    rw [down.fraction, nearest_of_offset midnight down.aligned, down.second, down.leapSecond,
      minus, ← BitVec.sub_eq_add_neg]
    dsimp only [halfSecondNs, gnssEpochAlignmentLimitNs, nanosecondsPerSecond] at *
    have far : ¬(-500000000 < -1 * 1000000000 + (deriveTime epoch).offsetFromSecondNs ∧
        -1 * 1000000000 + (deriveTime epoch).offsetFromSecondNs < 500000000) := by
      omega
    have negative : -1 * 1000000000 + (deriveTime epoch).offsetFromSecondNs < 0 := by omega
    rw [or_iff_right far]
    constructor
    · intro ⟨happens, there⟩
      obtain ⟨unflagged, quiet⟩ := last.mp ⟨happens, by omega⟩
      exact ⟨unflagged, fun positive => absurd negative (by omega), fun _ => quiet⟩
    · intro ⟨unflagged, _, quiet⟩
      obtain ⟨happens, there⟩ := last.mpr ⟨unflagged, quiet negative⟩
      exact ⟨happens, by omega⟩

/-! ## A leap second at the end of 2026 -/

def leap2026 : UtcLeap where
  eventUtc := 1798761600
  change := 1

/-- A fix at 23:59:60 and a fraction. -/
def leapEpoch (fractionNs : Int) : GnssEpoch where
  status := ⟨3, 0x01⟩
  timeUtc := ⟨fractionNs, 2026, 12, 31, 23, 59, 60, 0x07⟩

theorem atMidnight_2026 : AtMidnight (some leap2026) := by
  intro known announced
  cases announced
  decide

theorem leapEpoch_label (fractionNs : Int) :
    (leapEpoch fractionNs).timeUtc.label = (1798761599, true) := by
  have days : daysBeforeYear 2026 = 739982 := daysBeforeYear_succ 2025
  have seconds : unixSeconds (leapEpoch fractionNs).timeUtc.civil = 1798761599 := by
    rw [unixSeconds, dayNumber_1970]
    change (dayNumber 2026 12 31 - 719528) * 86400 + 23 * 3600 + 59 * 60 + min 60 59 = _
    rw [dayNumber, days]
    decide
  rw [UbxNavTimeutc.label, seconds]
  rfl

theorem leapEpoch_real {fractionNs : Int} (small : |fractionNs| < nanosecondsPerSecond) :
    RealInstant (some leap2026) (leapEpoch fractionNs).timeUtc where
  happens := by
    rw [leapEpoch_label]
    refine ⟨fun _ => ⟨leap2026, rfl, by decide, by decide⟩, fun known announced deleted => ?_⟩
    cases announced
    exact absurd deleted (by decide)
  fraction := small

/-- 20 ms into 23:59:60. -/
theorem nearest_leap_second :
    Nearest (some leap2026) (leapEpoch 20000000).timeUtc.label 20000000
      ((deriveTime (leapEpoch 20000000)).utcSeconds,
        (deriveTime (leapEpoch 20000000)).leapSecond) :=
  (nearest_iff atMidnight_2026 (leapEpoch_real (by decide)) (by decide)).mpr (.inl (by decide))

/-- **Rounded, but still flagged.** 950 ms into 23:59:60 the next day's first second is
the nearest one: its number is published as a leap second. -/
theorem midnight_flagged :
    ¬∀ leap epoch, AtMidnight leap → RealInstant leap epoch.timeUtc →
      (deriveTime epoch).timeValid = true →
        Nearest leap epoch.timeUtc.label epoch.timeUtc.fractionalSecondNs
          ((deriveTime epoch).utcSeconds, (deriveTime epoch).leapSecond) := by
  intro claimed
  have nearest := claimed (some leap2026) (leapEpoch 950000000) atMidnight_2026
    (leapEpoch_real (by decide)) (by decide)
  have repeats := nearest.happens.repeats (by decide)
  exact absurd repeats (by decide)

end GpsClock.Gnss
