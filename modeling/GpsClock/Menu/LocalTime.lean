import GpsClock.Lib.LocalTime
import GpsClock.Menu.Items

/-! # Local time entered by hand

A tIME confirmed is a local time, and the clock is set to a UTC for it: the offset is looked
up twice, as by `LocalTime.corrected`. The offsets in force are no larger than two days
together, and a schedule whose transitions are a week apart changes at most once in the
stretch they reach, so a local time that the clock shows at some moment is shown at the UTC
it is set to.
-/

namespace GpsClock

open LocalTime (Within ChangesOnce corrected)
open Settings (offsetOk)
open Platform

namespace TimeZone

/-- The least time between transitions. -/
def weekS : Nat := 604800

/-- The most an offset comes to: the base's limit twice over, and a second that the
sub-second offset is rounded to. -/
def offsetReach : Int := 172799

/-- Offsets as they are accepted, from the schedule and the settings, and transitions at
least a week apart. -/
structure Timezone.Regular (zone : Timezone) : Prop where
  bases : ∀ entry ∈ zone.schedule.entries, offsetOk entry.baseOffsetS = true
  apart : zone.schedule.entries.tail.IsChain fun entry next => entry.time + weekS ≤ next.time
  manualBase : offsetOk zone.settings.manualBaseS = true
  manualDst : offsetOk zone.settings.manualDstS = true

theorem offsetOk_iff (offsetS : BitVec 32) :
    offsetOk offsetS = true ↔ Within 86399 offsetS.toInt := by
  rw [offsetOk, Bool.and_eq_true, decide_eq_true_eq, decide_eq_true_eq]
  exact Iff.rfl

theorem regular_init : timezoneInit.Regular where
  bases := by simp [timezoneInit]
  apart := List.isChain_nil
  manualBase := rfl
  manualDst := rfl

/-- The loop of `well_formed` passes none but accepted offsets. -/
theorem bases_of_lastInOrder {previous last : BitVec 32} {entries : List SmlTzEntry}
    (ordered : lastInOrder previous entries = some last) :
    ∀ entry ∈ entries, offsetOk entry.baseOffsetS = true := by
  induction entries generalizing previous with
  | nil => simp
  | cons entry later ih =>
      rw [lastInOrder] at ordered
      split at ordered
      · cases ordered
      · next passes =>
          rw [Bool.or_eq_true, Bool.not_eq_true', not_or, Bool.not_eq_false] at passes
          exact List.forall_mem_cons.mpr ⟨passes.2, ih ordered⟩

/-- A payload whose transitions are a week apart leaves the time zone so. -/
theorem Timezone.Regular.apply {zone : Timezone} (regular : zone.Regular) (state : SmlTzState)
    (apart : state.future.IsChain fun entry next =>
      entry.utcSeconds.toNat + weekS ≤ next.utcSeconds.toNat) :
    (zone.apply state).2.Regular := by
  by_cases usable : state.Usable
  · obtain ⟨-, same⟩ | ⟨-, schedule, settings, -⟩ := zone.apply_usable usable
    · rw [same]
      exact regular
    · obtain ⟨-, current, -, -, last, ordered, -⟩ := (wellFormed_iff state).mp usable.2
      have bases : ∀ entry ∈ state.schedule.entries, offsetOk entry.baseOffsetS = true := by
        rw [SmlTzState.schedule, List.forall_mem_cons, List.forall_mem_map]
        exact ⟨current, bases_of_lastInOrder ordered⟩
      exact
        { bases := schedule ▸ bases
          apart := by
            rw [schedule, SmlTzState.schedule, List.tail_cons, List.isChain_map]
            exact apart
          manualBase := settings ▸ regular.manualBase
          manualDst := settings ▸ regular.manualDst }
  · rw [(zone.apply_unusable usable).2]
    exact regular

/-- The offset while an entry of the schedule is in force. -/
def Timezone.offsetOf (zone : Timezone) (entry : TimezoneEntry) : BitVec 32 :=
  let base :=
    if zone.schedule.held && zone.settings.automatic then entry.baseOffsetS
    else zone.settings.manualBaseS
  let dst :=
    if zone.schedule.held && zone.settings.dstAutomatic then
      if entry.dstActive then entry.dstOffsetS.signExtend 32 else 0
    else if zone.settings.manualDstActive then zone.settings.manualDstS else 0
  (if zone.schedule.held && zone.settings.automatic then
    roundedSeconds zone.schedule.subsecondOffsetNs else 0) + (base + dst)

/-- Of the entry in force it is the offset of the moment. -/
theorem Timezone.offsetAt_offsetS (zone : Timezone) (utcSeconds : BitVec 32) :
    (zone.offsetAt utcSeconds).offsetS = zone.offsetOf (zone.schedule.entryAt utcSeconds) := by
  rw [Timezone.offsetAt, Timezone.offsetOf]
  dsimp only
  cases zone.schedule.held && zone.settings.dstAutomatic <;> rfl

theorem roundedSeconds_small (nanoseconds : BitVec 32) :
    Within 1 (roundedSeconds nanoseconds).toInt := by
  rw [roundedSeconds]
  split_ifs <;> exact ⟨by decide, by decide⟩

/-- A sum that stays within half of the range is the sum of the numbers. -/
theorem within_add {left right : BitVec 32} {first second : Int} (one : Within first left.toInt)
    (other : Within second right.toInt) (fits : first + second < 2 ^ 31) :
    Within (first + second) (left + right).toInt := by
  rw [Within] at one other
  rw [Within, BitVec.toInt_add, Int.bmod_eq_of_le (by omega) (by omega)]
  omega

theorem Timezone.Regular.offsetOf_small {zone : Timezone} (regular : zone.Regular)
    {entry : TimezoneEntry} (base : offsetOk entry.baseOffsetS = true) :
    Within offsetReach (zone.offsetOf entry).toInt := by
  have rounded : Within 1 (if zone.schedule.held && zone.settings.automatic then
      roundedSeconds zone.schedule.subsecondOffsetNs else 0).toInt := by
    split
    · exact roundedSeconds_small _
    · exact ⟨by decide, by decide⟩
  have bases : Within 86399 (if zone.schedule.held && zone.settings.automatic then
      entry.baseOffsetS else zone.settings.manualBaseS).toInt := by
    split
    · exact (offsetOk_iff _).mp base
    · exact (offsetOk_iff _).mp regular.manualBase
  have dsts : Within 86399 (if zone.schedule.held && zone.settings.dstAutomatic then
      if entry.dstActive then entry.dstOffsetS.signExtend 32 else 0
      else if zone.settings.manualDstActive then zone.settings.manualDstS else 0).toInt := by
    have none : Within 86399 (0 : BitVec 32).toInt := ⟨by decide, by decide⟩
    split_ifs
    · rw [BitVec.toInt_signExtend_of_le (by decide), Within]
      have low := entry.dstOffsetS.le_toInt
      have high := entry.dstOffsetS.toInt_lt
      omega
    · exact none
    · exact (offsetOk_iff _).mp regular.manualDst
    · exact none
  exact within_add rounded (within_add bases dsts (by decide)) (by decide)

end TimeZone

namespace Menu

open TimeZone

variable {zone : Timezone}

/-- The offset of a moment, as a number. -/
def offset (zone : Timezone) (moment : Int) : Int :=
  (zone.offsetAt (BitVec.ofInt 32 moment)).offsetS.toInt

theorem ofInt_offset (zone : Timezone) (moment : Int) :
    BitVec.ofInt 32 (offset zone moment) = (zone.offsetAt (BitVec.ofInt 32 moment)).offsetS :=
  BitVec.ofInt_toInt

/-- An entry of the schedule, be it none, has a base that is accepted. -/
theorem base_of_mem (regular : zone.Regular) {entry : TimezoneEntry}
    (member : entry ∈ zone.schedule.entries.headD {} :: zone.schedule.entries.tail) :
    offsetOk entry.baseOffsetS = true := by
  cases entries : zone.schedule.entries with
  | nil =>
      rw [entries] at member
      rw [List.mem_singleton.mp member]
      rfl
  | cons first later =>
      rw [entries] at member
      exact regular.bases entry (entries ▸ member)

theorem offset_small (regular : zone.Regular) (moment : Int) :
    Within offsetReach (offset zone moment) := by
  rw [offset, zone.offsetAt_offsetS]
  exact regular.offsetOf_small (base_of_mem regular (Steps.lookup_mem _ _ _))

/-! ## The time entered -/

/-- The fields of a tIME within their ranges, the seconds apart. -/
def Entered (values : Fields) : Prop :=
  ∀ field < 5, (timeLimits values field).low ≤ values.at field ∧
    values.at field ≤ (timeLimits values field).high

instance (values : Fields) : Decidable (Entered values) :=
  inferInstanceAs (Decidable (∀ field < 5, _))

/-- The date and time of day the fields hold. -/
def civilEntered (values : Fields) : UtcCivil where
  year := (values.at 0).toNat
  month := (values.at 1).toNat
  day := (values.at 2).toNat
  hour := (values.at 3).toNat
  minute := (values.at 4).toNat

theorem timeEntered_eq (values : Fields) :
    timeEntered values = utcFromCivil (civilEntered values) := rfl

theorem daysInMonth_eq {year month : Nat} (first : 1 ≤ month) (last : month ≤ 12) :
    daysInMonth year month = Calendar.monthLength year month := by
  have leaps : ((month : Int) = 2 ∧ (year : Int).tmod 4 = 0 ∧
      ((year : Int).tmod 100 ≠ 0 ∨ (year : Int).tmod 400 = 0)) ↔
        month = 2 ∧ Calendar.LeapYear year := by
    rw [Calendar.LeapYear, Int.tmod_eq_emod_of_nonneg (by omega),
      Int.tmod_eq_emod_of_nonneg (by omega), Int.tmod_eq_emod_of_nonneg (by omega)]
    omega
  rw [daysInMonth, if_congr leaps rfl rfl]
  by_cases leap : Calendar.LeapYear year <;>
    interval_cases month <;> simp [Calendar.monthLength, leap]

/-- From 2000 to 2099, as a count of seconds, it is days away from where the count ends. -/
theorem toNat_timeEntered {values : Fields} (entered : Entered values) :
    200000 ≤ (timeEntered values).toNat ∧ (timeEntered values).toNat + 200000 < 2 ^ 32 := by
  have yearRange := entered 0 (by decide)
  have monthRange := entered 1 (by decide)
  have dayRange := entered 2 (by decide)
  have hourRange := entered 3 (by decide)
  have minuteRange := entered 4 (by decide)
  change 2000 ≤ values.at 0 ∧ values.at 0 ≤ 2099 at yearRange
  change 1 ≤ values.at 1 ∧ values.at 1 ≤ 12 at monthRange
  change 1 ≤ values.at 2 ∧ values.at 2 ≤ daysInMonth (values.at 0) (values.at 1) at dayRange
  change 0 ≤ values.at 3 ∧ values.at 3 ≤ 23 at hourRange
  change 0 ≤ values.at 4 ∧ values.at 4 ≤ 59 at minuteRange
  have days : ((values.at 2).toNat : Int) ≤
      Calendar.monthLength (values.at 0).toNat (values.at 1).toNat := by
    rw [← daysInMonth_eq (by omega) (by omega), Int.toNat_of_nonneg (by omega),
      Int.toNat_of_nonneg (by omega), Int.toNat_of_nonneg (by omega)]
    exact dayRange.2
  have date : Calendar.ValidDate (values.at 0).toNat (values.at 1).toNat (values.at 2).toNat :=
    ⟨by omega, by omega, by omega, by omega⟩
  have few := dayNumber_le (by omega) date
  have many : 719531 ≤ Calendar.dayNumber (values.at 0).toNat (values.at 1).toNat
      (values.at 2).toNat := by
    obtain ⟨before, year⟩ : ∃ before, (values.at 0).toNat = before + 1 :=
      ⟨(values.at 0).toNat - 1, by omega⟩
    rw [Calendar.dayNumber, year, Calendar.daysBeforeYear_succ]
    omega
  have since : 1970 ≤ (civilEntered values).year := by
    change 1970 ≤ (values.at 0).toNat
    omega
  have hour : (civilEntered values).hour ≤ 23 := by
    change (values.at 3).toNat ≤ 23
    omega
  have minute : (civilEntered values).minute ≤ 59 := by
    change (values.at 4).toNat ≤ 59
    omega
  have inside : unixSeconds (civilEntered values) < 2 ^ 32 := by
    apply (unixSeconds_lt_iff date since hour minute (Nat.zero_le _)).mpr
    refine .inl ?_
    change (values.at 0).toNat < 2106
    omega
  have counted := toNat_utcFromCivil_counted
    ⟨date, since, hour, minute, Nat.zero_le _, inside⟩
  have kept : min (civilEntered values).second 59 = 0 := rfl
  rw [timeEntered_eq, counted, unixSeconds, dayNumber_1970, kept, utcSecondsPerDay]
  change 719531 ≤ Calendar.dayNumber (civilEntered values).year (civilEntered values).month
    (civilEntered values).day at many
  change Calendar.dayNumber (civilEntered values).year (civilEntered values).month
    (civilEntered values).day ≤ _ at few
  omega

/-! ## The UTC it is taken for -/

theorem ofInt_toNat (moment : BitVec 32) : BitVec.ofInt 32 (moment.toNat : Int) = moment := by
  rw [BitVec.ofInt_natCast, BitVec.ofNat_toNat, BitVec.setWidth_eq]

theorem ofInt_sub_offset (zone : Timezone) (shown moment : Int) :
    BitVec.ofInt 32 (shown - offset zone moment) =
      BitVec.ofInt 32 shown - (zone.offsetAt (BitVec.ofInt 32 moment)).offsetS := by
  rw [Int.sub_eq_add_neg, BitVec.ofInt_add, BitVec.ofInt_neg, ofInt_offset,
    ← BitVec.sub_eq_add_neg]

/-- The moment found is the one `LocalTime.corrected` finds. -/
theorem timeEnteredUtc_eq (values : Fields) (zone : Timezone) :
    timeEnteredUtc values zone =
      BitVec.ofInt 32 (corrected (offset zone) (timeEntered values).toNat) := by
  rw [corrected, ofInt_sub_offset, ofInt_sub_offset, ofInt_toNat]
  rfl

/-- Far enough from both ends of the count, the schedule changes at most once as far as
offsets reach. -/
theorem changesOnce (regular : zone.Regular) {shown : Nat} (since : 200000 ≤ shown)
    (until_ : shown + 200000 < 2 ^ 32) :
    ∃ change before after, ChangesOnce (offset zone) shown offsetReach change before after := by
  have apart : zone.schedule.entries.tail.IsChain fun entry next =>
      shown - 172799 < entry.time → shown + 172799 < next.time := by
    apply regular.apart.imp
    intro entry next week after
    rw [weekS] at week
    omega
  obtain ⟨change, before, after, first, second, steps⟩ :=
    @Steps.lookup_window _ _ _ TimezoneEntry.time _ _ (zone.schedule.entries.headD {}) _ apart
  refine ⟨change, (zone.offsetOf before).toInt, (zone.offsetOf after).toInt,
    regular.offsetOf_small (base_of_mem regular first),
    regular.offsetOf_small (base_of_mem regular second), fun moment low high => ?_⟩
  rw [offsetReach] at low high
  obtain ⟨counted, rfl⟩ := Int.eq_ofNat_of_zero_le (show 0 ≤ moment by omega)
  have entry : zone.schedule.entryAt (BitVec.ofInt 32 counted) =
      if counted < change then before else after := by
    rw [TimezoneSchedule.entryAt, BitVec.ofInt_natCast, BitVec.toNat_ofNat,
      Nat.mod_eq_of_lt (by omega)]
    exact steps counted (by omega) (by omega)
  rw [offset, zone.offsetAt_offsetS, entry]
  by_cases early : counted < change
  · rw [if_pos early, if_pos (Int.ofNat_lt.mpr early)]
  · rw [if_neg early, if_neg (mt Int.ofNat_lt.mp early)]

/-- **A local time entered by hand is converted to a UTC the clock shows it at**, wherever
it is shown at any: also near a transition, and in the hour that occurs twice. -/
theorem time_entered_is_shown (zone : Timezone) (values : Fields) (regular : zone.Regular)
    (entered : Entered values)
    (occurs : ∃ utc, utc + (zone.offsetAt utc).offsetS = timeEntered values) :
    timeEnteredUtc values zone + (zone.offsetAt (timeEnteredUtc values zone)).offsetS =
      timeEntered values := by
  obtain ⟨utc, shown⟩ := occurs
  obtain ⟨since, until_⟩ := toNat_timeEntered entered
  obtain ⟨change, before, after, once⟩ := changesOnce regular since until_
  have small := offset_small regular utc.toNat
  have meant : (utc.toNat : Int) + offset zone utc.toNat = (timeEntered values).toNat := by
    have counted : BitVec.ofInt 32 ((utc.toNat : Int) + offset zone utc.toNat) =
        BitVec.ofInt 32 ((timeEntered values).toNat : Int) := by
      rw [BitVec.ofInt_add, ofInt_offset, ofInt_toNat, shown, ofInt_toNat]
    have range := utc.isLt
    have residues := congrArg BitVec.toNat counted
    rw [BitVec.toNat_ofInt, BitVec.toNat_ofInt] at residues
    rw [Within, offsetReach] at small
    omega
  have found := LocalTime.corrected_shown once small meant
  rw [timeEnteredUtc_eq, ← ofInt_offset, ← BitVec.ofInt_add, found, ofInt_toNat]

/-- Five hours behind, and an hour of DST that ends in the morning of a day. -/
def endsDst : Timezone :=
  { timezoneInit with
    schedule :=
      { held := true
        entries :=
          [{ baseOffsetS := -18000, dstOffsetS := 3600, dstActive := true },
            { utcSeconds := 1793512800, baseOffsetS := -18000, dstOffsetS := 3600 }] } }

theorem time_entered_is_shown_twice :
    timeEnteredUtc [2026, 11, 1, 1, 30, 0] endsDst +
        (endsDst.offsetAt (timeEnteredUtc [2026, 11, 1, 1, 30, 0] endsDst)).offsetS =
      timeEntered [2026, 11, 1, 1, 30, 0] :=
  time_entered_is_shown endsDst [2026, 11, 1, 1, 30, 0]
    ⟨by decide, List.isChain_singleton _, by decide, by decide⟩ (by decide)
    ⟨1793512800 + 1800, by decide⟩

end Menu

end GpsClock
