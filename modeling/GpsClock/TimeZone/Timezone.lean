import GpsClock.Lib.Steps
import GpsClock.TimeZone.Payload

/-! # The PIC's time zone

`ui/timezone.c`: the schedule held, which a TZ-STATE replaces as a whole if it is
valid, well formed and not older than what its source sent before; the offsets in
force at a UTC second, from the schedule or the manual settings; and the schedule
as the TZ-STATE that would set it, which the settings store keeps.
-/

namespace GpsClock.TimeZone

open Settings (offsetOk)
open Sml

def openEndedUtc : BitVec 32 := 0xFFFFFFFF

def nsPerSecond : Int := 1000000000

/-- `TimezoneEntry`. -/
structure TimezoneEntry where
  utcSeconds : BitVec 32 := 0
  baseOffsetS : BitVec 32 := 0
  dstOffsetS : Word := 0
  dstActive : Bool := false
  deriving DecidableEq, Repr

/-- `TimezoneSchedule`. `entries` are the first `count`. -/
structure TimezoneSchedule where
  held : Bool := false
  source : Byte := 0
  ambiguous : Bool := false
  issuedUtc : BitVec 32 := 0
  horizonEndUtc : BitVec 32 := 0
  subsecondOffsetNs : BitVec 32 := 0
  entries : List TimezoneEntry := []
  crc : Word := 0
  deriving DecidableEq, Repr

/-- The settings' part of the module's state. -/
structure TimezoneSettings where
  automatic : Bool
  dstAutomatic : Bool
  manualBaseS : BitVec 32
  manualDstS : BitVec 32
  manualDstActive : Bool
  deriving DecidableEq, Repr

structure Timezone where
  settings : TimezoneSettings
  schedule : TimezoneSchedule
  changed : Bool
  deriving DecidableEq, Repr

/-- `timezone_init`. -/
def timezoneInit : Timezone where
  settings :=
    { automatic := true, dstAutomatic := true, manualBaseS := 0, manualDstS := 0,
      manualDstActive := false }
  schedule := {}
  changed := false

/-- `copy_entry`. -/
def copyEntry (wire : SmlTzEntry) : TimezoneEntry where
  utcSeconds := wire.utcSeconds
  baseOffsetS := wire.baseOffsetS
  dstOffsetS := wire.dstOffsetS
  dstActive := wire.flags &&& smlTzEntryDstActive != 0

/-- The loop of `well_formed`: the last entry's time, if each is later than the one
before and its offset is a time zone's. -/
def lastInOrder (previous : BitVec 32) : List SmlTzEntry → Option (BitVec 32)
  | [] => some previous
  | entry :: later =>
      if entry.utcSeconds ≤ previous || !offsetOk entry.baseOffsetS then none
      else lastInOrder entry.utcSeconds later

/-- The future entries in use. -/
def SmlTzState.future (state : SmlTzState) : List SmlTzEntry :=
  state.next.toList.take state.count.toNat

/-- `well_formed`. -/
def wellFormed (state : SmlTzState) : Bool :=
  if smlTzTransitionMax < state.count.toNat || !offsetOk state.current.baseOffsetS ||
      state.subsecondOffsetNs.toInt ≤ -nsPerSecond || nsPerSecond ≤ state.subsecondOffsetNs.toInt then
    false
  else
    match lastInOrder state.current.utcSeconds state.future with
    | none => false
    | some previous => previous < state.horizonEndUtc

/-- `schedule_crc`. -/
def scheduleCrc (state : SmlTzState) : Word :=
  smlCrc (smlCrc smlCrcInit ((encodeTzState state).take 4)) ((encodeTzState state).drop 8)

inductive TimezoneResult
  | applied
  | unchanged
  | notValid
  | older
  | malformed
  deriving DecidableEq, Repr

/-- The schedule of a payload. -/
def SmlTzState.schedule (state : SmlTzState) : TimezoneSchedule where
  held := true
  source := state.source
  ambiguous := state.flags &&& smlTzAmbiguous != 0
  issuedUtc := state.issuedUtc
  horizonEndUtc := state.horizonEndUtc
  subsecondOffsetNs := state.subsecondOffsetNs
  entries := copyEntry state.current :: state.future.map copyEntry
  crc := scheduleCrc state

/-- `timezone_apply`. -/
def Timezone.apply (zone : Timezone) (state : SmlTzState) : TimezoneResult × Timezone :=
  if state.flags &&& smlTzValid = 0 then (.notValid, zone)
  else if !wellFormed state then (.malformed, zone)
  else if zone.schedule.held && state.source = zone.schedule.source &&
      state.issuedUtc < zone.schedule.issuedUtc then (.older, zone)
  else
    let result : TimezoneResult :=
      if zone.schedule.held && scheduleCrc state = zone.schedule.crc then .unchanged else .applied
    (result, { zone with
      schedule := state.schedule
      changed := zone.changed || result = .applied })

/-- `rounded_seconds`. -/
def roundedSeconds (nanoseconds : BitVec 32) : BitVec 32 :=
  if nsPerSecond / 2 ≤ nanoseconds.toInt then 1
  else if nanoseconds.toInt < -(nsPerSecond / 2) then -1 else 0

/-- `TimezoneOffset`. -/
structure TimezoneOffset where
  offsetS : BitVec 32
  baseOffsetS : BitVec 32
  dstOffsetS : BitVec 32
  dstActive : Bool
  baseAutomatic : Bool
  dstAutomatic : Bool
  stale : Bool
  ambiguous : Bool
  deriving DecidableEq, Repr

def TimezoneEntry.time (entry : TimezoneEntry) : Nat := entry.utcSeconds.toNat

/-- The entry of a schedule in force at a UTC second. -/
def TimezoneSchedule.entryAt (schedule : TimezoneSchedule) (utcSeconds : BitVec 32) :
    TimezoneEntry :=
  Steps.lookup TimezoneEntry.time utcSeconds.toNat (schedule.entries.headD {}) schedule.entries.tail

/-- `timezone_offset_at`. -/
def Timezone.offsetAt (zone : Timezone) (utcSeconds : BitVec 32) : TimezoneOffset :=
  let schedule := zone.schedule
  let entry := schedule.entryAt utcSeconds
  let baseAutomatic := schedule.held && zone.settings.automatic
  let dstAutomatic := schedule.held && zone.settings.dstAutomatic
  let base := if baseAutomatic then entry.baseOffsetS else zone.settings.manualBaseS
  let dst := if dstAutomatic then entry.dstOffsetS.signExtend 32 else zone.settings.manualDstS
  let active := if dstAutomatic then entry.dstActive else zone.settings.manualDstActive
  { offsetS :=
      (if baseAutomatic then roundedSeconds schedule.subsecondOffsetNs else 0) +
        (base + if active then dst else 0)
    baseOffsetS := base
    dstOffsetS := dst
    dstActive := active
    baseAutomatic
    dstAutomatic
    stale := (baseAutomatic || dstAutomatic) && schedule.horizonEndUtc ≠ openEndedUtc &&
      schedule.horizonEndUtc ≤ utcSeconds
    ambiguous := (baseAutomatic || dstAutomatic) && schedule.ambiguous }

/-- An entry as `timezone_state` writes it. -/
def wireEntry (entry : TimezoneEntry) : SmlTzEntry where
  utcSeconds := entry.utcSeconds
  baseOffsetS := entry.baseOffsetS
  dstOffsetS := entry.dstOffsetS
  flags := if entry.dstActive then smlTzEntryDstActive else 0

/-- Future entries in a payload cleared beforehand. -/
def futureEntries (entries : List SmlTzEntry) : Vector SmlTzEntry smlTzTransitionMax :=
  Vector.ofFn fun index => entries.getD index {}

/-- `timezone_state`. -/
def Timezone.state (zone : Timezone) : Option SmlTzState :=
  let schedule := zone.schedule
  if !schedule.held then none
  else
    some
      { flags := smlTzValid ||| (if schedule.ambiguous then smlTzAmbiguous else 0)
        source := schedule.source
        count := BitVec.ofNat 8 (schedule.entries.length - 1)
        issuedUtc := schedule.issuedUtc
        horizonEndUtc := schedule.horizonEndUtc
        subsecondOffsetNs := schedule.subsecondOffsetNs
        current := wireEntry (schedule.entries.headD {})
        next := futureEntries (schedule.entries.tail.map wireEntry) }

theorem future_futureEntries (entries : List SmlTzEntry)
    (few : entries.length ≤ smlTzTransitionMax) :
    (futureEntries entries).toList.take entries.length = entries := by
  apply List.ext_getElem
  · simp [few]
  · intro index inside within
    simp [futureEntries, within]

/-- What `well_formed` asks. -/
theorem wellFormed_iff (state : SmlTzState) :
    wellFormed state = true ↔
      state.count.toNat ≤ smlTzTransitionMax ∧ offsetOk state.current.baseOffsetS = true ∧
        -nsPerSecond < state.subsecondOffsetNs.toInt ∧
        state.subsecondOffsetNs.toInt < nsPerSecond ∧
        ∃ last, lastInOrder state.current.utcSeconds state.future = some last ∧
          last < state.horizonEndUtc := by
  rw [wellFormed]
  cases lastInOrder state.current.utcSeconds state.future with
  | none => simp
  | some last =>
      simp only [Bool.or_eq_true, decide_eq_true_eq, Bool.not_eq_true', Option.some.injEq,
        exists_eq_left', Bool.if_false_left, Bool.and_eq_true, Bool.decide_or,
        decide_eq_false_iff_not, Nat.not_lt, Int.not_le, Bool.not_or, Bool.not_not,
        Bool.decide_eq_false, and_assoc]

/-- The order and the offsets of entries are all the loop looks at. -/
theorem lastInOrder_map (map : SmlTzEntry → SmlTzEntry)
    (keeps : ∀ entry, (map entry).utcSeconds = entry.utcSeconds ∧
      (map entry).baseOffsetS = entry.baseOffsetS)
    (previous : BitVec 32) (entries : List SmlTzEntry) :
    lastInOrder previous (entries.map map) = lastInOrder previous entries := by
  induction entries generalizing previous with
  | nil => rfl
  | cons entry later ih =>
      rw [List.map_cons, lastInOrder, lastInOrder, (keeps entry).1, (keeps entry).2, ih]

/-- A payload `timezone_apply` can make a schedule of. -/
def SmlTzState.Usable (state : SmlTzState) : Prop :=
  state.flags &&& smlTzValid ≠ 0 ∧ wellFormed state = true

/-- Older than what its source sent before. -/
def Timezone.FindsOlder (zone : Timezone) (state : SmlTzState) : Prop :=
  zone.schedule.held = true ∧ state.source = zone.schedule.source ∧
    state.issuedUtc < zone.schedule.issuedUtc

/-- A usable payload is refused as older, or its schedule replaces the one held, as
unchanged if one is held of its checksum. -/
theorem Timezone.apply_usable (zone : Timezone) {state : SmlTzState} (usable : state.Usable) :
    (zone.FindsOlder state ∧ zone.apply state = (.older, zone)) ∨
      (¬zone.FindsOlder state ∧ (zone.apply state).2.schedule = state.schedule ∧
        (zone.apply state).2.settings = zone.settings ∧
        ((zone.apply state).1 = .unchanged ∧ (zone.apply state).2.changed = zone.changed ∧
            zone.schedule.held = true ∧ scheduleCrc state = zone.schedule.crc ∨
          (zone.apply state).1 = .applied ∧ (zone.apply state).2.changed = true ∧
            ¬(zone.schedule.held = true ∧ scheduleCrc state = zone.schedule.crc))) := by
  have valid : ¬state.flags &&& smlTzValid = 0 := usable.1
  rw [Timezone.apply, if_neg valid, usable.2]
  by_cases old : zone.FindsOlder state
  · refine .inl ⟨old, ?_⟩
    obtain ⟨held, source, issued⟩ := old
    simp [held, source, issued]
  · refine .inr ⟨old, ?_⟩
    have fresh : (zone.schedule.held && decide (state.source = zone.schedule.source) &&
        decide (state.issuedUtc < zone.schedule.issuedUtc)) = false := by
      rw [Timezone.FindsOlder] at old
      simpa [and_assoc] using old
    rw [fresh]
    by_cases same : zone.schedule.held = true ∧ scheduleCrc state = zone.schedule.crc
    · simp [same]
    · have differs : (zone.schedule.held && decide (scheduleCrc state = zone.schedule.crc)) =
          false := by
        simpa using same
      simp [differs]
      simpa using same

/-- What is not usable changes nothing. -/
theorem Timezone.apply_unusable (zone : Timezone) {state : SmlTzState} (unusable : ¬state.Usable) :
    ((zone.apply state).1 = .notValid ∨ (zone.apply state).1 = .malformed) ∧
      (zone.apply state).2 = zone := by
  rw [Timezone.apply]
  by_cases valid : state.flags &&& smlTzValid = 0
  · rw [if_pos valid]
    exact ⟨.inl rfl, rfl⟩
  · have malformed : wellFormed state = false :=
      Bool.eq_false_iff.mpr fun formed => unusable ⟨valid, formed⟩
    rw [if_neg valid, malformed]
    exact ⟨.inr rfl, rfl⟩

end GpsClock.TimeZone
