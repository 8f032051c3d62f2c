import GpsClock.Settings.Records
import GpsClock.TimeZone.Timezone

/-! # The schedule over a restart

A schedule is stored as the TZ-STATE that would set it and applied again at
start-up. It comes back whole but for the checksum, which is now that of the
payload rebuilt (`GpsClock.TimeZone.restoreTimezone_saveTimezone`), so the offsets
are the same at every second. The payload it came in as is judged the same schedule
again if it clears what the protocol reserves
(`GpsClock.TimeZone.schedule_survives_restart`).
-/

namespace GpsClock.TimeZone

open Settings (storeRead)
open Sml

def smlTzStateBytes : Nat := 124

/-- The record of `save_timezone`. -/
def Timezone.saveTimezone (zone : Timezone) : Option (List Byte) :=
  zone.state.map encodeTzState

/-- `restore_timezone`, over what the store holds. -/
def Timezone.restoreTimezone (zone : Timezone) (held : Option (List Byte)) : Timezone :=
  match storeRead held smlTzStateBytes with
  | none => zone
  | some record =>
      if record.length ≠ smlTzStateBytes then zone
      else { (zone.apply (decodeTzState record)).2 with changed := false }

/-- The payload rebuilt from a schedule: reserved bits, and entries not in use, clear. -/
def SmlTzState.rebuilt (state : SmlTzState) : SmlTzState :=
  { state with
    flags := smlTzValid ||| (if state.flags &&& smlTzAmbiguous != 0 then smlTzAmbiguous else 0)
    current := wireEntry (copyEntry state.current)
    next := futureEntries (state.future.map fun entry => wireEntry (copyEntry entry)) }

/-- A payload that clears what the protocol reserves. -/
def SmlTzState.Canonical (state : SmlTzState) : Prop := state.rebuilt = state

instance (state : SmlTzState) : Decidable state.Canonical :=
  inferInstanceAs (Decidable (state.rebuilt = state))

theorem copyEntry_wireEntry (entry : TimezoneEntry) : copyEntry (wireEntry entry) = entry := by
  cases entry with
  | mk utcSeconds baseOffsetS dstOffsetS dstActive =>
      cases dstActive <;> simp [copyEntry, wireEntry, smlTzEntryDstActive]

theorem length_future {state : SmlTzState} (formed : wellFormed state = true) :
    state.future.length = state.count.toNat := by
  have count := ((wellFormed_iff state).mp formed).1
  rw [SmlTzState.future, List.length_take, Vector.length_toList, Nat.min_eq_left count]

theorem future_rebuilt {state : SmlTzState} (formed : wellFormed state = true) :
    state.rebuilt.future = state.future.map fun entry => wireEntry (copyEntry entry) := by
  have few := ((wellFormed_iff state).mp formed).1
  have length := length_future formed
  have kept := future_futureEntries (state.future.map fun entry => wireEntry (copyEntry entry))
    (by rw [List.length_map, length]; exact few)
  rw [List.length_map, length] at kept
  exact kept

/-- The payload rebuilt is usable. -/
theorem SmlTzState.Usable.rebuilt {state : SmlTzState} (usable : state.Usable) :
    state.rebuilt.Usable := by
  refine ⟨?_, ?_⟩
  · simp only [SmlTzState.rebuilt]
    split <;> decide
  · obtain ⟨count, base, low, high, last, order, horizon⟩ := (wellFormed_iff state).mp usable.2
    refine (wellFormed_iff state.rebuilt).mpr ⟨count, base, low, high, last, ?_, horizon⟩
    rw [future_rebuilt usable.2]
    exact (lastInOrder_map (fun entry => wireEntry (copyEntry entry)) (fun _ => ⟨rfl, rfl⟩) _
      _).trans order

/-- The payload rebuilt makes the same schedule, but for the checksum. -/
theorem schedule_rebuilt {state : SmlTzState} (formed : wellFormed state = true) :
    state.rebuilt.schedule = { state.schedule with crc := scheduleCrc state.rebuilt } := by
  have future : state.rebuilt.future.map copyEntry = state.future.map copyEntry := by
    rw [future_rebuilt formed, List.map_map]
    exact List.map_congr_left fun entry _ => copyEntry_wireEntry (copyEntry entry)
  have ambiguous : (state.rebuilt.flags &&& smlTzAmbiguous != 0) =
      (state.flags &&& smlTzAmbiguous != 0) := by
    simp only [SmlTzState.rebuilt]
    cases state.flags &&& smlTzAmbiguous != 0 <;> rfl
  have current : copyEntry state.rebuilt.current = copyEntry state.current :=
    copyEntry_wireEntry (copyEntry state.current)
  rw [SmlTzState.schedule, future, ambiguous, current]
  rfl

/-- A schedule gives back the payload rebuilt. -/
theorem state_of_schedule {zone : Timezone} {state : SmlTzState} (formed : wellFormed state = true)
    (same : zone.schedule = state.schedule) : zone.state = some state.rebuilt := by
  have length := length_future formed
  rw [Timezone.state, same]
  simp [SmlTzState.schedule, SmlTzState.rebuilt, length, Function.comp_def]

theorem length_encodeTzState (state : SmlTzState) :
    (encodeTzState state).length = smlTzStateBytes := by
  rw [encodeTzState, encodedBytes, List.length_map, List.length_range]
  rfl

/-- The checksum leaves out when the payload was issued. -/
theorem scheduleCrc_issued (state : SmlTzState) (issued : BitVec 32) :
    scheduleCrc { state with issuedUtc := issued } = scheduleCrc state := by
  have wire (payload : SmlTzState) : encodeTzState payload =
      nativeBytes .big layoutTzState payload.fields :=
    encodedBytes_nativeBytes .little (by decide) (by decide) (fits_state payload)
  rw [scheduleCrc, scheduleCrc, wire, wire]
  rfl

/-- **What is stored comes back**: the schedule, under the payload rebuilt's checksum,
with nothing to write. -/
theorem restoreTimezone_saveTimezone {zone : Timezone} (fresh : Timezone) {state : SmlTzState}
    (usable : state.Usable) (same : zone.schedule = state.schedule)
    (none_held : fresh.schedule.held = false) :
    zone.saveTimezone = some (encodeTzState state.rebuilt) ∧
      fresh.restoreTimezone zone.saveTimezone =
        { fresh with
          schedule := { state.schedule with crc := scheduleCrc state.rebuilt }
          changed := false } := by
  have saved : zone.saveTimezone = some (encodeTzState state.rebuilt) := by
    rw [Timezone.saveTimezone, state_of_schedule usable.2 same]
    rfl
  have length := length_encodeTzState state.rebuilt
  have held : storeRead (some (encodeTzState state.rebuilt)) smlTzStateBytes =
      some (encodeTzState state.rebuilt) := by
    simp [storeRead, length]
  refine ⟨saved, ?_⟩
  obtain ⟨older, _⟩ | ⟨_, schedule, settings, _⟩ := fresh.apply_usable usable.rebuilt
  · rw [older.1] at none_held
    cases none_held
  · rw [saved, Timezone.restoreTimezone, held]
    simp only [length, ne_eq, not_true_eq_false, ↓reduceIte, decodeTzState_encodeTzState, schedule,
      settings, schedule_rebuilt usable.2]

/-- The PIC's time zone at start-up, its settings put in force. -/
def timezoneStart (settings : TimezoneSettings) : Timezone := { timezoneInit with settings }

/-- A payload accepted is usable, and its schedule is held. -/
theorem Timezone.apply_accepted {zone : Timezone} {state : SmlTzState}
    (accepted : (zone.apply state).1 = .applied ∨ (zone.apply state).1 = .unchanged) :
    state.Usable ∧ (zone.apply state).2.schedule = state.schedule := by
  by_cases usable : state.Usable
  · obtain ⟨_, older⟩ | ⟨_, schedule, _⟩ := zone.apply_usable usable
    · rw [older] at accepted
      obtain impossible | impossible := accepted <;> cases impossible
    · exact ⟨usable, schedule⟩
  · obtain ⟨refused, _⟩ := zone.apply_unusable usable
    obtain accepted | accepted := accepted <;> rw [accepted] at refused <;>
      obtain impossible | impossible := refused <;> cases impossible

/-- A payload sent again, over a schedule that is its own but for the checksum: older if
issued before, else unchanged where the checksums agree. -/
theorem Timezone.apply_resent (zone : Timezone) {state : SmlTzState} (crc : Word)
    (usable : state.Usable) (same : zone.schedule = { state.schedule with crc })
    (issued : BitVec 32) :
    (issued < state.issuedUtc →
        zone.apply { state with issuedUtc := issued } = (.older, zone)) ∧
      (state.issuedUtc ≤ issued →
        ((zone.apply { state with issuedUtc := issued }).1 = .unchanged ↔
          scheduleCrc state = crc) ∧
        ((zone.apply { state with issuedUtc := issued }).1 = .unchanged →
          (zone.apply { state with issuedUtc := issued }).2.changed = zone.changed)) := by
  have resent : ({ state with issuedUtc := issued } : SmlTzState).Usable := usable
  have held : zone.schedule.held = true := by
    rw [same]
    rfl
  have checksum : zone.schedule.crc = crc := by rw [same]
  have issuedHeld : zone.schedule.issuedUtc = state.issuedUtc := by
    rw [same]
    rfl
  have source : state.source = zone.schedule.source := by
    rw [same]
    rfl
  constructor
  · intro before
    have older : zone.FindsOlder { state with issuedUtc := issued } :=
      ⟨held, source, by rw [issuedHeld]; exact before⟩
    obtain ⟨_, refused⟩ | ⟨fresh, _⟩ := zone.apply_usable resent
    · exact refused
    · exact absurd older fresh
  · intro after
    have fresh : ¬zone.FindsOlder { state with issuedUtc := issued } := by
      rintro ⟨_, _, before⟩
      rw [issuedHeld] at before
      exact BitVec.not_lt.mpr after before
    obtain ⟨older, _⟩ | ⟨_, _, _, ⟨unchanged, changed, _, agree⟩ | ⟨applied, _, differ⟩⟩ :=
      zone.apply_usable resent
    · exact absurd older fresh
    · rw [scheduleCrc_issued, checksum] at agree
      exact ⟨iff_of_true unchanged agree, fun _ => changed⟩
    · rw [scheduleCrc_issued, checksum] at differ
      have other : (zone.apply { state with issuedUtc := issued }).1 ≠ .unchanged := by
        rw [applied]
        nofun
      exact ⟨iff_of_false other fun agree => differ ⟨held, agree⟩, fun claimed =>
        absurd claimed other⟩

/-- The checksum plays no part in the offsets. -/
theorem offsetAt_crc (zone : Timezone) {schedule : TimezoneSchedule} (settings : TimezoneSettings)
    (same : zone.schedule = schedule) (crc : Word) (utcSeconds : BitVec 32) :
    ({ zone with settings } : Timezone).offsetAt utcSeconds =
      ({ zone with settings, schedule := { schedule with crc } } : Timezone).offsetAt
        utcSeconds := by
  rw [← same]
  rfl

/-- **The schedule over a restart.** Any payload accepted, stored and restored gives the
same offsets at every second under any settings, and nothing to write. Sent again, it
is older if issued before the one held, and otherwise unchanged: before the restart
always, and after it if it clears what the protocol reserves. -/
theorem schedule_survives_restart (zone : Timezone) (atStart : TimezoneSettings)
    (state : SmlTzState)
    (accepted : (zone.apply state).1 = .applied ∨ (zone.apply state).1 = .unchanged) :
    let held := (zone.apply state).2
    let restored := (timezoneStart atStart).restoreTimezone held.saveTimezone
    (∀ settings utcSeconds, ({ restored with settings } : Timezone).offsetAt utcSeconds =
        ({ held with settings } : Timezone).offsetAt utcSeconds) ∧
      restored.changed = false ∧
      ∀ issued,
        (issued < state.issuedUtc →
          held.apply { state with issuedUtc := issued } = (.older, held) ∧
            restored.apply { state with issuedUtc := issued } = (.older, restored)) ∧
        (state.issuedUtc ≤ issued →
          ((held.apply { state with issuedUtc := issued }).1 = .unchanged ∧
              (held.apply { state with issuedUtc := issued }).2.changed = held.changed) ∧
            (state.Canonical →
              (restored.apply { state with issuedUtc := issued }).1 = .unchanged ∧
                (restored.apply { state with issuedUtc := issued }).2.changed = false)) := by
  intro held restored
  obtain ⟨usable, same⟩ := Timezone.apply_accepted accepted
  have back : restored = { timezoneStart atStart with
      schedule := { state.schedule with crc := scheduleCrc state.rebuilt }
      changed := false } :=
    (restoreTimezone_saveTimezone (timezoneStart atStart) usable same rfl).2
  refine ⟨fun settings utcSeconds => ?_, by rw [back], fun issued => ?_⟩
  · rw [offsetAt_crc held settings same (scheduleCrc state.rebuilt), back]
    rfl
  · obtain ⟨olderHeld, laterHeld⟩ := held.apply_resent (scheduleCrc state) usable same issued
    obtain ⟨olderBack, laterBack⟩ := restored.apply_resent
      (scheduleCrc state.rebuilt) usable (by rw [back]) issued
    refine ⟨fun before => ⟨olderHeld before, olderBack before⟩, fun after => ⟨?_, ?_⟩⟩
    · obtain ⟨judged, changed⟩ := laterHeld after
      have unchanged := judged.mpr rfl
      exact ⟨unchanged, changed unchanged⟩
    · intro canonical
      obtain ⟨judged, changed⟩ := laterBack after
      have unchanged := judged.mpr (by rw [canonical])
      refine ⟨unchanged, (changed unchanged).trans ?_⟩
      rw [back]

/-- A payload with flags beside VALID and no future entries. -/
def plainState (flags : Word) : SmlTzState where
  flags := flags
  source := smlTzSourceGeoip
  count := 0
  issuedUtc := 1000
  horizonEndUtc := openEndedUtc
  subsecondOffsetNs := 0
  current := {}
  next := Vector.replicate _ {}

theorem plainState_accepted :
    (timezoneInit.apply (plainState smlTzValid)).1 = .applied ∧
      (timezoneInit.apply (plainState (smlTzValid ||| 0x8000))).1 = .applied := by
  decide

theorem schedule_survives_restart_plain :
    let held := (timezoneInit.apply (plainState smlTzValid)).2
    ((timezoneStart timezoneInit.settings).restoreTimezone held.saveTimezone).changed = false :=
  (schedule_survives_restart timezoneInit timezoneInit.settings (plainState smlTzValid)
    (.inl plainState_accepted.1)).2.1

/-- **A payload sent again is not always unchanged**: not when issued before the one held,
and not after a restart when it set a bit the protocol reserves. -/
theorem resent_not_unchanged :
    (¬∀ (zone : Timezone) (state : SmlTzState) (issued : BitVec 32),
      (zone.apply state).1 = .applied ∨ (zone.apply state).1 = .unchanged →
      ((zone.apply state).2.apply { state with issuedUtc := issued }).1 = .unchanged) ∧
    ¬∀ (zone : Timezone) (atStart : TimezoneSettings) (state : SmlTzState) (issued : BitVec 32),
      (zone.apply state).1 = .applied ∨ (zone.apply state).1 = .unchanged →
      state.issuedUtc ≤ issued →
      (((timezoneStart atStart).restoreTimezone (zone.apply state).2.saveTimezone).apply
        { state with issuedUtc := issued }).1 = .unchanged := by
  constructor
  · intro claimed
    have unchanged := claimed timezoneInit (plainState smlTzValid) 0 (.inl plainState_accepted.1)
    obtain ⟨usable, same⟩ := Timezone.apply_accepted (.inl plainState_accepted.1)
    rw [(Timezone.apply_resent _ _ usable same 0).1 (by decide)] at unchanged
    cases unchanged
  · intro claimed
    have accepted := plainState_accepted.2
    have unchanged := claimed timezoneInit timezoneInit.settings _ 1000 (.inl accepted) (by decide)
    obtain ⟨usable, same⟩ := Timezone.apply_accepted (.inl accepted)
    rw [(restoreTimezone_saveTimezone (timezoneStart timezoneInit.settings) usable same
      rfl).2] at unchanged
    have agree := ((Timezone.apply_resent _ _ usable rfl 1000).2 (by decide)).1.mp unchanged
    exact absurd agree (by decide +kernel)

end GpsClock.TimeZone
