import GpsClock.Lib.Machine
import GpsClock.Settings.Records

/-! # Settings over a restart

The running settings and the record the store holds of them, through any history
of changes, saves and restarts, the store keeping the record it last accepted.
What a restart brings back is always what the settings hold as stored
(`GpsClock.Settings.Persisted.Valid`), so settings shown as not dirty survive it.
-/

namespace GpsClock.Settings

open Sml
open Store (StoreResult)

/-- `store_error`. -/
def storeError : StoreResult → SmlError
  | .ok => .none
  | .verify => .verify
  | _ => .storage

/-- The settings, and the settings record in the store. -/
structure Persisted where
  settings : State
  record : Option (List Byte)

/-- `save_settings`, `result` being the store's if it is asked to write. -/
def Persisted.saveSettings (clock : Persisted) (result : StoreResult) : Persisted where
  settings := clock.settings.saveSettings (storeError result)
  record :=
    if clock.settings.settingsFlags &&& smlSettingsDirty = 0 && clock.settings.haveRecord then
      clock.record
    else if storeError result = .none then
      some (encodeRecord clock.settings.running clock.settings.revision)
    else clock.record

inductive Act
  /-- `settings_write`. -/
  | write (body : SmlSettingsBody)
  /-- `settings_set_debug`. -/
  | setDebug (mask : Word)
  /-- `settings_restore_defaults`. -/
  | restoreDefaults
  /-- `settings_save`. -/
  | save
  /-- `settings_service` at a quiet moment, as far as a save asked for goes. -/
  | service (result : StoreResult)
  /-- A reset, and `settings_init`. -/
  | restart
  deriving DecidableEq, Repr

def Persisted.step (clock : Persisted) : Act → Persisted
  | .write body => { clock with settings := (clock.settings.settingsWrite body).2 }
  | .setDebug mask => { clock with settings := clock.settings.settingsSetDebug mask }
  | .restoreDefaults => { clock with settings := clock.settings.settingsRestoreDefaults }
  | .save => { clock with settings := clock.settings.settingsSave }
  | .service result => if clock.settings.saveRequested then clock.saveSettings result else clock
  | .restart => { clock with settings := settingsInit clock.record }

/-- The clock's settings, from a start-up over any record on. -/
def persistence : Machine Persisted Act where
  start clock := clock.settings = settingsInit clock.record
  step := Persisted.step

/-- Values a record holds whole. -/
structure Values.Proper (values : Values) : Prop where
  checked : settingsCheck values.body = .none
  masked : values.debugMask &&& debugAll = values.debugMask

/-- The running settings are proper, and what is held as stored is what a restart
brings back. -/
structure Persisted.Valid (clock : Persisted) : Prop where
  proper : clock.settings.running.Proper
  back : (settingsInit clock.record).running = clock.settings.stored

/-- Settings show as not dirty exactly when they are those held as stored. -/
theorem State.dirty_clear (settings : State) :
    settings.settingsFlags &&& smlSettingsDirty = 0 ↔ settings.running = settings.stored := by
  rw [State.settingsFlags]
  by_cases same : settings.running = settings.stored
  · rw [if_neg (not_not.mpr same)]
    refine iff_of_true ?_ same
    split <;> decide
  · rw [if_pos same]
    refine iff_of_false ?_ same
    split <;> decide

theorem masked_masked (mask : Word) : mask &&& debugAll &&& debugAll = mask &&& debugAll := by
  rw [BitVec.and_assoc, BitVec.and_self]

/-- A record that reads at all reads as proper values. -/
theorem readRecord_proper {held : Option (List Byte)} {values : Values} {revision : BitVec 32}
    (read : readRecord held = .record values revision) : values.Proper := by
  rw [readRecord] at read
  split at read
  · cases read
  · split at read
    · cases read
    · dsimp only at read
      split at read
      · cases read
      · next checked =>
          cases read
          exact ⟨not_not.mp checked, masked_masked _⟩

theorem proper_defaults : Values.Proper { body := settingsDefaults, debugMask := 0 } :=
  ⟨settingsCheck_settingsDefaults, by decide⟩

/-- What start-up puts in force is proper, and is what it holds as stored. -/
theorem settingsInit_spec (held : Option (List Byte)) :
    (settingsInit held).running.Proper ∧
      (settingsInit held).stored = (settingsInit held).running := by
  rw [settingsInit]
  split
  · next read => exact ⟨readRecord_proper read, rfl⟩
  · exact ⟨proper_defaults, rfl⟩

theorem settingsInit_encodeRecord (values : Values) (revision : BitVec 32)
    (proper : values.Proper) :
    (settingsInit (some (encodeRecord values revision))).running = values ∧
      (settingsInit (some (encodeRecord values revision))).revision = revision := by
  rw [settingsInit, readRecord_encodeRecord values revision proper.checked, proper.masked]
  exact ⟨rfl, rfl⟩

theorem State.settingsWrite_proper {settings : State} (proper : settings.running.Proper)
    (body : SmlSettingsBody) :
    (settings.settingsWrite body).2.running.Proper ∧
      (settings.settingsWrite body).2.stored = settings.stored := by
  obtain ⟨_, same⟩ | ⟨_, _, same⟩ | ⟨checked, _, changed⟩ := settings.settingsWrite_cases body
  · rw [same]
    exact ⟨proper, rfl⟩
  · rw [same]
    exact ⟨proper, rfl⟩
  · rw [changed]
    exact ⟨⟨checked, proper.masked⟩, rfl⟩

/-- A save leaves everything running as it was, and either leaves what is stored or
stores what is running. -/
theorem Persisted.saveSettings_spec (clock : Persisted) (result : StoreResult) :
    (clock.saveSettings result).settings.running = clock.settings.running ∧
      (clock.saveSettings result).settings.revision = clock.settings.revision ∧
      ((clock.saveSettings result).record = clock.record ∧
          (clock.saveSettings result).settings.stored = clock.settings.stored ∨
        (clock.saveSettings result).record =
            some (encodeRecord clock.settings.running clock.settings.revision) ∧
          (clock.saveSettings result).settings.stored = clock.settings.running) := by
  rw [Persisted.saveSettings, State.saveSettings]
  dsimp only
  by_cases unchanged :
      (clock.settings.settingsFlags &&& smlSettingsDirty = 0 && clock.settings.haveRecord) = true
  · rw [if_pos unchanged, if_pos unchanged]
    exact ⟨rfl, rfl, .inl ⟨rfl, rfl⟩⟩
  · rw [if_neg unchanged, if_neg unchanged]
    by_cases written : storeError result = .none
    · rw [if_pos written, if_pos written]
      exact ⟨rfl, rfl, .inr ⟨rfl, rfl⟩⟩
    · rw [if_neg written, if_neg written]
      exact ⟨rfl, rfl, .inl ⟨rfl, rfl⟩⟩

theorem Persisted.Valid.start {clock : Persisted}
    (started : clock.settings = settingsInit clock.record) : clock.Valid := by
  obtain ⟨proper, stored⟩ := settingsInit_spec clock.record
  rw [← started] at proper stored
  exact ⟨proper, by rw [← started, stored]⟩

theorem Persisted.Valid.step {clock : Persisted} (valid : clock.Valid) (act : Act) :
    (clock.step act).Valid := by
  cases act with
  | write body =>
      obtain ⟨proper, stored⟩ := State.settingsWrite_proper valid.proper body
      exact ⟨proper, valid.back.trans stored.symm⟩
  | setDebug mask => exact ⟨⟨valid.proper.checked, masked_masked mask⟩, valid.back⟩
  | restoreDefaults =>
      obtain ⟨proper, stored⟩ := State.settingsWrite_proper valid.proper settingsDefaults
      exact ⟨⟨proper.checked, masked_masked 0⟩, valid.back.trans stored.symm⟩
  | save => exact ⟨valid.proper, valid.back⟩
  | service result =>
      rw [Persisted.step]
      split
      · obtain ⟨running, _, ⟨record, stored⟩ | ⟨record, stored⟩⟩ := clock.saveSettings_spec result
        · exact ⟨by rw [running]; exact valid.proper, by rw [record, stored]; exact valid.back⟩
        · refine ⟨by rw [running]; exact valid.proper, ?_⟩
          rw [record, stored, (settingsInit_encodeRecord _ _ valid.proper).1]
      · exact valid
  | restart => exact .start rfl

/-- What a restart brings back is what is held as stored, in every history. -/
theorem persistence_valid :
    persistence.Invariant (fun _ _ => True) Persisted.Valid where
  start _ started := .start started
  step _ act valid _ := valid.step act

/-- **Settings survive a restart as reported.** In every history of changes, saves
that succeed or fail and restarts, from any record at the first, settings shown as
not dirty are those a restart brings back. And each record reads back as what was
encoded: any settings that pass the check, any oscillator offset within the limit,
and any RTC anchor within 2^31 seconds of either sign, rate and last write. -/
theorem settings_survive_restart :
    (∀ clock, persistence.Reachable (fun _ _ => True) clock →
      clock.settings.settingsFlags &&& smlSettingsDirty = 0 →
      (clock.step .restart).settings.running = clock.settings.running) ∧
    (∀ clock, persistence.Reachable (fun _ _ => True) clock →
      readRecord (some (encodeRecord clock.settings.running clock.settings.revision)) =
        .record clock.settings.running clock.settings.revision) ∧
    (∀ values revision, settingsCheck values.body = .none →
      readRecord (some (encodeRecord values revision)) =
        .record { values with debugMask := values.debugMask &&& debugAll } revision) ∧
    (∀ offsetQ16 epochs : BitVec 32, -settingsOscillatorLimitQ16 ≤ offsetQ16.toInt →
      offsetQ16.toInt ≤ settingsOscillatorLimitQ16 →
      readOscillator (some (encodeOscillator offsetQ16 epochs)) = some (offsetQ16, epochs)) ∧
    (∀ kept : SourceRtcKept, -(2 ^ 31 * 1000000000) < kept.anchor.offsetNs →
      kept.anchor.offsetNs < 2 ^ 31 * 1000000000 →
      readRtc (some (encodeRtc kept)) = some kept) := by
  refine ⟨fun clock reached clear => ?_, fun clock reached => ?_, readRecord_encodeRecord,
    readOscillator_encodeOscillator, readRtc_encodeRtc⟩
  · have valid := persistence_valid.reachable reached
    rw [(clock.settings.dirty_clear).mp clear]
    exact valid.back
  · have valid := persistence_valid.reachable reached
    rw [readRecord_encodeRecord _ _ valid.proper.checked, valid.proper.masked]

end GpsClock.Settings
