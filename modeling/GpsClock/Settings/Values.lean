import GpsClock.Sml.Crc

/-! # The clock's settings

`settings.c`: the running settings, what is stored of them, and the revision that
counts their changes. Every change goes through `settings_write`, which accepts a
body or leaves everything as it was, and counts one revision for each body that
differs from the one before.
-/

namespace GpsClock

/-- `SML_ERROR_*`. -/
inductive SmlError
  | none
  | unsupported
  | length
  | argument
  | busy
  | staleRevision
  | schema
  | storage
  | verify
  | state
  deriving DecidableEq, Repr

def SmlError.code : SmlError → Word
  | .none => 0
  | .unsupported => 1
  | .length => 2
  | .argument => 3
  | .busy => 4
  | .staleRevision => 5
  | .schema => 6
  | .storage => 7
  | .verify => 8
  | .state => 9

/-- `SML_SETTINGS_BODY`. -/
structure SmlSettingsBody where
  schemaVersion : Word
  flags : Word
  baseOffsetS : BitVec 32
  dstOffsetS : BitVec 32
  calibrationFoscHz : BitVec 32
  alarmOffsetS : BitVec 32
  deltaEpochUtc : BitVec 32
  brightness : Word
  selectedDisplay : Byte
  reserved : Byte
  deriving DecidableEq, Repr

namespace Settings

def smlSettingsSchema : Word := 1

def smlSettingTzAuto : Word := 0x0001

def smlSettingDstAuto : Word := 0x0002

def smlSettingBriAuto : Word := 0x0040

/-- `FLAGS_DEFINED`. -/
def flagsDefined : Word := 0x00FF

/-- `FCY`, in Hz. -/
def fcy : BitVec 32 := 40000000

def foscLimitHz : BitVec 32 := 40000

def secondsPerDay : BitVec 32 := 86400

def timezoneOffsetLimitS : Int := 86399

def tubesBrightnessFull : Word := 4000

def tubesBrightnessDefault : Word := 2000

def smlDisplayHhmm : Byte := 1

def smlDisplayDelta : Byte := 6

def smlDisplayUncertainty : Byte := 10

/-- `SML_DISPLAY_SELECTABLE`. -/
def smlDisplaySelectable (value : Byte) : Bool :=
  (smlDisplayHhmm ≤ value && value ≤ smlDisplayDelta) || value == smlDisplayUncertainty

def smlSettingsValid : Word := 0x0001

def smlSettingsDirty : Word := 0x0002

def smlSettingsDefaults : Word := 0x0004

def debugAll : Word := 0x01FF

/-- `settings_defaults`. -/
def settingsDefaults : SmlSettingsBody where
  schemaVersion := smlSettingsSchema
  flags := smlSettingTzAuto ||| smlSettingDstAuto ||| smlSettingBriAuto
  baseOffsetS := 0
  dstOffsetS := 0
  calibrationFoscHz := fcy
  alarmOffsetS := 0
  deltaEpochUtc := 0
  brightness := tubesBrightnessDefault
  selectedDisplay := smlDisplayHhmm
  reserved := 0

/-- `offset_ok`. -/
def offsetOk (offsetS : BitVec 32) : Bool :=
  -timezoneOffsetLimitS ≤ offsetS.toInt && offsetS.toInt ≤ timezoneOffsetLimitS

/-- `settings_check`. -/
def settingsCheck (body : SmlSettingsBody) : SmlError :=
  if body.schemaVersion ≠ smlSettingsSchema then .schema
  else if !smlDisplaySelectable body.selectedDisplay || body.flags &&& ~~~flagsDefined != 0 ||
      body.reserved != 0 || !offsetOk body.baseOffsetS || !offsetOk body.dstOffsetS ||
      body.calibrationFoscHz < fcy - foscLimitHz || body.calibrationFoscHz > fcy + foscLimitHz ||
      body.alarmOffsetS ≥ secondsPerDay || body.brightness > tubesBrightnessFull then .argument
  else .none

/-- `Values`. -/
structure Values where
  body : SmlSettingsBody
  debugMask : Word
  deriving DecidableEq, Repr

/-- The module's state, as far as it decides what the link sees. -/
structure State where
  running : Values
  stored : Values
  revision : BitVec 32
  haveRecord : Bool
  saveRequested : Bool
  saveError : SmlError
  deriving DecidableEq, Repr

/-- `settings_flags`. -/
def State.settingsFlags (settings : State) : Word :=
  smlSettingsValid |||
    (if settings.running ≠ settings.stored then smlSettingsDirty else 0) |||
    (if settings.running.body = settingsDefaults then smlSettingsDefaults else 0)

/-- `settings_write`. -/
def State.settingsWrite (settings : State) (body : SmlSettingsBody) : SmlError × State :=
  if settingsCheck body ≠ .none then (settingsCheck body, settings)
  else if body ≠ settings.running.body then
    (.none,
      { settings with
        running := { settings.running with body := body }
        revision := settings.revision + 1 })
  else (.none, settings)

/-- `settings_set_debug`. -/
def State.settingsSetDebug (settings : State) (mask : Word) : State :=
  { settings with running := { settings.running with debugMask := mask &&& debugAll } }

/-- `settings_restore_defaults`. -/
def State.settingsRestoreDefaults (settings : State) : State :=
  (settings.settingsWrite settingsDefaults).2.settingsSetDebug 0

/-- `settings_save`. -/
def State.settingsSave (settings : State) : State :=
  { settings with saveRequested := true }

/-- `save_settings`, `result` being the store's. -/
def State.saveSettings (settings : State) (result : SmlError) : State :=
  let asked := { settings with saveRequested := false }
  if settings.settingsFlags &&& smlSettingsDirty = 0 && settings.haveRecord then
    { asked with saveError := .none }
  else if result = .none then
    { asked with saveError := .none, stored := settings.running, haveRecord := true }
  else { asked with saveError := result }

/-- The defaults pass their own check. -/
theorem settingsCheck_settingsDefaults : settingsCheck settingsDefaults = .none := by
  decide

/-- A write is refused and changes nothing, or makes its body the running one and
counts a revision if that is another. -/
theorem State.settingsWrite_cases (settings : State) (body : SmlSettingsBody) :
    (settingsCheck body ≠ .none ∧ settings.settingsWrite body = (settingsCheck body, settings)) ∨
      (settingsCheck body = .none ∧ body = settings.running.body ∧
        settings.settingsWrite body = (.none, settings)) ∨
      (settingsCheck body = .none ∧ body ≠ settings.running.body ∧
        settings.settingsWrite body =
          (.none, { settings with
            running := { settings.running with body := body }
            revision := settings.revision + 1 })) := by
  by_cases valid : settingsCheck body = .none
  · by_cases same : body = settings.running.body
    · refine .inr (.inl ⟨valid, same, ?_⟩)
      rw [State.settingsWrite, if_neg (not_not.mpr valid), if_neg (not_not.mpr same)]
    · refine .inr (.inr ⟨valid, same, ?_⟩)
      rw [State.settingsWrite, if_neg (not_not.mpr valid), if_pos same]
  · refine .inl ⟨valid, ?_⟩
    rw [State.settingsWrite, if_pos valid]

/-- What any step does to the settings: nothing that counts as a change, or one
change of body and one revision. -/
def Moves (before after : State) : Prop :=
  (after.revision = before.revision ∧ after.running.body = before.running.body) ∨
    (after.running.body ≠ before.running.body ∧ after.revision = before.revision + 1)

theorem Moves.refl (settings : State) : Moves settings settings := .inl ⟨rfl, rfl⟩

theorem State.settingsWrite_moves (settings : State) (body : SmlSettingsBody) :
    Moves settings (settings.settingsWrite body).2 := by
  obtain ⟨_, same⟩ | ⟨_, _, same⟩ | ⟨_, differs, changed⟩ := settings.settingsWrite_cases body
  · rw [same]
    exact .refl settings
  · rw [same]
    exact .refl settings
  · rw [changed]
    exact .inr ⟨differs, rfl⟩

theorem State.settingsRestoreDefaults_moves (settings : State) :
    Moves settings settings.settingsRestoreDefaults :=
  settings.settingsWrite_moves settingsDefaults

theorem State.saveSettings_moves (settings : State) (result : SmlError) :
    Moves settings (settings.saveSettings result) := by
  unfold State.saveSettings
  simp only
  split
  · exact .inl ⟨rfl, rfl⟩
  · split <;> exact .inl ⟨rfl, rfl⟩

end Settings

end GpsClock
