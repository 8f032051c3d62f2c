import GpsClock.Platform.Civil
import GpsClock.Settings.Values
import GpsClock.Sync.Synchroniser
import GpsClock.TimeZone.Timezone

/-! # The items of the menu

`menu.c`'s tables: the sections, and for each item its fields' ranges, the values it
starts from and what it makes of the settings. A store that changes the settings is
given here as the body it makes of the menu's copy (`MenuItem.edit`); what the other
stores do is with the menu itself.
-/

namespace GpsClock.Menu

open Platform Settings TimeZone

/-- `MAX_FIELDS`. -/
def maxFields : Nat := 6

/-- `TUBES_BRIGHTNESS_FULL / 10`. -/
def menuBrightnessStep : Nat := 400

/-- `DISPLAY_MODE_COUNT`. -/
def displayModeCount : Nat := 7

def smlSettingDstActive : Word := 0x0004

def smlSettingAlarmEnabled : Word := 0x0008

def smlSettingBeepEnabled : Word := 0x0010

def smlSettingFormat12h : Word := 0x0020

/-- `sections[]`, by their place. -/
inductive MenuSection
  | top
  | tz
  | dst
  | alarm
  | beep
  | display
  | reset
  deriving DecidableEq, Repr

inductive MenuItem
  | title
  | opens (into : MenuSection)
  | tzAuto
  | tzOffset
  | remote
  | dstAuto
  | dstActive
  | dstOffset
  | alarmOn
  | alarmTime
  | beep
  | hours
  | mode
  | brightness
  | time
  | resetWifi
  | resetSettings
  | resetAll
  | back
  | exit
  deriving DecidableEq, Repr

/-- A section's items. -/
def MenuSection.items : MenuSection → List MenuItem
  | .top =>
      [.title, .opens .tz, .opens .dst, .opens .alarm, .opens .beep, .opens .display, .time,
        .opens .reset, .exit]
  | .tz => [.tzAuto, .tzOffset, .remote, .back]
  | .dst => [.dstAuto, .dstActive, .dstOffset, .back]
  | .alarm => [.alarmOn, .alarmTime, .back]
  | .beep => [.beep, .back]
  | .display => [.hours, .mode, .brightness, .back]
  | .reset => [.resetWifi, .resetSettings, .resetAll, .back]

/-- `SML_MENU_*` of a section. -/
def MenuSection.sml : MenuSection → Byte
  | .top => 0x10
  | .tz => 0x20
  | .dst => 0x30
  | .alarm => 0x40
  | .beep => 0x50
  | .display => 0x60
  | .reset => 0x70

/-- Fields edited in turn; of an item that is not a value, none. -/
def MenuItem.fields : MenuItem → Nat
  | .title | .opens _ | .back | .exit => 0
  | .tzOffset | .alarmTime => 2
  | .time => 6
  | _ => 1

/-- Whether the item has a label: shown while moving through. -/
def MenuItem.labelled : MenuItem → Bool
  | .title | .opens _ | .time | .resetWifi | .resetSettings | .resetAll | .back | .exit => true
  | _ => false

/-- `flag`. -/
def flag (work : SmlSettingsBody) (bit : Word) : Bool :=
  work.flags &&& bit != 0

/-- `set_flag`. -/
def setFlag (work : SmlSettingsBody) (bit : Word) (on : Bool) : SmlSettingsBody :=
  { work with flags := if on then work.flags ||| bit else work.flags &&& ~~~bit }

/-- `values[MAX_FIELDS]`. -/
abbrev Fields := List Int

def Fields.zero : Fields := List.replicate maxFields 0

def Fields.at (values : Fields) (field : Nat) : Int := values.getD field 0

/-- Values loaded over cleared ones. -/
def Fields.of (loaded : Fields) : Fields := (loaded ++ Fields.zero).take maxFields

def toggle (on : Bool) : Fields := .of [if on then 1 else 0]

/-! ## Ranges -/

structure Limits where
  low : Int
  high : Int
  step : Int
  deriving DecidableEq, Repr

/-- `toggle_limits`. -/
def toggleLimits : Limits := ⟨0, 1, 1⟩

/-- `tz_offset_limits`. -/
def tzOffsetLimits (field : Nat) : Limits :=
  if field = 0 then ⟨-12, 14, 1⟩ else ⟨0, 45, 15⟩

/-- `dst_offset_limits`. -/
def dstOffsetLimits : Limits := ⟨-60, 120, 15⟩

/-- `time_of_day_limits`. -/
def timeOfDayLimits (field : Nat) : Limits :=
  ⟨0, if field = 0 then 23 else 59, 1⟩

/-- `mode_limits`. -/
def modeLimits : Limits := ⟨0, displayModeCount - 1, 1⟩

/-- `brightness_limits`. -/
def brightnessLimits : Limits := ⟨0, 10, 1⟩

/-- `days_in_month`. -/
def daysInMonth (year month : Int) : Int :=
  if month = 2 ∧ year.tmod 4 = 0 ∧ (year.tmod 100 ≠ 0 ∨ year.tmod 400 = 0) then 29
  else [31, 28, 31, 30, 31, 30, 31, 31, 30, 31, 30, 31].getD (month - 1).toNat 0

/-- `time_limits`. -/
def timeLimits (values : Fields) (field : Nat) : Limits where
  low := [2000, 1, 1, 0, 0, 0].getD field 0
  high :=
    if field = 2 then daysInMonth (values.at 0) (values.at 1)
    else [2099, 12, 31, 23, 59, 0].getD field 0
  step := 1

/-- `entry->limits`. -/
def MenuItem.limits (item : MenuItem) (values : Fields) (field : Nat) : Limits :=
  match item with
  | .tzOffset => tzOffsetLimits field
  | .dstOffset => dstOffsetLimits
  | .alarmTime => timeOfDayLimits field
  | .mode => modeLimits
  | .brightness => brightnessLimits
  | .time => timeLimits values field
  | _ => toggleLimits

/-! ## Values to start from -/

/-- `tz_offset_load`. -/
def tzOffsetLoad (work : SmlSettingsBody) : Fields :=
  let offset := work.baseOffsetS.toInt
  .of [offset.tdiv 3600, offset.natAbs % 3600 / 900 * 15]

/-- `dst_offset_load`. -/
def dstOffsetLoad (work : SmlSettingsBody) : Fields :=
  let minutes := (work.dstOffsetS.toInt.tdiv 60).tdiv 15 * 15
  .of [if minutes < -60 then -60 else if 120 < minutes then 120 else minutes]

/-- `alarm_time_load`. -/
def alarmTimeLoad (work : SmlSettingsBody) : Fields :=
  .of [work.alarmOffsetS.toNat / 3600, work.alarmOffsetS.toNat / 60 % 60]

/-- `mode_codes`. -/
def modeCodes : List Byte := [1, 2, 3, 4, 5, 6, 10]

/-- `mode_load`: the last mode with the code, if any. -/
def modeLoad (work : SmlSettingsBody) : Fields :=
  .of [((List.range displayModeCount).foldl
    (fun found index => if modeCodes.getD index 0 = work.selectedDisplay then index else found) 0 :
      Nat)]

/-- `brightness_load`. -/
def brightnessLoad (work : SmlSettingsBody) : Fields :=
  let tenths := (work.brightness.toNat + menuBrightnessStep / 2) / menuBrightnessStep
  .of [if flag work smlSettingBriAuto then 0 else if tenths < 1 then 1 else tenths]

/-- `time_load`. -/
def timeLoad (time : Sync.SyncTime) (zone : Timezone) : Fields :=
  let civil : UtcCivil :=
    if time.known then
      utcToCivil (time.utcSeconds + (zone.offsetAt time.utcSeconds).offsetS) false
    else { year := 2026, month := 1, day := 1 }
  .of [civil.year, civil.month, civil.day, civil.hour, civil.minute, 0]

/-- What of the rest of the clock an item's values are loaded from: `remote_tz`'s
answer, if it has one, the time kept and the time zone. -/
structure Outlook where
  remoteTz : Option Bool
  time : Sync.SyncTime
  zone : Timezone

/-- `entry->load`. -/
def MenuItem.load (item : MenuItem) (work : SmlSettingsBody) (outlook : Outlook) : Fields :=
  match item with
  | .tzAuto => toggle (flag work smlSettingTzAuto)
  | .tzOffset => tzOffsetLoad work
  | .remote => toggle (outlook.remoteTz.getD false)
  | .dstAuto => toggle (flag work smlSettingDstAuto)
  | .dstActive => toggle (flag work smlSettingDstActive)
  | .dstOffset => dstOffsetLoad work
  | .alarmOn => toggle (flag work smlSettingAlarmEnabled)
  | .alarmTime => alarmTimeLoad work
  | .beep => toggle (flag work smlSettingBeepEnabled)
  | .hours => toggle (flag work smlSettingFormat12h)
  | .mode => modeLoad work
  | .brightness => brightnessLoad work
  | .time => timeLoad outlook.time outlook.zone
  | _ => .zero

/-! ## What is stored -/

/-- `tz_offset_minutes`: the minutes take the hours' sign. -/
def tzOffsetMinutes (values : Fields) : Int :=
  if values.at 0 < 0 then values.at 0 * 60 - values.at 1 else values.at 0 * 60 + values.at 1

/-- `tz_offset_store`. -/
def tzOffsetStore (values : Fields) (work : SmlSettingsBody) : SmlSettingsBody :=
  { work with baseOffsetS := BitVec.ofInt 32 (tzOffsetMinutes values * 60) }

/-- `dst_offset_store`. -/
def dstOffsetStore (values : Fields) (work : SmlSettingsBody) : SmlSettingsBody :=
  { work with dstOffsetS := BitVec.ofInt 32 (values.at 0 * 60) }

/-- `alarm_time_store`. -/
def alarmTimeStore (values : Fields) (work : SmlSettingsBody) : SmlSettingsBody :=
  { work with alarmOffsetS := BitVec.ofInt 32 (values.at 0 * 3600 + values.at 1 * 60) }

/-- `mode_store`. -/
def modeStore (values : Fields) (work : SmlSettingsBody) : SmlSettingsBody :=
  { work with selectedDisplay := modeCodes.getD (values.at 0).toNat 0 }

/-- `brightness_store`. -/
def brightnessStore (values : Fields) (work : SmlSettingsBody) : SmlSettingsBody :=
  let work := setFlag work smlSettingBriAuto (values.at 0 == 0)
  if values.at 0 ≠ 0 then
    { work with brightness := BitVec.ofInt 16 (values.at 0 * menuBrightnessStep) }
  else work

/-- What an item's store makes of the settings before it writes them, if it does. -/
def MenuItem.edit (item : MenuItem) (values : Fields) (work : SmlSettingsBody) :
    Option SmlSettingsBody :=
  match item with
  | .tzAuto => some (setFlag work smlSettingTzAuto (values.at 0 != 0))
  | .tzOffset => some (tzOffsetStore values work)
  | .dstAuto => some (setFlag work smlSettingDstAuto (values.at 0 != 0))
  | .dstActive => some (setFlag work smlSettingDstActive (values.at 0 != 0))
  | .dstOffset => some (dstOffsetStore values work)
  | .alarmOn => some (setFlag work smlSettingAlarmEnabled (values.at 0 != 0))
  | .alarmTime => some (alarmTimeStore values work)
  | .beep => some (setFlag work smlSettingBeepEnabled (values.at 0 != 0))
  | .hours => some (setFlag work smlSettingFormat12h (values.at 0 != 0))
  | .mode => some (modeStore values work)
  | .brightness => some (brightnessStore values work)
  | _ => none

/-- The local time a confirmed tIME stands for, as `time_store` has it. -/
def timeEntered (values : Fields) : BitVec 32 :=
  utcFromCivil
    { year := (values.at 0).toNat
      month := (values.at 1).toNat
      day := (values.at 2).toNat
      hour := (values.at 3).toNat
      minute := (values.at 4).toNat
      second := 0 }

/-- The UTC that `time_store` takes it for: the offset found near enough, then that
offset's own. -/
def timeEnteredUtc (values : Fields) (zone : Timezone) : BitVec 32 :=
  let entered := timeEntered values
  let utc := entered - (zone.offsetAt entered).offsetS
  entered - (zone.offsetAt utc).offsetS

end GpsClock.Menu
