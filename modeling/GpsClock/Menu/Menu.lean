import GpsClock.Lib.Machine
import GpsClock.Menu.Items

/-! # The menu

`menu.c`, with the settings and the synchroniser it works on. Each call of
`menu_service` follows the one button: its edges and how long it has been held say
what is done (`MenuState.press`), and what is done may move through the menu, step the value
being edited, or store it (`Desk.perform`). What is asked of modules not modelled here
is kept as a list of calls, the latest first.
-/

namespace GpsClock.Menu

open Settings Sync TimeZone

def menuLongMs : BitVec 32 := 500

def menuRepeatMs : BitVec 32 := 1200

def menuRepeatPeriodMs : BitVec 32 := 200

def menuCueMs : BitVec 32 := 150

def menuTakeBackMs : BitVec 32 := 120

def menuTimeoutMs : BitVec 32 := 20000

def menuFlashPeriodMs : BitVec 32 := 1000

def menuFlashOnMs : BitVec 32 := 600

def menuNameMs : BitVec 32 := 2000

def menuRtcWriteMs : BitVec 32 := 5000

def smlUserEspSave : Word := 0x8010

def smlUserEspDefaults : Word := 0x8011

def smlUserEspTzRemote : Word := 0x8050

def smlUserEspWifiForget : Word := 0x8060

structure MenuStats where
  opened : BitVec 32 := 0
  timeouts : BitVec 32 := 0
  saves : BitVec 32 := 0
  timeSets : BitVec 32 := 0
  deriving DecidableEq, Repr

/-- What the menu draws over the clock: an item's label, or its values, the field
edited if one is, and whether it is blanked. -/
inductive Overlay
  | label (item : MenuItem)
  | values (item : MenuItem) (values : Fields) (field : Option Nat) (hide : Bool)
  deriving DecidableEq, Repr

/-- The calls made to other modules. -/
inductive MenuCall
  | espRequest (command : Word) (argument : BitVec 32)
  | sourceRtcSet (utcSeconds : BitVec 32)
  | brightnessSetLevel (level : Word)
  | brightnessSetAuto (on : Bool)
  | displayPreview (mode : Option Nat)
  | displaySetOverlay (overlay : Option Overlay)
  | beepsButton
  deriving DecidableEq, Repr

/-- The module's statics. -/
structure MenuState where
  stats : MenuStats := {}
  opened : Bool := false
  place : MenuSection := .top
  item : Nat := 0
  editing : Bool := false
  field : Nat := 0
  values : Fields := .zero
  now : BitVec 32 := 0
  lastActivityMs : BitVec 32 := 0
  flashStartMs : BitVec 32 := 0
  changedMs : BitVec 32 := 0
  waitingRelease : Bool := false
  wasDown : Bool := false
  downMs : BitVec 32 := 0
  downEpoch : BitVec 32 := 0
  downSlot : Nat := 0
  repeating : Bool := false
  lastStepMs : BitVec 32 := 0
  work : SmlSettingsBody := ⟨0, 0, 0, 0, 0, 0, 0, 0, 0, 0⟩
  settingsChanged : Bool := false
  espChanged : Bool := false
  onlyRtc : Bool := true
  rtcPending : Bool := false
  rtcPendingSinceMs : BitVec 32 := 0
  deriving DecidableEq

/-- What `menu_service` is called with, and what the modules not modelled here answer
meanwhile: the ESP's `linked`, `remote_tz` and `request`, the time zone, and whether
`source_rtc_set` takes a time. -/
structure MenuInput where
  nowMs : BitVec 32
  down : Bool
  epoch : BitVec 32
  slot : Nat
  linked : Bool
  remoteTz : Option Bool
  requests : Word → Bool
  zone : Timezone
  rtcTakes : Bool

/-- The menu, with the settings, the synchroniser and the calls made to the rest. -/
structure Desk where
  menu : MenuState
  settings : Settings.State
  sync : Synchroniser
  calls : List MenuCall := []

/-! ## The button -/

/-- What a press comes to. -/
inductive MenuAction
  | nothing
  | moveShort
  | moveLong
  | confirm
  | step (direction : Int) (click : Bool)
  deriving DecidableEq, Repr

namespace MenuState

/-- `current`. -/
def current (menu : MenuState) : MenuItem := menu.place.items.getD menu.item .title

/-- `single_valued`. -/
def singleValued (menu : MenuState) : Bool :=
  let limits := menu.current.limits menu.values menu.field
  limits.low == limits.high

/-- The start of a press, in `follow_button`. -/
def pressed (menu : MenuState) (input : MenuInput) : MenuState :=
  if input.down && !menu.wasDown then
    { menu with
      downMs := input.nowMs
      downEpoch := input.epoch
      downSlot := input.slot
      repeating := false
      lastActivityMs := input.nowMs }
  else menu

/-- `follow_button` while the button is down: what the press, held so long, comes to. -/
def held (menu : MenuState) (input : MenuInput) : MenuState × MenuAction :=
  let held := input.nowMs - menu.downMs
  if !menu.editing then
    if menuLongMs ≤ held then ({ menu with waitingRelease := true }, .moveLong)
    else (menu, .nothing)
  else if menu.singleValued then
    if menuLongMs ≤ held then ({ menu with waitingRelease := true }, .confirm)
    else (menu, .nothing)
  else if !menu.repeating && menuRepeatMs ≤ held then
    ({ menu with repeating := true, lastStepMs := input.nowMs }, .step 1 true)
  else if menu.repeating && menuRepeatPeriodMs ≤ input.nowMs - menu.lastStepMs then
    ({ menu with lastStepMs := input.nowMs }, .step 1 true)
  else (menu, .nothing)

/-- `follow_button` as the button is let go. -/
def released (menu : MenuState) (input : MenuInput) : MenuState × MenuAction :=
  let released := { menu with lastActivityMs := input.nowMs }
  if !menu.editing then (released, .moveShort)
  else if menu.repeating then
    (released,
      if input.nowMs - menu.lastStepMs < menuTakeBackMs then .step (-1) false else .nothing)
  else if input.nowMs - menu.downMs < menuLongMs then (released, .step 1 true)
  else (released, .confirm)

/-- `follow_button`, up to what the press comes to. -/
def press (menu : MenuState) (input : MenuInput) : MenuState × MenuAction :=
  if menu.waitingRelease then
    (if input.down then { menu with wasDown := true }
      else { menu with waitingRelease := false, lastActivityMs := input.nowMs, wasDown := false },
      .nothing)
  else
    let (after, action) :=
      if input.down then (menu.pressed input).held input
      else if menu.wasDown then menu.released input
      else (menu, .nothing)
    ({ after with wasDown := input.down }, action)

end MenuState

namespace Desk

def call (desk : Desk) (call : MenuCall) : Desk := { desk with calls := call :: desk.calls }

/-- `click`. -/
def click (desk : Desk) : Desk := desk.call .beepsButton

/-! ## Storing -/

/-- `write_settings`, the menu's copy having become `body`. -/
def writeSettings (desk : Desk) (body : SmlSettingsBody) : Desk :=
  let written := desk.settings.settingsWrite body
  { desk with
    settings := written.2
    menu :=
      { desk.menu with
        settingsChanged :=
          desk.menu.settingsChanged ||
            (written.1 = .none && written.2.revision ≠ desk.settings.revision)
        work := written.2.running.body } }

/-- `esp_command`. -/
def espCommand (desk : Desk) (command : Word) : Desk := desk.call (.espRequest command 0)

/-- `remote_store`. -/
def remoteStore (desk : Desk) (input : MenuInput) : Desk :=
  let asked :=
    desk.call (.espRequest smlUserEspTzRemote (if desk.menu.values.at 0 ≠ 0 then 1 else 0))
  { asked with
    menu := { desk.menu with
      espChanged := desk.menu.espChanged || input.requests smlUserEspTzRemote } }

/-- `time_store`. -/
def timeStore (desk : Desk) (input : MenuInput) : Desk :=
  let menu := desk.menu
  match desk.sync.syncSetTime (timeEnteredUtc menu.values input.zone) menu.downEpoch
      menu.downSlot with
  | (false, _) => desk
  | (true, sync) =>
      { desk with
        sync := sync
        menu :=
          { menu with
            stats := { menu.stats with timeSets := menu.stats.timeSets + 1 }
            rtcPending := true
            rtcPendingSinceMs := menu.now } }

/-- `reset_pic`. -/
def resetPic (desk : Desk) : Desk :=
  let settings := desk.settings.settingsRestoreDefaults.settingsSave
  { desk with
    settings := settings
    menu :=
      { desk.menu with
        work := settings.running.body
        settingsChanged := false
        stats := { desk.menu.stats with saves := desk.menu.stats.saves + 1 } } }

/-- `reset_all_store`, changed to YES. -/
def resetAll (desk : Desk) : Desk :=
  let reset := ((desk.resetPic.espCommand smlUserEspDefaults).espCommand smlUserEspSave).espCommand
    smlUserEspWifiForget
  { reset with menu := { reset.menu with espChanged := false } }

/-- `entry->store`. -/
def store (desk : Desk) (input : MenuInput) : Desk :=
  let values := desk.menu.values
  match desk.menu.current.edit values desk.menu.work with
  | some body => desk.writeSettings body
  | none =>
      match desk.menu.current with
      | .remote => desk.remoteStore input
      | .time => desk.timeStore input
      | .resetWifi => if values.at 0 ≠ 0 then desk.espCommand smlUserEspWifiForget else desk
      | .resetSettings => if values.at 0 ≠ 0 then desk.resetPic else desk
      | .resetAll => if values.at 0 ≠ 0 then desk.resetAll else desk
      | _ => desk

/-! ## Editing -/

/-- `entry->preview`: `brightness_preview`, for the only item that has one. -/
def preview (desk : Desk) (on : Bool) : Desk :=
  let value := desk.menu.values.at 0
  let work := desk.menu.work
  if desk.menu.current ≠ .brightness then desk
  else if on && value != 0 then
    (desk.call (.brightnessSetLevel (BitVec.ofInt 16 (value * menuBrightnessStep)))).call
      (.brightnessSetAuto false)
  else
    (desk.call (.brightnessSetLevel work.brightness)).call
      (.brightnessSetAuto (on || flag work smlSettingBriAuto))

/-- `stop_editing`. -/
def stopEditing (desk : Desk) : Desk :=
  let stopped := (desk.preview false).call (.displayPreview none)
  { stopped with menu := { desk.menu with editing := false } }

/-- The end of `close_menu`: what was changed is saved. -/
def saveChanges (desk : Desk) : Desk :=
  let saved :=
    if desk.menu.settingsChanged then
      { desk with
        settings := desk.settings.settingsSave
        menu :=
          { desk.menu with
            settingsChanged := false
            stats := { desk.menu.stats with saves := desk.menu.stats.saves + 1 } } }
    else desk
  if desk.menu.espChanged then
    { saved.espCommand smlUserEspSave with menu := { saved.menu with espChanged := false } }
  else saved

/-- `close_menu`. -/
def closeMenu (desk : Desk) : Desk :=
  let stopped := if desk.menu.editing then desk.stopEditing else desk
  let closed := (stopped.call (.displaySetOverlay none)).call (.displayPreview none)
  { closed with menu := { stopped.menu with opened := false } }.saveChanges

/-- The rest of the clock, as a load sees it. -/
def outlook (desk : Desk) (input : MenuInput) : Outlook where
  remoteTz := input.remoteTz
  time := desk.sync.status.time
  zone := input.zone

/-- `start_editing`. -/
def startEditing (desk : Desk) (input : MenuInput) : Desk :=
  let body := desk.settings.running.body
  { desk with
    menu :=
      { desk.menu with
        work := body
        values := desk.menu.current.load body (desk.outlook input)
        editing := true
        field := 0
        changedMs := input.nowMs
        flashStartMs := input.nowMs } }.preview true

/-- `step`. -/
def step (desk : Desk) (direction : Int) (input : MenuInput) : Desk :=
  let menu := desk.menu
  let value := menu.values.at menu.field
  let limits := menu.current.limits menu.values menu.field
  if limits.low = limits.high then desk
  else
    let stepped :=
      if 0 < direction then
        if limits.high < value + limits.step then limits.low else value + limits.step
      else if value - limits.step < limits.low then limits.high
      else value - limits.step
    { desk with
      menu :=
        { menu with
          values := menu.values.set menu.field stepped
          changedMs := input.nowMs
          flashStartMs := input.nowMs } }.preview true

/-- A value brought within a field's range. -/
def within (limits : Limits) (value : Int) : Int :=
  let value := if limits.high < value then limits.high else value
  if value < limits.low then limits.low else value

/-- `confirm`. -/
def confirm (desk : Desk) (input : MenuInput) : Desk :=
  let menu := desk.menu
  let next := menu.field + 1
  if next < menu.current.fields then
    let limits := menu.current.limits menu.values next
    { desk with
      menu :=
        { menu with
          field := next
          values := menu.values.set next (within limits (menu.values.at next))
          flashStartMs := input.nowMs } }
  else (desk.store input).stopEditing

/-! ## Moving through -/

/-- `entry->visible`, and `shown`. -/
def shown (desk : Desk) (input : MenuInput) : MenuItem → Bool
  | .tzOffset => !flag desk.menu.work smlSettingTzAuto
  | .remote => input.remoteTz.isSome
  | .dstActive | .dstOffset => !flag desk.menu.work smlSettingDstAuto
  | .alarmTime => flag desk.menu.work smlSettingAlarmEnabled
  | .time => desk.menu.onlyRtc
  | .resetWifi | .resetAll => input.linked
  | _ => true

/-- The loop of `next_item`. -/
def nextShown (desk : Desk) (input : MenuInput) (index : Nat) : Nat → Nat
  | 0 => index
  | tries + 1 =>
      let items := desk.menu.place.items
      let next := (index + 1) % items.length
      if desk.shown input (items.getD next .title) then next else desk.nextShown input next tries

/-- `next_item`. -/
def nextItem (desk : Desk) (input : MenuInput) (index : Nat) : Nat :=
  desk.nextShown input index desk.menu.place.items.length

/-- `move_short`. -/
def moveShort (desk : Desk) (input : MenuInput) : Desk :=
  { desk with menu := { desk.menu with item := desk.nextItem input desk.menu.item } }

/-- The top section's item that opens a section. -/
def opener (place : MenuSection) : Nat :=
  MenuSection.top.items.findIdx (· == .opens place)

/-- `move_long`. -/
def moveLong (desk : Desk) (input : MenuInput) : Desk :=
  match desk.menu.current with
  | .title | .exit => desk.closeMenu
  | .opens place =>
      let there := { desk with menu := { desk.menu with place := place } }
      let first :=
        if there.shown input (place.items.getD 0 .title) then 0 else there.nextItem input 0
      { there with menu := { there.menu with item := first } }
  | .back =>
      { desk with
        menu := { desk.menu with item := opener desk.menu.place, place := .top } }
  | _ => desk.startEditing input

/-- What a press comes to, done. -/
def perform (desk : Desk) (input : MenuInput) : MenuAction → Desk
  | .nothing => desk
  | .moveShort => desk.click.moveShort input
  | .moveLong => desk.click.moveLong input
  | .confirm => desk.click.confirm input
  | .step direction click => (if click then desk.click else desk).step direction input

/-- `follow_button`. -/
def followButton (desk : Desk) (input : MenuInput) : Desk :=
  let pressed := desk.menu.press input
  { desk with menu := pressed.1 }.perform input pressed.2

/-! ## The interface -/

/-- `render`. -/
def render (desk : Desk) (input : MenuInput) : Desk :=
  let menu := desk.menu
  let held := input.nowMs - menu.downMs
  let longHeld := menu.editing && input.down && !menu.waitingRelease && !menu.repeating &&
    menuLongMs ≤ held
  let cue := longHeld && held < menuLongMs + menuCueMs
  let steady := longHeld && !cue
  let hide := cue ||
    (menu.editing && !steady &&
      menuFlashOnMs ≤ (input.nowMs - menu.flashStartMs) % menuFlashPeriodMs)
  if menu.editing && menu.current = .mode && menuNameMs ≤ input.nowMs - menu.changedMs then
    (desk.call (.displaySetOverlay none)).call (.displayPreview (some (menu.values.at 0).toNat))
  else
    let overlay : Overlay :=
      if menu.editing then .values menu.current menu.values (some menu.field) hide
      else if menu.current.labelled then .label menu.current
      else .values menu.current (menu.current.load menu.work (desk.outlook input)) none false
    (desk.call (.displayPreview none)).call (.displaySetOverlay (some overlay))

/-- The time `write_rtc` asks the RTC source to write, if it is still to, in time, and the
time in force is no source's. -/
def rtcTime (desk : Desk) (input : MenuInput) : Option (BitVec 32) :=
  let time := desk.sync.status.time
  if desk.menu.rtcPending ∧ input.nowMs - desk.menu.rtcPendingSinceMs ≤ menuRtcWriteMs ∧
      time.known ∧ time.source = none then
    some (time.utcSeconds + if 500 ≤ input.slot then 1 else 0)
  else none

/-- `write_rtc`. -/
def writeRtc (desk : Desk) (input : MenuInput) : Desk :=
  match desk.rtcTime input with
  | some utcSeconds =>
      { desk with
        calls := .sourceRtcSet utcSeconds :: desk.calls
        menu := { desk.menu with rtcPending := !input.rtcTakes } }
  | none =>
      { desk with
        menu :=
          { desk.menu with
            rtcPending := desk.menu.rtcPending &&
              input.nowMs - desk.menu.rtcPendingSinceMs ≤ menuRtcWriteMs } }

/-- `menu_service` once the button has been followed. -/
def settle (desk : Desk) (input : MenuInput) : Desk :=
  if !desk.menu.opened then desk
  else if !input.down && menuTimeoutMs ≤ input.nowMs - desk.menu.lastActivityMs then
    { desk with
      menu := { desk.menu with
        stats := { desk.menu.stats with timeouts := desk.menu.stats.timeouts + 1 } } }.closeMenu
  else
    let shown :=
      if !desk.menu.editing && !desk.shown input desk.menu.current then
        { desk with menu := { desk.menu with item := desk.nextItem input desk.menu.item } }
      else desk
    shown.render input

/-- `menu_service` up to the button. -/
def beforeButton (desk : Desk) (input : MenuInput) : Desk :=
  { desk with menu := { desk.menu with now := input.nowMs } }.writeRtc input

/-- `menu_service`. -/
def menuService (desk : Desk) (input : MenuInput) : Desk :=
  let written := desk.beforeButton input
  if !written.menu.opened then
    { written with menu := { written.menu with wasDown := input.down } }
  else (written.followButton input).settle input

/-- `menu_open`. -/
def menuOpen (desk : Desk) (input : MenuInput) : Desk :=
  if desk.menu.opened then desk
  else
    { desk with
      menu :=
        { desk.menu with
          opened := true
          place := .top
          item := 0
          editing := false
          waitingRelease := true
          lastActivityMs := input.nowMs
          now := input.nowMs
          work := desk.settings.running.body
          settingsChanged := false
          espChanged := false
          stats := { desk.menu.stats with opened := desk.menu.stats.opened + 1 } } }.render
      { input with down := true }

/-- `menu_epoch`. -/
def menuEpoch (desk : Desk) : Desk :=
  { desk with
    menu :=
      { desk.menu with
        onlyRtc := desk.menu.onlyRtc &&
          sourceIds.all fun id =>
            !((definition id).steers && (desk.sync.status.sources id).report.timeValid) } }

end Desk

/-- What happens at the desk: the menu's own calls, an epoch, and everything else that
may change the settings or the synchroniser, a settings write or the defaults from the
ESP among them. -/
inductive DeskAct
  | service (input : MenuInput)
  | menuOpen (input : MenuInput)
  | epoch (input : EpochInput)
  | settingsWrite (body : SmlSettingsBody)
  | restoreDefaults
  | setDebug (mask : Word)
  | save
  | saved (result : SmlError)
  | resync
  | setLeap (leap : Platform.UtcLeap)

def Desk.act (desk : Desk) : DeskAct → Desk
  | .service input => desk.menuService input
  | .menuOpen input => desk.menuOpen input
  | .epoch input => { desk with sync := (desk.sync.syncUpdate input).2 }.menuEpoch
  | .settingsWrite body => { desk with settings := (desk.settings.settingsWrite body).2 }
  | .restoreDefaults => { desk with settings := desk.settings.settingsRestoreDefaults }
  | .setDebug mask => { desk with settings := desk.settings.settingsSetDebug mask }
  | .save => { desk with settings := desk.settings.settingsSave }
  | .saved result => { desk with settings := desk.settings.saveSettings result }
  | .resync => { desk with sync := desk.sync.syncResync }
  | .setLeap leap => { desk with sync := desk.sync.syncSetLeap leap }

/-- The desk from `menu_init` on, over any settings. -/
def deskMachine : Machine Desk DeskAct where
  start desk := desk.menu = {} ∧ desk.sync = {} ∧ desk.calls = []
  step := Desk.act

end GpsClock.Menu
