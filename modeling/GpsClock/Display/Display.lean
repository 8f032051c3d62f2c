import GpsClock.Display.Modes
import GpsClock.Display.Tubes
import GpsClock.Platform.Utc

/-! # The display

`display.c`: once an epoch the frame of the next second is rendered, and loaded once the
pulse has closed the latch; a change of mode or of what the mode is drawn with is drawn
at once, and so are SSMM's hundredths. The changes are each given by what they make of
the module's own state before it is redrawn (`DisplayState.changing`).
-/

namespace GpsClock.Display

open Platform TimeZone

/-- `DISPLAY_CYCLE_EPOCHS`. -/
def displayCycleEpochs : Nat := 20

/-- A second to show: dashes until the time is known. -/
structure DisplaySecond where
  known : Bool := false
  view : DisplayView := {}
  deriving DecidableEq, Repr

def DisplaySecond.at (second : DisplaySecond) (hundredths : Nat) : DisplaySecond :=
  { second with view := { second.view with hundredths := hundredths } }

structure DisplayStats where
  prepared : BitVec 32 := 0
  loaded : BitVec 32 := 0
  missed : BitVec 32 := 0
  redraws : BitVec 32 := 0
  deriving DecidableEq, Repr

/-- The clock's time of day, as of the epoch just passed. -/
structure DisplayClock where
  known : Bool
  synchronised : Bool
  utcSeconds : BitVec 32
  leapSecond : Bool
  leap : UtcLeap
  uncertaintyValid : Bool
  uncertaintyNs : Nat
  deriving DecidableEq, Repr

/-- The module's statics, and the drivers below it. -/
structure DisplayState where
  selected : DisplayMode := .hhmm
  shownMode : DisplayMode := .hhmm
  previewing : Bool := false
  previewMode : DisplayMode := .hhmm
  overlayOn : Bool := false
  overlay : TubesFrame := {}
  cycleEpochs : Nat := 0
  settings : DisplaySettings := {}
  shown : DisplaySecond := {}
  next : DisplaySecond := {}
  offsetS : BitVec 32 := 0
  prepared : TubesFrame := {}
  preparedPending : Bool := false
  stats : DisplayStats := {}
  tubes : Tubes := .tubesInit
  deriving DecidableEq, Repr

namespace DisplayState

/-- `drawn_mode`. -/
def drawnMode (display : DisplayState) : DisplayMode :=
  if display.previewing then display.previewMode else display.shownMode

/-- `render`. -/
def render (display : DisplayState) (second : DisplaySecond) : TubesFrame :=
  if display.overlayOn then display.overlay
  else if second.known then display.drawnMode.draw display.settings second.view
  else frameDashes {}

def onTubes (display : DisplayState) (tubes : Tubes) : DisplayState := { display with tubes := tubes }

/-- The second on the tubes drawn again, in `redraw` and `display_tick`. -/
def drawShown (display : DisplayState) : DisplayState :=
  { display with
    tubes := display.tubes.tubesShow (display.render display.shown)
    stats := { display.stats with redraws := display.stats.redraws + 1 } }

/-- `redraw`. -/
def redraw (display : DisplayState) : DisplayState :=
  if !display.overlayOn && !display.shown.known && !display.next.known then display
  else
    let drawn := { display with prepared := display.render display.next }.drawShown
    if !drawn.preparedPending && !drawn.tubes.latchOpen then
      drawn.onTubes (drawn.tubes.tubesLoad drawn.prepared)
    else drawn

/-- `display_init`. -/
def displayInit : DisplayState :=
  onTubes {} (Tubes.tubesInit.tubesShow (frameDashes {}))

/-- What changes, if anything, is drawn at once. -/
def changing (display : DisplayState) (changed : Option DisplayState) : DisplayState :=
  match changed with
  | some changed => changed.redraw
  | none => display

/-- What the module is asked to change. -/
inductive Change
  | setMode (mode : DisplayMode)
  | setAlarmDot (on : Bool)
  | set12h (twelve : Bool)
  | setDeltaEpoch (seconds : BitVec 32) (isLocal : Bool)
  | cycle
  | setOverlay (frame : Option TubesFrame)
  | preview (mode : Option DisplayMode)
  deriving DecidableEq, Repr

/-- What `display_set_mode` changes. -/
def modeSet (display : DisplayState) (mode : DisplayMode) : Option DisplayState :=
  if mode = display.selected then none
  else some { display with selected := mode, shownMode := mode }

/-- What `display_set_alarm_dot` changes. -/
def alarmDotSet (display : DisplayState) (on : Bool) : Option DisplayState :=
  if on = display.settings.alarmDot then none
  else some { display with settings := { display.settings with alarmDot := on } }

/-- What `display_set_12h` changes. -/
def twelveHoursSet (display : DisplayState) (twelve : Bool) : Option DisplayState :=
  if twelve = display.settings.twelveHours then none
  else some { display with settings := { display.settings with twelveHours := twelve } }

/-- What `display_set_delta_epoch` changes. -/
def deltaEpochSet (display : DisplayState) (seconds : BitVec 32) (isLocal : Bool) : Option DisplayState :=
  if seconds = display.settings.deltaEpoch ∧ isLocal = display.settings.deltaLocal then none
  else
    some
      { display with
        settings := { display.settings with deltaEpoch := seconds, deltaLocal := isLocal } }

/-- What `display_cycle` changes. -/
def cycled (display : DisplayState) : Option DisplayState :=
  if !display.shown.known then none
  else some { display with shownMode := display.shownMode.after, cycleEpochs := 0 }

/-- What `display_set_overlay` changes. -/
def overlaySet (display : DisplayState) (frame : Option TubesFrame) : Option DisplayState :=
  match frame with
  | none => if display.overlayOn then some { display with overlayOn := false } else none
  | some frame =>
      if display.overlayOn ∧ frame = display.overlay then none
      else some { display with overlay := frame, overlayOn := true }

/-- What `display_preview` changes. -/
def previewSet (display : DisplayState) (mode : Option DisplayMode) : Option DisplayState :=
  match mode with
  | none => if display.previewing then some { display with previewing := false } else none
  | some mode =>
      if display.previewing ∧ mode = display.previewMode then none
      else some { display with previewing := true, previewMode := mode }

def changed (display : DisplayState) : Change → Option DisplayState
  | .setMode mode => display.modeSet mode
  | .setAlarmDot on => display.alarmDotSet on
  | .set12h twelve => display.twelveHoursSet twelve
  | .setDeltaEpoch seconds isLocal => display.deltaEpochSet seconds isLocal
  | .cycle => display.cycled
  | .setOverlay frame => display.overlaySet frame
  | .preview mode => display.previewSet mode

/-- The second after the one the clock is labelled with, as `display_prepare` fills it in;
the rest of a second not known is left as it was. -/
def secondAfter (display : DisplayState) (clock : DisplayClock) (zone : Timezone) : DisplaySecond :=
  if !clock.known then { display.next with known := false }
  else
    let (utc, nextLeap) := utcAdvance clock.utcSeconds clock.leapSecond 1 clock.leap.announced
    let offset := zone.offsetAt utc
    { known := true
      view :=
        { local_ := utcToCivil (utc + offset.offsetS) nextLeap
          utcSeconds := utc
          synchronised := clock.synchronised
          zone := offset
          uncertaintyValid := clock.uncertaintyValid
          uncertaintyNs := clock.uncertaintyNs
          hundredths := 0 } }

/-- The mode shown by the button gives way to the selected one. -/
def followCycle (display : DisplayState) : DisplayState :=
  if display.shownMode = display.selected then display
  else
    let cycles := display.cycleEpochs + 1
    { display with
      cycleEpochs := cycles
      shownMode := if displayCycleEpochs ≤ cycles then display.selected else display.shownMode }

/-- `display_prepare`. -/
def displayPrepare (display : DisplayState) (clock : DisplayClock) (zone : Timezone) : DisplayState :=
  let latched :=
    { display with
      tubes := display.tubes.tubesEpoch
      shown := display.next
      stats :=
        { display.stats with
          missed :=
            if display.preparedPending then display.stats.missed + 1 else display.stats.missed } }
  let next := display.secondAfter clock zone
  let followed :=
    { latched.followCycle with
      next := next
      offsetS := if clock.known then next.view.zone.offsetS else display.offsetS }
  { followed with
    prepared := followed.render followed.next
    preparedPending := true
    stats := { followed.stats with prepared := followed.stats.prepared + 1 } }

/-- `display_service`. -/
def displayService (display : DisplayState) : DisplayState :=
  if !display.preparedPending || display.tubes.latchOpen then display
  else
    { display with
      tubes := display.tubes.tubesLoad display.prepared
      preparedPending := false
      stats := { display.stats with loaded := display.stats.loaded + 1 } }

def hundredthsAt (slot : Nat) : Nat := if 990 ≤ slot then 99 else slot / 10

/-- Whether `display_tick` draws. Until 10 ms the epoch's own frame is right. -/
def tickDraws (display : DisplayState) (slot : Nat) : Bool :=
  !(display.overlayOn || display.drawnMode != .ssmm || !display.shown.known ||
    hundredthsAt slot == 0 || hundredthsAt slot == display.shown.view.hundredths)

/-- `display_tick`. -/
def displayTick (display : DisplayState) (slot : Nat) : DisplayState :=
  if display.tickDraws slot then
    drawShown { display with shown := display.shown.at (hundredthsAt slot) }
  else display

/-! ## What a change leaves -/

variable (display : DisplayState)

/-- A change is to how seconds are drawn, never to which. -/
structure SameSeconds (before after : DisplayState) : Prop where
  shown : after.shown = before.shown
  next : after.next = before.next
  pending : after.preparedPending = before.preparedPending
  tubes : after.tubes = before.tubes

theorem changed_seconds {display after : DisplayState} {change : Change}
    (effective : display.changed change = some after) : SameSeconds display after := by
  cases change with
  | setMode mode =>
      simp only [changed, modeSet] at effective
      split at effective <;> cases effective
      exact ⟨rfl, rfl, rfl, rfl⟩
  | setAlarmDot on =>
      simp only [changed, alarmDotSet] at effective
      split at effective <;> cases effective
      exact ⟨rfl, rfl, rfl, rfl⟩
  | set12h twelve =>
      simp only [changed, twelveHoursSet] at effective
      split at effective <;> cases effective
      exact ⟨rfl, rfl, rfl, rfl⟩
  | setDeltaEpoch seconds isLocal =>
      simp only [changed, deltaEpochSet] at effective
      split at effective <;> cases effective
      exact ⟨rfl, rfl, rfl, rfl⟩
  | cycle =>
      simp only [changed, cycled] at effective
      split at effective <;> cases effective
      exact ⟨rfl, rfl, rfl, rfl⟩
  | setOverlay frame =>
      simp only [changed, overlaySet] at effective
      split at effective <;> split at effective <;> cases effective <;> exact ⟨rfl, rfl, rfl, rfl⟩
  | preview mode =>
      simp only [changed, previewSet] at effective
      split at effective <;> split at effective <;> cases effective <;> exact ⟨rfl, rfl, rfl, rfl⟩

theorem followCycle_eq : ∃ cycles mode,
    display.followCycle = { display with cycleEpochs := cycles, shownMode := mode } := by
  rw [followCycle]
  split
  · exact ⟨display.cycleEpochs, display.shownMode, rfl⟩
  · exact ⟨_, _, rfl⟩

end DisplayState

end GpsClock.Display
