import GpsClock.Display.Uncertainty
import GpsClock.Menu.Menu

/-! # What the menu draws

`menu.c`'s renders, and what an overlay is on the tubes: an item's label, or its values with
the field being edited blanked while it flashes. Hours and minutes are read back from the
tubes they are drawn on, an offset with the start line as its sign.
-/

namespace GpsClock.Menu

open Display

/-- `text`, over a cleared frame. -/
def text (characters : List Char) (hide : Bool) : TubesFrame :=
  frameText {} (if hide then [] else characters)

/-- The first tube of two to blank, as `hide ? f * 2 : -1`. -/
def hideTubes (field : Option Nat) (hide : Bool) : Option Nat :=
  if hide then field.map (· * 2) else none

def blankTwo (frame : TubesFrame) : Option Nat → TubesFrame
  | some first => frameBlank frame first 2
  | none => frame

/-- Two numbers of two digits. -/
def pairDrawn (left right : Nat) : TubesFrame :=
  frameNumber (frameNumber {} 0 2 left) 2 2 right

/-- `render_offset_minutes`. -/
def renderOffsetMinutes (minutes : Int) (hidden : Option Nat) : TubesFrame :=
  blankTwo
    { pairDrawn (minutes.natAbs / 60) (minutes.natAbs % 60) with
      separators := tubesMiddleBoth ||| if minutes < 0 then tubesStartLine else 0 }
    hidden

/-- `hh_mm_render`. -/
def hhMmRender (hours minutes : Int) (hidden : Option Nat) : TubesFrame :=
  blankTwo { pairDrawn hours.toNat minutes.toNat with separators := tubesMiddleBoth } hidden

/-- A toggle's render, by its two texts. -/
def toggleRender (on off : List Char) (values : Fields) (hide : Bool) : TubesFrame :=
  text (if values.at 0 ≠ 0 then on else off) hide

/-- A toggle's frame while it is not blanked. -/
def toggleFrame (on off : List Char) (set : Bool) : TubesFrame :=
  frameText {} (if set then on else off)

def autoText : List Char := ['A', 'U', 't', 'O']

def manText : List Char := [' ', 'M', 'A', 'N']

def onText : List Char := [' ', ' ', 'O', 'N']

def offText : List Char := [' ', 'O', 'F', 'F']

/-- `auto_render`. -/
def autoRender : Fields → Bool → TubesFrame := toggleRender autoText manText

/-- `remote_render`. -/
def remoteRender : Fields → Bool → TubesFrame :=
  toggleRender ['r', ' ', 'O', 'N'] ['r', 'O', 'F', 'F']

/-- `on_off_render`. -/
def onOffRender : Fields → Bool → TubesFrame :=
  toggleRender onText offText

/-- `hours_render`. -/
def hoursRender : Fields → Bool → TubesFrame :=
  toggleRender [' ', ' ', '1', '2'] [' ', ' ', '2', '4']

/-- `yes_no_render`. -/
def yesNoRender : Fields → Bool → TubesFrame :=
  toggleRender [' ', 'Y', 'E', 'S'] [' ', ' ', 'N', 'O']

/-- `tz_offset_render`. -/
def tzOffsetRender (values : Fields) (field : Option Nat) (hide : Bool) : TubesFrame :=
  renderOffsetMinutes (tzOffsetMinutes values) (hideTubes field hide)

/-- `dst_offset_render`. -/
def dstOffsetRender (values : Fields) (hide : Bool) : TubesFrame :=
  let drawn := renderOffsetMinutes (values.at 0) none
  if hide then frameBlank drawn 0 tubesCount else drawn

/-- `alarm_time_render`. -/
def alarmTimeRender (values : Fields) (field : Option Nat) (hide : Bool) : TubesFrame :=
  hhMmRender (values.at 0) (values.at 1) (hideTubes field hide)

/-- `mode_names`. -/
def modeNames : List (List Char) :=
  [['H', 'H', 'M', 'M'], ['M', 'M', 'S', 'S'], ['S', 'S', 'M', 'M'], ['Y', 'Y', 'Y', 'Y'],
    ['M', 'M', 'D', 'D'], ['d', 'E', 'L', 't'], ['U', 'N', 'C', ' ']]

/-- `mode_render`. -/
def modeRender (values : Fields) (hide : Bool) : TubesFrame :=
  text (modeNames.getD (values.at 0).toNat []) hide

/-- `brightness_render`. -/
def brightnessRender (values : Fields) (hide : Bool) : TubesFrame :=
  if values.at 0 = 0 then text autoText hide
  else
    let drawn := frameNumberBlanked (frameText {} ['b']) 1 3 (values.at 0 * 10).toNat
    if hide then frameBlank drawn 0 tubesCount else drawn

/-- `time_render`. -/
def timeRender (values : Fields) (field : Option Nat) (hide : Bool) : TubesFrame :=
  match field with
  | none => frameText {} ['t', 'I', 'M', 'E']
  | some 0 =>
      let drawn := frameNumber {} 0 4 (values.at 0).toNat
      if hide then frameBlank drawn 0 tubesCount else drawn
  | some field =>
      if field ≤ 2 then
        blankTwo
          { pairDrawn (values.at 1).toNat (values.at 2).toNat with separators := tubesMiddleLine }
          (hideTubes (some (field - 1)) hide)
      else if field ≤ 4 then
        hhMmRender (values.at 3) (values.at 4) (hideTubes (some (field - 3)) hide)
      else text [' ', ' ', 'O', 'K'] hide

/-- `entry->render`, of the items that are values. -/
def MenuItem.render (item : MenuItem) (values : Fields) (field : Option Nat) (hide : Bool) :
    TubesFrame :=
  match item with
  | .tzAuto | .dstAuto => autoRender values hide
  | .tzOffset => tzOffsetRender values field hide
  | .remote => remoteRender values hide
  | .dstActive | .alarmOn | .beep => onOffRender values hide
  | .dstOffset => dstOffsetRender values hide
  | .alarmTime => alarmTimeRender values field hide
  | .hours => hoursRender values hide
  | .mode => modeRender values hide
  | .brightness => brightnessRender values hide
  | .time => timeRender values field hide
  | .resetWifi | .resetSettings | .resetAll => yesNoRender values hide
  | .title | .opens _ | .back | .exit => {}

/-- The label of a section's item in the top section. -/
def MenuSection.label : MenuSection → List Char
  | .top => []
  | .tz => [' ', ' ', 't', 'Z']
  | .dst => [' ', 'd', 'S', 't']
  | .alarm => ['A', 'L', 'r', 'M']
  | .beep => ['b', 'E', 'E', 'P']
  | .display => ['d', 'I', 'S', 'P']
  | .reset => [' ', 'r', 'S', 't']

/-- `entry->label`, of the items that have one. -/
def MenuItem.label : MenuItem → List Char
  | .title => ['M', 'E', 'N', 'U']
  | .opens into => into.label
  | .time => ['t', 'I', 'M', 'E']
  | .resetWifi => ['W', 'I', 'F', 'I']
  | .resetSettings => ['S', 'E', 't', ' ']
  | .resetAll => [' ', 'A', 'L', 'L']
  | .back => ['b', 'A', 'C', 'K']
  | .exit => ['E', 'X', 'I', 't']
  | _ => []

/-- The frame of an overlay. -/
def Overlay.frame : Overlay → TubesFrame
  | .label item => frameText {} item.label
  | .values item loaded field hide => item.render loaded field hide

/-! ## Reading it -/

/-- The two numbers on the tubes. -/
def readPair (frame : TubesFrame) : Option (Nat × Nat) := do
  let left ← readFigures [frame.tube 0, frame.tube 1]
  let right ← readFigures [frame.tube 2, frame.tube 3]
  return (left, right)

/-- Hours and minutes as minutes. -/
def readMinutes (frame : TubesFrame) : Option Nat :=
  (readPair frame).map fun pair => pair.1 * 60 + pair.2

/-- Hours and minutes with a sign, as minutes. -/
def readOffset (frame : TubesFrame) : Option Int :=
  (readMinutes frame).map fun minutes =>
    if frame.separators &&& tubesStartLine = 0 then (minutes : Int) else -minutes

/-- A number drawn where `brightness_render` draws its percentage. -/
def readPercent (frame : TubesFrame) : Option Nat :=
  if frame.tube 0 = frameGlyph 'b' then readFigures [frame.tube 1, frame.tube 2, frame.tube 3]
  else none

theorem readPair_pairDrawn {left right : Nat} (first : left < 100) (second : right < 100)
    (separators : Byte) :
    readPair { pairDrawn left right with separators := separators } = some (left, right) := by
  have figures {value : Nat} (two : value < 100) :
      readFigures [digits.getD (value / 10 % 10) 0, digits.getD (value % 10) 0] = some value := by
    have shown := (readFigures_three (show 0 < 10 by decide)
      (Nat.mod_lt (value / 10) (show 0 < 10 by decide))
      (Nat.mod_lt value (show 0 < 10 by decide))).2.1
    refine shown.trans (congrArg some ?_)
    omega
  have tubes : (pairDrawn left right).tube 0 = digits.getD (left / 10 % 10) 0 ∧
      (pairDrawn left right).tube 1 = digits.getD (left % 10) 0 ∧
      (pairDrawn left right).tube 2 = digits.getD (right / 10 % 10) 0 ∧
      (pairDrawn left right).tube 3 = digits.getD (right % 10) 0 := by
    refine ⟨?_, ?_, ?_, ?_⟩ <;> simp [pairDrawn, frameNumber, tube_put]
  obtain ⟨zero, one, two, three⟩ := tubes
  change (do
    let left ← readFigures [(pairDrawn left right).tube 0, (pairDrawn left right).tube 1]
    let right ← readFigures [(pairDrawn left right).tube 2, (pairDrawn left right).tube 3]
    return (left, right)) = _
  rw [zero, one, figures first, Option.bind_eq_bind, Option.bind_some, two, three, figures second]
  rfl

/-- An offset of less than a hundred hours is read as it is drawn. -/
theorem readOffset_renderOffsetMinutes {minutes : Int} (small : minutes.natAbs < 6000) :
    readOffset (renderOffsetMinutes minutes none) = some minutes := by
  rw [readOffset, readMinutes, renderOffsetMinutes, blankTwo,
    readPair_pairDrawn (by omega) (by omega)]
  have sign : (tubesMiddleBoth ||| if minutes < 0 then tubesStartLine else 0) &&& tubesStartLine = 0 ↔
      ¬minutes < 0 := by
    by_cases negative : minutes < 0
    · rw [if_pos negative]
      exact iff_of_false (by decide) (not_not.mpr negative)
    · rw [if_neg negative]
      exact iff_of_true (by decide) negative
  refine congrArg some ?_
  dsimp only
  rw [if_congr sign rfl rfl]
  split <;> omega

theorem readMinutes_hhMmRender {hours minutes : Nat} (day : hours < 100) (hour : minutes < 100) :
    readMinutes (hhMmRender hours minutes none) = some (hours * 60 + minutes) := by
  rw [readMinutes, hhMmRender, blankTwo, Int.toNat_natCast, Int.toNat_natCast,
    readPair_pairDrawn day hour]
  rfl

/-- Each tenth is read as its percentage. -/
theorem readPercent_brightnessRender {tenths : Nat} (some_ : 1 ≤ tenths) (most : tenths ≤ 10) :
    readPercent (brightnessRender (.of [(tenths : Int)]) false) = some (tenths * 10) := by
  interval_cases tenths <;> decide

end GpsClock.Menu
