import GpsClock.Display.Frame
import GpsClock.Platform.Civil
import GpsClock.TimeZone.Timezone

/-! # The modes of the display

`display.c`'s renderers: each draws the second it is given into a cleared frame, with
the settings in force.
-/

namespace GpsClock.Display

open Platform TimeZone

inductive DisplayMode
  | hhmm
  | mmss
  | ssmm
  | yyyy
  | mmdd
  | delta
  | uncertainty
  deriving DecidableEq, Repr

/-- The order the button steps through them. -/
def displayModes : List DisplayMode := [.hhmm, .mmss, .ssmm, .yyyy, .mmdd, .delta, .uncertainty]

/-- The next mode, wrapping. -/
def DisplayMode.after (mode : DisplayMode) : DisplayMode :=
  displayModes.getD ((displayModes.idxOf mode + 1) % displayModes.length) .hhmm

def displayUncertaintyMaxNs : Nat := 999000000

/-- `DisplayView`: the second being shown. -/
structure DisplayView where
  local_ : UtcCivil := { year := 0, month := 0, day := 0 }
  utcSeconds : BitVec 32 := 0
  synchronised : Bool := false
  zone : TimezoneOffset :=
    { offsetS := 0, baseOffsetS := 0, dstOffsetS := 0, dstActive := false, baseAutomatic := false,
      dstAutomatic := false, stale := false, ambiguous := false }
  uncertaintyValid : Bool := false
  uncertaintyNs : Nat := 0
  hundredths : Nat := 0
  deriving DecidableEq, Repr

/-- What the renderers read besides the second. -/
structure DisplaySettings where
  twelveHours : Bool := false
  alarmDot : Bool := false
  deltaEpoch : BitVec 32 := 0
  deltaLocal : Bool := false
  deriving DecidableEq, Repr

/-- `blink`. -/
def blink (view : DisplayView) (frame : TubesFrame) (steadyWhenFree : Bool) : TubesFrame :=
  if (if view.synchronised then view.local_.second % 2 == 0 else steadyWhenFree) then
    frame.light tubesMiddleBoth
  else frame

/-- Two numbers of two figures. -/
def pair (left right : Nat) (frame : TubesFrame) : TubesFrame :=
  frameNumber (frameNumber frame 0 2 left) 2 2 right

/-- `render_hhmm`. -/
def renderHhmm (settings : DisplaySettings) (view : DisplayView) (frame : TubesFrame) :
    TubesFrame :=
  let hour := view.local_.hour
  let hours :=
    if settings.twelveHours then
      frameNumberBlanked frame 0 2 (if hour % 12 = 0 then 12 else hour % 12)
    else frameNumber frame 0 2 hour
  blink view (frameNumber hours 2 2 view.local_.minute) true

/-- `render_mmss`. -/
def renderMmss (view : DisplayView) (frame : TubesFrame) : TubesFrame :=
  blink view (pair view.local_.minute view.local_.second frame) false

/-- `render_ssmm`. -/
def renderSsmm (view : DisplayView) (frame : TubesFrame) : TubesFrame :=
  blink view (pair view.local_.second view.hundredths frame) false

/-- `render_yyyy`. -/
def renderYyyy (view : DisplayView) (frame : TubesFrame) : TubesFrame :=
  blink view (frameNumber frame 0 4 view.local_.year) false

/-- `render_mmdd`. -/
def renderMmdd (view : DisplayView) (frame : TubesFrame) : TubesFrame :=
  blink view (pair view.local_.month view.local_.day frame) false

/-- `days_in_month`. -/
def daysInMonth (year month : Nat) : Nat :=
  if month = 2 ∧ year % 4 = 0 ∧ (year % 100 ≠ 0 ∨ year % 400 = 0) then 29
  else [31, 28, 31, 30, 31, 30, 31, 31, 30, 31, 30, 31].getD (month - 1) 0

/-- `before_in_month`. -/
def beforeInMonth (x y : UtcCivil) : Bool :=
  let key (civil : UtcCivil) :=
    civil.day * 2 ^ 17 + civil.hour * 2 ^ 12 + civil.minute * 2 ^ 6 + civil.second
  key x < key y

/-- The whole months from one moment to another, as `render_delta` counts them. -/
def wholeMonths (a b : UtcCivil) : Nat :=
  let months := (b.year - a.year) * 12 + b.month - a.month
  if 0 < months ∧ beforeInMonth b a then months - 1 else months

/-- A moment so many months on, a day that does not exist taken as the month's last. -/
def monthsOn (a : UtcCivil) (months : Nat) : UtcCivil :=
  let year := a.year + (a.month - 1 + months) / 12
  let month := (a.month - 1 + months) % 12 + 1
  { a with
    year := year
    month := month
    day := if daysInMonth year month < a.day then daysInMonth year month else a.day }

/-- The two figures of `render_delta`, below a hundred years. -/
def deltaFigures (months rest : Nat) : Nat × Nat :=
  if 12 ≤ months then (months / 12, months % 12)
  else if 0 < months then (months, rest / 86400)
  else if 86400 ≤ rest then (rest / 86400, rest / 3600 % 24)
  else if 3600 ≤ rest then (rest / 3600, rest / 60 % 60)
  else (rest / 60, rest % 60)

/-- `render_delta`. -/
def renderDelta (settings : DisplaySettings) (view : DisplayView) (frame : TubesFrame) :
    TubesFrame :=
  let now := if settings.deltaLocal then view.utcSeconds + view.zone.offsetS else view.utcSeconds
  let future := now < settings.deltaEpoch
  let first := if future then now else settings.deltaEpoch
  let last := if future then settings.deltaEpoch else now
  let a := utcToCivil first false
  let months := wholeMonths a (utcToCivil last false)
  let rest := (last - utcFromCivil (monthsOn a months)).toNat
  let figures := deltaFigures months rest
  let drawn :=
    if 1200 ≤ months then frameNumberBlanked frame 0 4 (months / 12)
    else pair figures.1 figures.2 frame
  let drawn := blink view drawn false
  if future then drawn.light tubesStartLine else drawn

/-- `ceiling_div`. -/
def ceilingDiv (value divisor : Nat) : Nat :=
  value / divisor + if value % divisor ≠ 0 then 1 else 0

/-- The loop of `render_uncertainty`: the value, whether it has a point, and the unit. -/
def uncertaintyFigures (ns : Nat) : Nat × Bool × Nat :=
  if ns < 1000 then (ns, false, 0)
  else if ceilingDiv ns 100 < 1000 then (ceilingDiv ns 100, true, 1)
  else if ceilingDiv ns 1000 < 1000 then (ceilingDiv ns 1000, false, 1)
  else if ceilingDiv ns 100000 < 1000 then (ceilingDiv ns 100000, true, 2)
  else if ceilingDiv ns 1000000 < 1000 then (ceilingDiv ns 1000000, false, 2)
  else (ceilingDiv ns 1000000, false, 3)

/-- `unit_glyphs`: n, u, m. -/
def unitGlyphs : List Byte := [0x54, 0x1C, 0x15]

/-- `render_uncertainty`. -/
def renderUncertainty (view : DisplayView) (frame : TubesFrame) : TubesFrame :=
  if !view.uncertaintyValid || displayUncertaintyMaxNs < view.uncertaintyNs then
    (frameText frame [' ', '-', '-']).put 3 (unitGlyphs.getD 2 0)
  else
    let (value, point, unit) := uncertaintyFigures view.uncertaintyNs
    let drawn :=
      if point then
        let number := frameNumber frame 0 3 value
        (if value < 100 then frameBlank number 0 1 else number).light tubesMiddleDot
      else frameNumberBlanked frame 0 3 value
    drawn.put 3 (unitGlyphs.getD unit 0)

/-- `modes[]`. -/
def DisplayMode.render (mode : DisplayMode) (settings : DisplaySettings) (view : DisplayView)
    (frame : TubesFrame) : TubesFrame :=
  match mode with
  | .hhmm => renderHhmm settings view frame
  | .mmss => renderMmss view frame
  | .ssmm => renderSsmm view frame
  | .yyyy => renderYyyy view frame
  | .mmdd => renderMmdd view frame
  | .delta => renderDelta settings view frame
  | .uncertainty => renderUncertainty view frame

/-- A known second in a mode, with the alarm's dot, as `render` draws it. -/
def DisplayMode.draw (mode : DisplayMode) (settings : DisplaySettings) (view : DisplayView) :
    TubesFrame :=
  let drawn := mode.render settings view {}
  if settings.alarmDot then drawn.light tubesStartDot else drawn

/-! ## Single tubes -/

@[simp] theorem tube_blink (view : DisplayView) (frame : TubesFrame) (steady : Bool) (tube : Nat) :
    (blink view frame steady).tube tube = frame.tube tube := by
  rw [blink]
  split <;> split <;> rfl

/-- The dot lights no tube. -/
@[simp] theorem tube_draw (mode : DisplayMode) (settings : DisplaySettings) (view : DisplayView)
    (tube : Nat) :
    (mode.draw settings view).tube tube = (mode.render settings view {}).tube tube := by
  rw [DisplayMode.draw]
  split
  · exact tube_light _ _ _
  · rfl

/-- The left number of two is not touched by the right one. -/
theorem tube_pair_left (left right : Nat) (frame : TubesFrame) :
    (pair left right frame).tube 1 = digits.getD (left % 10) 0 := by
  rw [pair, tube_frameNumber_before (by decide)]
  simp [frameNumber, tube_put]

theorem tube_number_right (frame : TubesFrame) (right : Nat) :
    (frameNumber frame 2 2 right).tube 3 = digits.getD (right % 10) 0 := by
  simp [frameNumber, tube_put]

/-- The last tube of the uncertainty is its unit. -/
theorem tube_renderUncertainty (view : DisplayView) (frame : TubesFrame) :
    (renderUncertainty view frame).tube 3 ∈ 0 :: unitGlyphs := by
  have glyph (unit : Nat) : unitGlyphs.getD unit 0 ∈ 0 :: unitGlyphs := by
    rcases unit with _ | _ | _ | unit
    · decide
    · decide
    · decide
    · exact List.mem_cons_self
  rw [renderUncertainty]
  split
  · rw [tube_put]
    exact glyph 2
  · dsimp only
    rw [tube_put]
    exact glyph _

end GpsClock.Display
