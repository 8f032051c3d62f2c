import GpsClock.Sml.Crc

/-! # Frames

`frame.c`: what each tube and separator shows, apart from the wiring. Digits and
letters are drawn into a frame tube by tube; what is drawn from a tube on leaves the
tubes before it as they were.
-/

namespace GpsClock.Display

/-- `TUBES_COUNT`. -/
def tubesCount : Nat := 4

structure TubesFrame where
  segments : Vector Byte 4 := Vector.replicate 4 0
  separators : Byte := 0
  deriving DecidableEq, Repr

def tubesStartDot : Byte := 0x01

def tubesStartLine : Byte := 0x02

def tubesMiddleDot : Byte := 0x04

def tubesMiddleLine : Byte := 0x08

def tubesMiddleBoth : Byte := tubesMiddleDot ||| tubesMiddleLine

/-- `digits`, as segments a to g from bit 0. -/
def digits : List Byte := [0x3F, 0x06, 0x5B, 0x4F, 0x66, 0x6D, 0x7D, 0x07, 0x7F, 0x6F]

/-- `letters`. -/
def letters : List Byte :=
  [0x77, 0x7C, 0x39, 0x5E, 0x79, 0x71, 0x3D, 0x76, 0x30, 0x1E, 0x75, 0x38, 0x15, 0x37, 0x3F, 0x73,
    0x67, 0x33, 0x6D, 0x78, 0x3E, 0x1C, 0x2A, 0x76, 0x6E, 0x5B]

/-- `frame_glyph`. -/
def frameGlyph (character : Char) : Byte :=
  let code := character.toNat
  if 48 ≤ code ∧ code ≤ 57 then digits.getD (code - 48) 0
  else if 65 ≤ code ∧ code ≤ 90 then letters.getD (code - 65) 0
  else if 97 ≤ code ∧ code ≤ 122 then letters.getD (code - 97) 0
  else if code = 45 then 0x40
  else 0

/-- `frame_text`: tubes past the end are blanked. -/
def frameText (frame : TubesFrame) (text : List Char) : TubesFrame :=
  { frame with
    segments := Vector.ofFn fun tube => ((text[tube.val]?).map frameGlyph).getD 0 }

def TubesFrame.put (frame : TubesFrame) (tube : Nat) (glyph : Byte) : TubesFrame :=
  { frame with segments := frame.segments.setIfInBounds tube glyph }

/-- `frame_number`: from the last place back. -/
def frameNumber (frame : TubesFrame) (first : Nat) : (width value : Nat) → TubesFrame
  | 0, _ => frame
  | place + 1, value =>
      frameNumber (frame.put (first + place) (digits.getD (value % 10) 0)) first place (value / 10)

/-- `frame_blank`. -/
def frameBlank (frame : TubesFrame) (first : Nat) : (count : Nat) → TubesFrame
  | 0 => frame
  | count + 1 => (frameBlank frame first count).put (first + count) 0

/-- The loop of `frame_number_blanked` that counts the digits, so many times at most. -/
def digitsShown : Nat → Nat → Nat
  | 0, _ => 1
  | times + 1, rest => if 10 ≤ rest then digitsShown times (rest / 10) + 1 else 1

/-- `frame_number_blanked`. -/
def frameNumberBlanked (frame : TubesFrame) (first width value : Nat) : TubesFrame :=
  let drawn := frameNumber frame first width value
  -- a uint16_t has five digits at most
  let shown := digitsShown 4 value
  if shown < width then frameBlank drawn first (width - shown) else drawn

/-- `frame_dashes`. -/
def frameDashes (frame : TubesFrame) : TubesFrame :=
  { frameText frame ['-', '-', '-', '-'] with separators := tubesStartLine ||| tubesMiddleLine }

def TubesFrame.light (frame : TubesFrame) (separators : Byte) : TubesFrame :=
  { frame with separators := frame.separators ||| separators }

/-- What a tube shows. -/
def TubesFrame.tube (frame : TubesFrame) (tube : Nat) : Byte := frame.segments[tube]?.getD 0

@[simp] theorem tube_light (frame : TubesFrame) (separators : Byte) (tube : Nat) :
    (frame.light separators).tube tube = frame.tube tube :=
  rfl

theorem tube_put (frame : TubesFrame) (place tube : Nat) (glyph : Byte) :
    (frame.put place glyph).tube tube =
      if place = tube ∧ place < 4 then glyph else frame.tube tube := by
  rw [TubesFrame.tube, TubesFrame.put, Vector.getElem?_setIfInBounds]
  by_cases same : place = tube
  · subst same
    by_cases inside : place < 4
    · simp [inside]
    · simp [inside, TubesFrame.tube]
  · simp [same, TubesFrame.tube]

/-- A number leaves the tubes before it. -/
theorem tube_frameNumber_before {tube first : Nat} (before : tube < first) (width value : Nat)
    (frame : TubesFrame) : (frameNumber frame first width value).tube tube = frame.tube tube := by
  induction width generalizing frame value with
  | zero => rfl
  | succ place ih =>
      rw [frameNumber, ih, tube_put, if_neg]
      omega

end GpsClock.Display
