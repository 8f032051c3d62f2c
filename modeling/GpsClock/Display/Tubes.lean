import GpsClock.Display.Frame

/-! # The tube drivers

`tubes.c`, and the drivers it shifts frames into: a register whose outputs follow it
while the latch is open, by the epoch's pulse or by the software's, and hold otherwise.
A frame is in the register as it was drawn, whatever the wiring makes of it.
-/

namespace GpsClock.Display

structure TubesStats where
  loads : BitVec 32 := 0
  shows : BitVec 32 := 0
  reloads : BitVec 32 := 0
  loadsTooLate : BitVec 32 := 0
  deriving DecidableEq, Repr

/-- The module's statics; and of the drivers, what is in the shift register, what the
outputs show, and whether the epoch's pulse is high. -/
structure Tubes where
  shown : TubesFrame := {}
  loaded : TubesFrame := {}
  loadPending : Bool := false
  stats : TubesStats := {}
  register : TubesFrame := {}
  outputs : TubesFrame := {}
  pulse : Bool := false
  deriving DecidableEq, Repr

namespace Tubes

/-- `tubes_latch_open`. -/
def latchOpen (tubes : Tubes) : Bool := tubes.pulse

/-- `shift`. -/
def shift (tubes : Tubes) (frame : TubesFrame) : Tubes :=
  { tubes with register := frame, outputs := if tubes.pulse then frame else tubes.outputs }

/-- `latch_pulse`. -/
def latchPulse (tubes : Tubes) : Tubes := { tubes with outputs := tubes.register }

/-- The pulse of an epoch begins. -/
def pulseBegins (tubes : Tubes) : Tubes :=
  { tubes with pulse := true, outputs := tubes.register }

/-- The pulse ends: the outputs hold. -/
def pulseEnds (tubes : Tubes) : Tubes := { tubes with pulse := false }

/-- `tubes_init`. -/
def tubesInit : Tubes := (shift {} {}).latchPulse

/-- `tubes_load`. -/
def tubesLoad (tubes : Tubes) (frame : TubesFrame) : Tubes :=
  { tubes.shift frame with
    loaded := frame
    loadPending := true
    stats :=
      { tubes.stats with
        loadsTooLate :=
          if tubes.latchOpen then tubes.stats.loadsTooLate + 1 else tubes.stats.loadsTooLate
        loads := tubes.stats.loads + 1 } }

/-- `tubes_show`. -/
def tubesShow (tubes : Tubes) (frame : TubesFrame) : Tubes :=
  let latched :=
    { (tubes.shift frame).latchPulse with
      shown := frame
      stats := { tubes.stats with shows := tubes.stats.shows + 1 } }
  -- the frame loaded for the epoch is shifted back in, unless it would show at once
  if tubes.loadPending && !tubes.latchOpen then
    { latched.shift tubes.loaded with
      stats := { latched.stats with reloads := latched.stats.reloads + 1 } }
  else { latched with loaded := frame, loadPending := false }

/-- `tubes_epoch`. -/
def tubesEpoch (tubes : Tubes) : Tubes :=
  if tubes.loadPending then { tubes with shown := tubes.loaded, loadPending := false } else tubes

/-! ## What the outputs show -/

variable (tubes : Tubes) (frame : TubesFrame)

@[simp] theorem tubesShow_outputs : (tubes.tubesShow frame).outputs = frame := by
  rw [tubesShow]
  cases open_ : tubes.pulse with
  | true => simp [latchOpen, open_, latchPulse, shift]
  | false =>
      split
      · simp [latchPulse, shift, open_]
      · rfl

@[simp] theorem tubesShow_pulse : (tubes.tubesShow frame).pulse = tubes.pulse := by
  rw [tubesShow]
  split <;> rfl

/-- Shown while a frame waits for the epoch, it leaves that frame waiting. -/
theorem tubesShow_waiting (waiting : tubes.loadPending = true) (closed : tubes.pulse = false) :
    (tubes.tubesShow frame).register = tubes.loaded ∧
      (tubes.tubesShow frame).loaded = tubes.loaded ∧
      (tubes.tubesShow frame).loadPending = true := by
  rw [tubesShow, if_pos (by simp [latchOpen, waiting, closed])]
  exact ⟨rfl, rfl, waiting⟩

@[simp] theorem tubesLoad_pulse : (tubes.tubesLoad frame).pulse = tubes.pulse := rfl

/-- Loaded with the latch closed, a frame does not show. -/
theorem tubesLoad_outputs (closed : tubes.pulse = false) :
    (tubes.tubesLoad frame).outputs = tubes.outputs := by
  rw [tubesLoad, shift, closed]
  rfl

@[simp] theorem tubesEpoch_outputs : tubes.tubesEpoch.outputs = tubes.outputs := by
  rw [tubesEpoch]
  split <;> rfl

@[simp] theorem tubesEpoch_pulse : tubes.tubesEpoch.pulse = tubes.pulse := by
  rw [tubesEpoch]
  split <;> rfl

end Tubes

end GpsClock.Display
