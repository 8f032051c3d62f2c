import Mathlib

/-! # The button and the switch

`controls.c`: both pins are sampled, and a change counts once a pin has read the same for
some time. A press of the button is reported short as it is let go, or long while it is
still held, and one that the clock started with not at all
(`GpsClock.Ui.Controls.service_reports`).
-/

namespace GpsClock.Ui

/-- `time_ms_has_elapsed`. -/
def hasElapsed (nowMs previousMs intervalMs : BitVec 32) : Bool :=
  intervalMs ≤ nowMs - previousMs

/-- `CONTROLS_DEBOUNCE_MS`. -/
def controlsDebounceMs : BitVec 32 := 30

/-- `CONTROLS_LONG_MS`. -/
def controlsLongMs : BitVec 32 := 500

inductive ControlsPress
  | none
  | short
  | long
  | hold
  deriving DecidableEq, Repr

structure ControlsStats where
  shortPresses : BitVec 32 := 0
  longPresses : BitVec 32 := 0
  switchChanges : BitVec 32 := 0
  bounces : BitVec 32 := 0
  deriving DecidableEq, Repr

/-- One debounced input. -/
structure Debounced where
  raw : Bool := false
  rawSince : BitVec 32 := 0
  level : Bool := false
  levelSince : BitVec 32 := 0
  deriving DecidableEq, Repr

namespace Debounced

/-- `debounce` as far as the pin is noted. -/
def sampled (input : Debounced) (raw : Bool) (nowMs : BitVec 32) : Debounced :=
  if raw ≠ input.raw then { input with raw := raw, rawSince := nowMs } else input

/-- Whether a change goes back before it counted. -/
def bounces (input : Debounced) (raw : Bool) : Bool :=
  raw != input.raw && input.raw != input.level

/-- `debounce`: whether the level changes. -/
def debounce (input : Debounced) (raw : Bool) (nowMs : BitVec 32) : Bool × Debounced :=
  let input := input.sampled raw nowMs
  if input.raw ≠ input.level ∧ hasElapsed nowMs input.rawSince controlsDebounceMs then
    -- from the first edge
    (true, { input with level := input.raw, levelSince := input.rawSince })
  else (false, input)

/-- A level as it is found. -/
def found (level : Bool) (nowMs : BitVec 32) : Debounced where
  raw := level
  rawSince := nowMs
  level := level
  levelSince := nowMs

end Debounced

structure Controls where
  button : Debounced := {}
  toggle : Debounced := {}
  started : Bool := false
  longReported : Bool := false
  lastPress : ControlsPress := .none
  pressCount : BitVec 32 := 0
  stats : ControlsStats := {}
  deriving DecidableEq, Repr

namespace Controls

def countBounce (controls : Controls) (bounced : Bool) : Controls :=
  { controls with
    stats := { controls.stats with
      bounces := controls.stats.bounces + if bounced then 1 else 0 } }

/-- `report`. -/
def report (controls : Controls) (press : ControlsPress) : Controls :=
  { controls with
    lastPress := press
    pressCount := controls.pressCount + 1
    stats :=
      match press with
      | .short => { controls.stats with shortPresses := controls.stats.shortPresses + 1 }
      | .long => { controls.stats with longPresses := controls.stats.longPresses + 1 }
      | .none | .hold => controls.stats }

/-- The button's edge in `controls_service`. -/
def edge (controls : Controls) (changed : Bool) : Controls :=
  if changed && controls.button.level then { controls with longReported := false }
  else if changed && !controls.longReported then controls.report .short
  else controls

/-- The button held, in `controls_service`. -/
def held (controls : Controls) (nowMs : BitVec 32) : Controls :=
  if controls.button.level && controls.button.raw && !controls.longReported &&
      hasElapsed nowMs controls.button.levelSince controlsLongMs then
    { controls with longReported := true }.report .long
  else controls

/-- The switch, in `controls_service`. -/
def switch (controls : Controls) (on : Bool) (nowMs : BitVec 32) : Controls :=
  let debounced := controls.toggle.debounce on nowMs
  let counted := controls.countBounce (controls.toggle.bounces on)
  { counted with
    toggle := debounced.2
    stats :=
      if debounced.1 then
        { counted.stats with switchChanges := counted.stats.switchChanges + 1 }
      else counted.stats }

/-- `controls_service`. -/
def service (controls : Controls) (nowMs : BitVec 32) (buttonPressed switchOn : Bool) : Controls :=
  if !controls.started then
    { controls with
      started := true
      button := .found buttonPressed nowMs
      toggle := .found switchOn nowMs
      longReported := buttonPressed }
  else
    let debounced := controls.button.debounce buttonPressed nowMs
    let sampled :=
      { controls.countBounce (controls.button.bounces buttonPressed) with button := debounced.2 }
    ((sampled.edge debounced.1).held nowMs).switch switchOn nowMs

/-- `controls_button_down`. -/
def buttonDown (controls : Controls) : Bool := controls.button.level

/-- `controls_switch_on`. -/
def switchOn (controls : Controls) : Bool := controls.toggle.level

end Controls

/-! ## Reports of presses -/

/-- The button as it is reported: whether it is down, whether its press needs no more
reporting, and what is reported as this changes. -/
inductive Reporting : (down reported : Bool) → (down' reported' : Bool) →
    Option ControlsPress → Prop
  | up (reported : Bool) : Reporting false reported false reported none
  | down (reported : Bool) : Reporting true reported true reported none
  | long : Reporting true false true true (some .long)
  | begins (reported : Bool) : Reporting false reported true false none
  | beginsLong (reported : Bool) : Reporting false reported true true (some .long)
  | short : Reporting true false false false (some .short)
  | ends : Reporting true true false true none

namespace Controls

/-- What is reported from one state of the controls to another. -/
structure Reports (before after : Controls) (press : Option ControlsPress) : Prop where
  started : after.started = true
  count : after.pressCount = before.pressCount + if press.isSome then 1 else 0
  last : ∀ kind, press = some kind → after.lastPress = kind

theorem switch_keeps (controls : Controls) (on : Bool) (nowMs : BitVec 32) :
    (controls.switch on nowMs).button = controls.button ∧
      (controls.switch on nowMs).longReported = controls.longReported ∧
      (controls.switch on nowMs).started = controls.started ∧
      (controls.switch on nowMs).pressCount = controls.pressCount ∧
      (controls.switch on nowMs).lastPress = controls.lastPress :=
  ⟨rfl, rfl, rfl, rfl, rfl⟩

/-- A level debounced stays as it was, or takes the other value. -/
theorem debounce_level (input : Debounced) (raw : Bool) (nowMs : BitVec 32) :
    ((input.debounce raw nowMs).1 = false ∧
        (input.debounce raw nowMs).2.level = input.level) ∨
      ((input.debounce raw nowMs).1 = true ∧
        (input.debounce raw nowMs).2.level = !input.level) := by
  have level : (input.sampled raw nowMs).level = input.level := by
    rw [Debounced.sampled]
    split <;> rfl
  rw [Debounced.debounce]
  split
  · next changes =>
      refine .inr ⟨rfl, ?_⟩
      have differs := changes.1
      rw [level] at differs
      cases raw : (input.sampled raw nowMs).raw <;> cases now : input.level <;>
        simp_all
  · exact .inl ⟨rfl, level⟩

/-- A button held is reported long, or nothing comes of it. -/
theorem held_cases (controls : Controls) (nowMs : BitVec 32) :
    controls.held nowMs = controls ∨
      controls.button.level = true ∧ controls.longReported = false ∧
        controls.held nowMs = { controls with longReported := true }.report .long := by
  rw [held]
  split
  · next long =>
      simp only [Bool.and_eq_true, Bool.not_eq_true'] at long
      exact .inr ⟨long.1.1.1, long.1.2, rfl⟩
  · exact .inl rfl

/-- From the button as it has been sampled, to what is reported of it. -/
theorem reports_of_sampled (sampled : Controls) (changed : Bool) (nowMs : BitVec 32) (on : Bool)
    (started : sampled.started = true) :
    ∃ press,
      Reporting (sampled.button.level ^^ changed) sampled.longReported
        (((sampled.edge changed).held nowMs).switch on nowMs).buttonDown
        (((sampled.edge changed).held nowMs).switch on nowMs).longReported press ∧
      Reports sampled (((sampled.edge changed).held nowMs).switch on nowMs) press := by
  -- a button that stays down, or has just gone down, is reported long or not at all
  have whenDown (before : Controls) (same : before.pressCount = sampled.pressCount)
      (running : before.started = true) (down : before.button.level = true)
      (was reported : Bool)
      (quiet : Reporting was reported true before.longReported none)
      (long : before.longReported = false → Reporting was reported true true (some .long)) :
      ∃ press,
        Reporting was reported ((before.held nowMs).switch on nowMs).buttonDown
          ((before.held nowMs).switch on nowMs).longReported press ∧
        Reports sampled ((before.held nowMs).switch on nowMs) press := by
    obtain stays | ⟨-, fresh, reportedLong⟩ := before.held_cases nowMs
    · rw [stays]
      refine ⟨none, ?_, running, same.trans (add_zero _).symm, fun _ none => by cases none⟩
      rw [buttonDown]
      change Reporting was reported before.button.level before.longReported none
      rw [down]
      exact quiet
    · rw [reportedLong]
      refine ⟨some .long, ?_, running, congrArg (· + 1) same, fun kind long => ?_⟩
      · change Reporting was reported before.button.level true (some .long)
        rw [down]
        exact long fresh
      · exact Option.some.inj long
  have whenUp (before : Controls) (up : before.button.level = false) :
      (before.held nowMs).switch on nowMs = before.switch on nowMs := by
    obtain stays | ⟨down, -⟩ := before.held_cases nowMs
    · rw [stays]
    · rw [up] at down
      cases down
  cases changed with
  | false =>
      have same : sampled.edge false = sampled := rfl
      rw [same, Bool.xor_false]
      cases level : sampled.button.level with
      | true =>
          exact whenDown sampled rfl started level true _ (.down _) fun fresh =>
            fresh ▸ Reporting.long
      | false =>
          rw [whenUp sampled level]
          refine ⟨none, ?_, started, (add_zero _).symm, fun _ none => by cases none⟩
          change Reporting false _ sampled.button.level _ none
          rw [level]
          exact .up _
  | true =>
      rw [Bool.xor_true]
      cases level : sampled.button.level with
      | true =>
          have fresh : sampled.edge true = { sampled with longReported := false } := by
            rw [edge, level]
            rfl
          rw [fresh]
          exact whenDown { sampled with longReported := false } rfl started level false _ (.begins _)
            fun _ => .beginsLong _
      | false =>
          cases reported : sampled.longReported with
          | true =>
              have quiet : sampled.edge true = sampled := by
                rw [edge, level, reported]
                rfl
              rw [quiet, whenUp sampled level]
              refine ⟨none, ?_, started, (add_zero _).symm, fun _ none => by cases none⟩
              change Reporting true true sampled.button.level sampled.longReported none
              rw [level, reported]
              exact .ends
          | false =>
              have short : sampled.edge true = sampled.report .short := by
                rw [edge, level, reported]
                rfl
              rw [short, whenUp (sampled.report .short) level]
              refine ⟨some .short, ?_, started, rfl, fun kind short => Option.some.inj short⟩
              change Reporting true false sampled.button.level sampled.longReported (some .short)
              rw [level, reported]
              exact .short

/-- Once started, a service moves the button as `Reporting` has it. -/
theorem service_reports (controls : Controls) (nowMs : BitVec 32) (pressed on : Bool)
    (started : controls.started = true) :
    ∃ press,
      Reporting controls.buttonDown controls.longReported
        (controls.service nowMs pressed on).buttonDown
        (controls.service nowMs pressed on).longReported press ∧
      Reports controls (controls.service nowMs pressed on) press := by
  have level := debounce_level controls.button pressed nowMs
  have before : ((controls.button.debounce pressed nowMs).2.level ^^
      (controls.button.debounce pressed nowMs).1) = controls.button.level := by
    obtain ⟨changed, same⟩ | ⟨changed, other⟩ := level
    · rw [changed, same, Bool.xor_false]
    · rw [changed, other, Bool.xor_true, Bool.not_not]
  obtain ⟨press, reporting, reports⟩ := reports_of_sampled
    { controls.countBounce (controls.button.bounces pressed) with
      button := (controls.button.debounce pressed nowMs).2 }
    (controls.button.debounce pressed nowMs).1 nowMs on started
  rw [service, started]
  refine ⟨press, ?_, reports.started, reports.count, reports.last⟩
  change Reporting controls.button.level _ _ _ press
  rw [← before]
  exact reporting

/-- The first sample is no press, and one held through it is not reported. -/
theorem service_first (controls : Controls) (nowMs : BitVec 32) (pressed on : Bool)
    (first : controls.started = false) :
    (controls.service nowMs pressed on).buttonDown = pressed ∧
      (controls.service nowMs pressed on).longReported = pressed ∧
      (controls.service nowMs pressed on).started = true ∧
      (controls.service nowMs pressed on).pressCount = controls.pressCount := by
  rw [service, first]
  exact ⟨rfl, rfl, rfl, rfl⟩

end Controls

end GpsClock.Ui
