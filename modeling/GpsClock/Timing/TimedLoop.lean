import GpsClock.Lib.Simulation
import GpsClock.Timing.LoopRuns

/-! # The whole loop closed over its timer

The loop with its filters, and the timer that loads what it asks for. Seen without the
filters every run of it is one of the loop of `GpsClock.Timing.ClosedLoop`, event for
event, with numbers that the filters give for what that one is given
(`GpsClock.Timing.TimedLoop.run_refines`).
-/

namespace GpsClock.Timing

/-- The latest epoch's time in ticks, and the timer and the whole loop after it. -/
structure TimedLoop where
  now : Int
  timer : EpochTimer := {}
  loop : ControlLoop := {}

/-- What an epoch brings: the reference edge's time, which captures are in, how usable they
are, and the reference's period. -/
structure TimedInput where
  reference : Int
  referenceCaptured : Bool
  epochCaptured : Bool
  usable : Bool
  offsetTicks : Int
  periodValid : Bool
  periodSequence : BitVec 32
  period : BitVec 32

inductive TimedEvent
  | epoch (input : TimedInput)
  | restart (profile : Option LoopProfile) (slew : Bool)
  | seed (offsetQ16 : Int)
  | freeRunStep (ticks : Int)
  | sourceStepped

namespace TimedLoop

/-- What the loop is given: captures of the one timebase, as 32 bits of it. -/
def heard (state : TimedLoop) (input : TimedInput) : EpochInput where
  snapshot :=
    { sequence := state.timer.sequence
      runningPeriod := state.timer.running
      referenceCaptureValid := input.referenceCaptured
      referenceCapture := BitVec.ofInt 32 input.reference
      epochCaptureValid := input.epochCaptured
      epochCapture := BitVec.ofInt 32 state.now }
  referencePeriodValid := input.periodValid
  referencePeriodSequence := input.periodSequence
  referencePeriod := input.period
  usable := input.usable
  offsetTicks := input.offsetTicks

/-- An epoch's update, which ends with a request in every branch, and the next epoch. -/
def epoch (state : TimedLoop) (input : TimedInput) : TimedLoop :=
  let loop := (state.loop.update (state.heard input)).2
  { now := state.now + state.timer.running.toNat
    timer := (state.timer.setPeriod loop.commandedPeriod).interrupt
    loop := loop }

/-- A loop and a timer as they are initialised, at any time. -/
def machine : Machine TimedLoop TimedEvent where
  start state := state.timer = {} ∧ state.loop = {}
  step state event :=
    match event with
    | .epoch input => state.epoch input
    | .restart profile slew => { state with loop := state.loop.restart profile slew }
    | .seed offsetQ16 => { state with loop := state.loop.seed offsetQ16 }
    | .freeRunStep ticks => { state with loop := state.loop.requestFreeRunStep ticks }
    | .sourceStepped => { state with loop := state.loop.sourceStepped }

/-- Without the filters. -/
def view (state : TimedLoop) : ClosedLoop where
  now := state.now
  timer := state.timer
  loop := state.loop.control

/-- A profile, without what only the filters read. -/
def epochProfile (profile : LoopProfile) : EpochProfile := ⟨profile.gateTicks⟩

/-- The same event for the loop without its filters, with some numbers for theirs; that
loop has nothing to seed. -/
inductive SeenAs : TimedEvent → List ClosedEvent → Prop
  | epoch (input : TimedInput) (numbers : LoopNumbers) :
      SeenAs (.epoch input)
        [.epoch
          { reference := input.reference
            referenceCaptured := input.referenceCaptured
            epochCaptured := input.epochCaptured
            usable := input.usable
            offsetTicks := input.offsetTicks
            numbers := numbers }]
  | restart (profile : Option LoopProfile) (slew : Bool) :
      SeenAs (.restart profile slew) [.restart (profile.map epochProfile) slew]
  | seed (offsetQ16 : Int) : SeenAs (.seed offsetQ16) []
  | freeRunStep (ticks : Int) : SeenAs (.freeRunStep ticks) [.freeRunStep ticks]
  | sourceStepped : SeenAs .sourceStepped [.sourceStepped]

variable {state : TimedLoop} {input : TimedInput}

/-- What an epoch is given, without the filters. -/
def seenInput (input : TimedInput) (numbers : LoopNumbers) : ClosedInput where
  reference := input.reference
  referenceCaptured := input.referenceCaptured
  epochCaptured := input.epochCaptured
  usable := input.usable
  offsetTicks := input.offsetTicks
  numbers := numbers

/-- An epoch is one of the loop without its filters, with numbers that they give. -/
theorem epoch_refines (state : TimedLoop) (input : TimedInput) :
    ∃ numbers : LoopNumbers, Synthesised numbers ∧
      numbers.filteredPeriod = (state.loop.learnt (state.heard input)).filteredPpsPeriod ∧
        state.view.epoch (seenInput input numbers) = (state.epoch input).view := by
  obtain ⟨numbers, synthesised, filtered, refines⟩ := state.loop.update_refines (state.heard input)
  refine ⟨numbers, synthesised, filtered, ?_⟩
  have next : EpochControl.machine.step state.view.loop
      (state.view.heard (seenInput input numbers)) =
        (state.loop.update (state.heard input)).2.control :=
    (congrArg Prod.snd refines).symm
  rw [ClosedLoop.epoch, next]
  rfl

theorem simulation : Machine.Simulation machine (fun _ _ => True) ClosedLoop.machine
    ClosedLoop.Admits view SeenAs where
  start := by
    rintro ⟨now, timer, loop⟩ ⟨rfl, rfl⟩
    exact ⟨rfl, rfl⟩
  step state event _ := by
    cases event with
    | epoch input =>
        obtain ⟨numbers, synthesised, -, next⟩ := state.epoch_refines input
        refine ⟨_, .epoch input numbers, .cons _ synthesised ?_⟩
        change ClosedLoop.machine.Run _ (state.view.epoch (seenInput input numbers)) _ _
        rw [next]
        exact .nil _
    | restart profile slew =>
        have next := state.loop.restart_refines profile slew
        refine ⟨_, .restart profile slew, .cons _ trivial ?_⟩
        change ClosedLoop.machine.Run _ ⟨state.now, state.timer,
          state.loop.control.restart (profile.map fun profile => ⟨profile.gateTicks⟩) slew⟩ _ _
        rw [← next]
        exact .nil _
    | seed offsetQ16 => exact ⟨_, .seed offsetQ16, .nil _⟩
    | freeRunStep ticks => exact ⟨_, .freeRunStep ticks, .cons _ trivial (.nil _)⟩
    | sourceStepped => exact ⟨_, .sourceStepped, .cons _ trivial (.nil _)⟩

/-- Whatever is captured, whatever references and profiles are handed over and however the
filter is seeded: a run of the whole loop and its timer is, event for event, one of the loop
that is given its filters' numbers, each epoch's period made of nominal and an offset; and no
interval it runs is longer than a second and a half. -/
theorem run_refines {final : TimedLoop} {events : List TimedEvent}
    (initial : machine.start state) (run : machine.Run (fun _ _ => True) state events final) :
    (∃ blocks, List.Forall₂ SeenAs events blocks ∧
        ClosedLoop.machine.Run ClosedLoop.Admits state.view blocks.flatten final.view) ∧
      final.timer.running.toNat ≤ 60032768 := by
  obtain ⟨blocks, same, seen⟩ := simulation.run run
  have started := ClosedLoop.bounded.start _ (simulation.start _ initial)
  exact ⟨⟨blocks, same, seen⟩, (ClosedLoop.bounded.run started seen).running⟩

/-- A reference's edge so many seconds in, with the second's length before it. -/
def edgeAt (seconds : Nat) : TimedInput where
  reference := 40000000 * seconds
  referenceCaptured := true
  epochCaptured := true
  usable := true
  offsetTicks := 0
  periodValid := true
  periodSequence := BitVec.ofNat 32 seconds
  period := 40000000

/-- Seeded, handed to a network's profile, and then two seconds. -/
theorem run_refines_handed_over :
    let events := [.seed 65536, .restart (some ntpProfile) false, .epoch (edgeAt 1),
      .epoch (edgeAt 2)]
    let final := events.foldl machine.step { now := 0 }
    (∃ blocks, List.Forall₂ SeenAs events blocks ∧
        ClosedLoop.machine.Run ClosedLoop.Admits (view { now := 0 }) blocks.flatten final.view) ∧
      final.timer.running.toNat ≤ 60032768 :=
  run_refines ⟨rfl, rfl⟩ (.foldl (fun _ _ => trivial) _ _)

end TimedLoop

end GpsClock.Timing
