import Mathlib

/-! # The epoch control loop

`epoch_control.c`: ACQUIRE, STEP, TRACK. What the loop's filters say in an epoch
(the Kalman filter's period, the gate's verdict, the length of the next period) is
given to each update as `LoopNumbers`, so that what is proved here holds whatever
they say.
-/

namespace GpsClock.Timing

/-- `TIMING_NOMINAL_TICKS`. -/
abbrev timingNominalTicks : Int := 40000000

/-- `TIMING_HALF_SECOND_TICKS`. -/
abbrev timingHalfSecondTicks : Int := 20000000

/-- `TIMING_TICKS_PER_MS`. -/
abbrev timingTicksPerMs : Int := 40000

/-- `EPOCH_ACQUIRE_DELAY`. -/
def epochAcquireDelay : BitVec 32 := 3

/-- `EPOCH_STEP_HOLD_MIN`. -/
def epochStepHoldMin : Nat := 10

/-- `EPOCH_STEP_HOLD_MAX`. -/
def epochStepHoldMax : Nat := 600

/-- What a snapshot tells the loop and the synchroniser. -/
structure TimingSnapshot where
  sequence : BitVec 32 := 0
  runningPeriod : BitVec 32 := 40000000
  referenceCaptureValid : Bool := false
  referenceCapture : BitVec 32 := 0
  epochCaptureValid : Bool := false
  epochCapture : BitVec 32 := 0
  deriving DecidableEq, Repr

/-- `EpochProfile`, as far as it is read outside the servo and its gate. -/
structure EpochProfile where
  gateTicks : Int
  deriving DecidableEq, Repr

/-- `epoch_profile_precise`. -/
def epochProfilePrecise : EpochProfile := ⟨16⟩

inductive EpochSyncState
  | acquire
  | stepActive
  | track
  deriving DecidableEq, Repr

inductive EpochUpdateKind
  | measured
  | holdover
  | freeRun
  | incomplete
  deriving DecidableEq, Repr

structure EpochUpdate where
  kind : EpochUpdateKind
  phaseValid : Bool
  utcOffsetTicks : Int
  deriving DecidableEq, Repr

inductive EpochPhaseGateResult
  | accepted
  | rejected
  | lost
  deriving DecidableEq, Repr

/-- What the filters and the servo make of one epoch. -/
structure LoopNumbers where
  /-- `filtered_pps_period`, once `update_kalman` has seen the epoch. -/
  filteredPeriod : BitVec 32 := 40000000
  /-- `seed_frequency`: the period to step with, if there is an estimate. -/
  seed : Option (BitVec 32) := none
  gate : EpochPhaseGateResult := .accepted
  /-- The predicted phase is within 1/32 of the gate. -/
  settled : Bool := false
  /-- The period `request_offset` asks for. -/
  period : BitVec 32 := 40000000
  deriving DecidableEq, Repr

structure EpochControl where
  state : EpochSyncState := .acquire
  lastResync : BitVec 32 := 0
  holdoverEpochs : BitVec 32 := 0
  referenceEpochs : BitVec 32 := 0
  profile : EpochProfile := epochProfilePrecise
  stepHold : Nat := 0
  stepHoldMin : Nat := 0
  freeRunStep : Int := 0
  freeRunStepTaken : Int := 0
  commandedPeriod : BitVec 32 := 40000000
  deriving DecidableEq, Repr

/-- `wrap_phase`: folded into [-period/2, period/2). -/
def wrapPhase (phase period : Int) : Int :=
  if period.tdiv 2 ≤ phase then phase - period
  else if phase < -period.tdiv 2 then phase + period
  else phase

/-- `compute_step`: one interval that moves the epoch by `-offset`, if it is a sane length. -/
def computeStep (base : BitVec 32) (offset : Int) : Option (BitVec 32) :=
  let period := base - BitVec.ofInt 32 offset
  if (period.toNat : Int) < timingHalfSecondTicks ∨
      timingHalfSecondTicks + timingNominalTicks < period.toNat then
    none
  else some period

namespace EpochControl

/-- `request_frequency`, and `request_offset` in general. -/
def request (loop : EpochControl) (numbers : LoopNumbers) : EpochControl :=
  { loop with commandedPeriod := numbers.period }

/-- `request_holdover`. -/
def requestHoldover (loop : EpochControl) (numbers : LoopNumbers) : EpochControl :=
  { loop with holdoverEpochs := loop.holdoverEpochs + 1 }.request numbers

/-- `enter_track`, which is all that `follow_step` does. -/
def enterTrack (loop : EpochControl) (sequence : BitVec 32) : EpochControl :=
  { loop with state := .track, lastResync := sequence }

/-- `enter_acquire`. -/
def enterAcquire (loop : EpochControl) : EpochControl :=
  { loop with state := .acquire }

/-- `acquire`: the step, or until it can be made, the frequency estimate. -/
def acquire (loop : EpochControl) (snapshot : TimingSnapshot) (utcOffsetTicks : Int)
    (filteredPeriod : BitVec 32) (numbers : LoopNumbers) : EpochControl :=
  if loop.referenceEpochs < epochAcquireDelay then loop.request numbers
  else
    let predicted :=
      wrapPhase (utcOffsetTicks + (snapshot.runningPeriod - filteredPeriod).toInt)
        filteredPeriod.toInt
    match computeStep filteredPeriod predicted with
    | some period => { loop with commandedPeriod := period, state := .stepActive }
    | none => loop.request numbers

/-- `follow_step_hold`. -/
def followStepHold (loop : EpochControl) (settled : Bool) : EpochControl :=
  if loop.stepHold = 0 then loop
  else if 0 < loop.stepHoldMin then
    { loop with stepHold := loop.stepHold - 1, stepHoldMin := loop.stepHoldMin - 1 }
  else { loop with stepHold := if settled then 0 else loop.stepHold - 1 }

/-- `track`. -/
def track (loop : EpochControl) (numbers : LoopNumbers) : EpochUpdateKind × EpochControl :=
  let loop := loop.followStepHold numbers.settled
  match numbers.gate with
  | .accepted => (.measured, { loop with holdoverEpochs := 0 }.request numbers)
  | .rejected => (.holdover, loop.requestHoldover numbers)
  | .lost => (.measured, loop.enterAcquire.request numbers)

/-- `use_reference`. -/
def useReference (loop : EpochControl) (snapshot : TimingSnapshot) (phaseValid : Bool)
    (utcOffsetTicks : Int) (numbers : LoopNumbers) : EpochUpdateKind × EpochControl :=
  let loop := { loop with referenceEpochs := loop.referenceEpochs + 1 }
  match loop.state with
  | .acquire =>
      if !phaseValid then (.incomplete, loop.request numbers)
      else
        match numbers.seed with
        | none => (.measured, loop.request numbers)
        | some period => (.measured, loop.acquire snapshot utcOffsetTicks period numbers)
  | .stepActive =>
      (if phaseValid then .measured else .incomplete,
        (loop.enterTrack snapshot.sequence).request numbers)
  | .track =>
      if !phaseValid then (.holdover, loop.requestHoldover numbers) else loop.track numbers

/-- `hold`: without a reference, the frequency; and in ACQUIRE the free run step, if
one is asked for, on top of it. -/
def hold (loop : EpochControl) (snapshot : TimingSnapshot) (numbers : LoopNumbers) :
    EpochUpdateKind × EpochControl :=
  match loop.state with
  | .stepActive => (.holdover, (loop.enterTrack snapshot.sequence).requestHoldover numbers)
  | .track => (.holdover, loop.requestHoldover numbers)
  | .acquire =>
      let loop := loop.request numbers
      (.freeRun,
        if loop.freeRunStep = 0 then loop
        else
          { loop with
            commandedPeriod := loop.commandedPeriod + BitVec.ofInt 32 loop.freeRunStep
            freeRunStepTaken := loop.freeRunStep
            freeRunStep := 0 })

/-- `epoch_control_update`. -/
def update (loop : EpochControl) (snapshot : TimingSnapshot) (referenceUsable : Bool)
    (referenceOffsetTicks : Int) (numbers : LoopNumbers) : EpochUpdate × EpochControl :=
  let phaseValid := snapshot.referenceCaptureValid && snapshot.epochCaptureValid
  let utcOffsetTicks :=
    if phaseValid then
      wrapPhase ((snapshot.epochCapture - snapshot.referenceCapture).toInt + referenceOffsetTicks)
        numbers.filteredPeriod.toInt
    else 0
  let (kind, loop) :=
    if referenceUsable then
      { loop with freeRunStep := 0 }.useReference snapshot phaseValid utcOffsetTicks numbers
    else loop.hold snapshot numbers
  (⟨kind, phaseValid, utcOffsetTicks⟩, loop)

/-- `epoch_control_restart`. -/
def restart (loop : EpochControl) (profile : Option EpochProfile) (slew : Bool) : EpochControl :=
  let loop :=
    { loop with
      profile := profile.getD loop.profile
      referenceEpochs := 0
      holdoverEpochs := 0
      stepHold := 0 }
  if slew ∧ loop.state = .track then loop else loop.enterAcquire

/-- `epoch_control_free_run_step`. -/
def requestFreeRunStep (loop : EpochControl) (ticks : Int) : EpochControl :=
  { loop with
    freeRunStep :=
      if timingHalfSecondTicks < ticks then timingHalfSecondTicks
      else if ticks < -timingHalfSecondTicks then -timingHalfSecondTicks
      else ticks }

/-- `epoch_control_source_stepped`. -/
def sourceStepped (loop : EpochControl) : EpochControl :=
  { loop with stepHold := epochStepHoldMax, stepHoldMin := epochStepHoldMin }

/-! ## The free run step

A step is taken by `hold` in ACQUIRE and dropped by a usable reference; nothing else
touches it. -/

/-- The step asked for, and the last one taken. -/
def freeRunSteps (loop : EpochControl) : Int × Int :=
  (loop.freeRunStep, loop.freeRunStepTaken)

variable {loop : EpochControl} {snapshot : TimingSnapshot} {numbers : LoopNumbers}

@[simp] theorem request_freeRunSteps : (loop.request numbers).freeRunSteps = loop.freeRunSteps :=
  rfl

@[simp] theorem requestHoldover_freeRunSteps :
    (loop.requestHoldover numbers).freeRunSteps = loop.freeRunSteps :=
  rfl

@[simp] theorem enterTrack_freeRunSteps (sequence : BitVec 32) :
    (loop.enterTrack sequence).freeRunSteps = loop.freeRunSteps :=
  rfl

@[simp] theorem enterAcquire_freeRunSteps : loop.enterAcquire.freeRunSteps = loop.freeRunSteps :=
  rfl

@[simp] theorem followStepHold_freeRunSteps (settled : Bool) :
    (loop.followStepHold settled).freeRunSteps = loop.freeRunSteps := by
  unfold followStepHold
  split
  · rfl
  · split <;> rfl

@[simp] theorem acquire_freeRunSteps (utcOffsetTicks : Int) (filteredPeriod : BitVec 32) :
    (loop.acquire snapshot utcOffsetTicks filteredPeriod numbers).freeRunSteps =
      loop.freeRunSteps := by
  unfold acquire
  split
  · rfl
  · simp only
    split <;> rfl

@[simp] theorem track_freeRunSteps : (loop.track numbers).2.freeRunSteps = loop.freeRunSteps := by
  unfold track
  cases numbers.gate with
  | accepted => exact followStepHold_freeRunSteps numbers.settled
  | rejected => exact followStepHold_freeRunSteps numbers.settled
  | lost => exact followStepHold_freeRunSteps numbers.settled

theorem useReference_freeRunSteps (phaseValid : Bool) (utcOffsetTicks : Int) :
    (loop.useReference snapshot phaseValid utcOffsetTicks numbers).2.freeRunSteps =
      loop.freeRunSteps := by
  unfold useReference
  simp only
  split
  · split
    · rfl
    · split
      · rfl
      · rw [acquire_freeRunSteps]
        rfl
  · rfl
  · split
    · rfl
    · rw [track_freeRunSteps]
      rfl

theorem update_unusable (offsetTicks : Int) :
    (loop.update snapshot false offsetTicks numbers).2 = (loop.hold snapshot numbers).2 :=
  rfl

theorem hold_acquire (snapshot : TimingSnapshot) (numbers : LoopNumbers)
    (acquiring : loop.state = .acquire) :
    (loop.hold snapshot numbers).2.state = .acquire ∧
      (loop.hold snapshot numbers).2.freeRunStep = 0 := by
  unfold hold
  rw [acquiring]
  simp only
  split
  · next none => exact ⟨acquiring, none⟩
  · exact ⟨acquiring, rfl⟩

/-- In ACQUIRE without a reference the next period is the one asked for, and the step. -/
theorem hold_commandedPeriod (snapshot : TimingSnapshot) (numbers : LoopNumbers)
    (acquiring : loop.state = .acquire) :
    (loop.hold snapshot numbers).2.commandedPeriod =
      numbers.period + BitVec.ofInt 32 loop.freeRunStep := by
  unfold hold
  rw [acquiring]
  simp only
  split
  · next none =>
      have still : loop.freeRunStep = 0 := none
      rw [still]
      exact (BitVec.add_zero _).symm
  · rfl

theorem hold_freeRunSteps (none : loop.freeRunStep = 0) :
    (loop.hold snapshot numbers).2.freeRunSteps = loop.freeRunSteps := by
  unfold hold
  cases loop.state with
  | stepActive => rfl
  | track => rfl
  | acquire =>
      have still : (loop.request numbers).freeRunStep = 0 := none
      simp only [if_pos still, request_freeRunSteps]

/-- A step asked for while the loop acquires does not outlast the next update. -/
theorem update_freeRunStep (usable : Bool) (offsetTicks : Int)
    (pending : loop.freeRunStep ≠ 0 → loop.state = .acquire) :
    (loop.update snapshot usable offsetTicks numbers).2.freeRunStep = 0 := by
  cases usable with
  | true => exact congrArg Prod.fst (useReference_freeRunSteps _ _)
  | false =>
      by_cases none : loop.freeRunStep = 0
      · exact (congrArg Prod.fst (hold_freeRunSteps none)).trans none
      · exact (hold_acquire _ _ (pending none)).2

/-- With no step asked for, none is taken. -/
theorem update_freeRunStepTaken (usable : Bool) (offsetTicks : Int)
    (none : loop.freeRunStep = 0) :
    (loop.update snapshot usable offsetTicks numbers).2.freeRunStepTaken =
      loop.freeRunStepTaken := by
  cases usable with
  | true => exact congrArg Prod.snd (useReference_freeRunSteps _ _)
  | false => exact congrArg Prod.snd (hold_freeRunSteps none)

theorem restart_state (profile : Option EpochProfile) (slew : Bool)
    (acquiring : loop.state = .acquire) : (loop.restart profile slew).state = .acquire := by
  unfold restart
  simp only
  split
  · exact acquiring
  · rfl

theorem restart_freeRunSteps (loop : EpochControl) (profile : Option EpochProfile) (slew : Bool) :
    (loop.restart profile slew).freeRunSteps = loop.freeRunSteps := by
  unfold restart
  simp only
  split <;> rfl

end EpochControl

end GpsClock.Timing
