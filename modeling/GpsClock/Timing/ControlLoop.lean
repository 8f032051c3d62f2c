import GpsClock.Timing.ClosedLoop
import GpsClock.Timing.Kalman
import GpsClock.Timing.PiServo

/-! # The whole control loop

`epoch_control.c` with its filters: the Kalman filter is taught or seeded, the phase
predicted and gated, and the next period asked for from what the servo and the filter say.
The loop as it is modelled with its filters' numbers given is what this one does, whatever
they come to (`GpsClock.Timing.ControlLoop.update_refines`).
-/

namespace GpsClock.Timing

/-- `EpochProfile`. -/
structure LoopProfile where
  gains : ServoGains
  gateTicks : Int
  rejectLimit : Nat
  learnFrequency : Bool
  deriving DecidableEq, Repr

/-- `epoch_profile_precise`. -/
def loopProfilePrecise : LoopProfile where
  gains := { kpQ16 := 8192, kiQ16 := 256, integralLimitTicks := 8, correctionLimitTicks := 16 }
  gateTicks := 16
  rejectLimit := 4
  learnFrequency := true

/-- `ntp_profile`. -/
def ntpProfile : LoopProfile where
  gains := { kpQ16 := 1024, kiQ16 := 4, integralLimitTicks := 400, correctionLimitTicks := 400 }
  gateTicks := 12000
  rejectLimit := 8
  learnFrequency := false

/-! ## The phase -/

/-- `EPOCH_PHASE_CALIBRATION_Q16`. -/
abbrev epochPhaseCalibrationQ16 : Int := 32768

/-- `servo_phase_error_q16`. -/
def servoPhaseErrorQ16 (measuredTicks calibrationQ16 : Int) : Int :=
  int32 (q16FromTicks (q16Clamp measuredTicks q16TickLimit) - calibrationQ16)

/-- `servo_phase_predict_q16`: the sum is one of 64 bits. -/
def servoPhasePredictQ16 (phaseErrorQ16 runningOffsetTicks kalmanOffsetQ16 : Int) : Int :=
  let limit := q16FromTicks q16TickLimit
  let predicted := phaseErrorQ16 + q16FromTicks (q16Clamp runningOffsetTicks q16TickLimit) -
    kalmanOffsetQ16
  if limit < predicted then limit else if predicted < -limit then -limit else predicted

structure EpochPhaseGate where
  limitQ16 : Int := 0
  rejectLimit : Nat := 1
  consecutiveRejects : Nat := 0
  rejected : BitVec 32 := 0
  deriving DecidableEq, Repr

namespace EpochPhaseGate

/-- `servo_gate_set_limits`. -/
def setLimits (gate : EpochPhaseGate) (limitTicks : Int) (rejectLimit : Nat) : EpochPhaseGate :=
  { gate with
    limitQ16 := EpochPiServo.limitQ16 limitTicks
    rejectLimit := if rejectLimit = 0 then 1 else rejectLimit }

/-- `servo_gate_reset`. -/
def reset (gate : EpochPhaseGate) : EpochPhaseGate := { gate with consecutiveRejects := 0 }

/-- `servo_gate_check`: the count is a `uint8_t`. -/
def check (gate : EpochPhaseGate) (predictedPhaseQ16 : Int) :
    EpochPhaseGateResult × EpochPhaseGate :=
  if predictedPhaseQ16 ≤ gate.limitQ16 ∧ int32 (-gate.limitQ16) ≤ predictedPhaseQ16 then
    (.accepted, { gate with consecutiveRejects := 0 })
  else
    let rejects := (gate.consecutiveRejects + 1) % 256
    if gate.rejectLimit ≤ rejects then
      (.lost, { gate with rejected := gate.rejected + 1, consecutiveRejects := 0 })
    else
      (.rejected, { gate with rejected := gate.rejected + 1, consecutiveRejects := rejects })

end EpochPhaseGate

/-- `servo_offset`, and the servo after it. -/
def servoOffset (servo : EpochPiServo) (kalmanOffsetQ16 phaseErrorQ16 : Int) : Int × EpochPiServo :=
  let updated := servo.update phaseErrorQ16
  (int32 (kalmanOffsetQ16 - updated.1), updated.2)

/-- `servo_holdover_offset`. -/
def servoHoldoverOffset (servo : EpochPiServo) (kalmanOffsetQ16 : Int) : Int :=
  if servo.enabled then int32 (kalmanOffsetQ16 - servo.integralQ16) else kalmanOffsetQ16

/-- `kalman_period`, of the offset to the nearest tick (`q16_round_to_ticks`). -/
def KalmanFilter.period (filter : KalmanFilter) : BitVec 32 :=
  filter.nominalPeriod + BitVec.ofInt 32 (qRoundShift filter.offsetQ16 16)

/-- The filter as `epoch_control_init` leaves it, with `PPS_KF_Q` and `PPS_KF_R`. -/
def ppsKalman : KalmanFilter where
  nominalPeriod := 40000000
  measurementVarianceQ16 := 65536
  processRatioQ30 := 1048576

example : KalmanFilter.init 40000000 64 65536 = some ppsKalman := by decide

/-! ## The loop -/

/-- `EPOCH_SEED_PERIODS`. -/
def epochSeedPeriods : BitVec 32 := 16

/-- What an epoch brings: its snapshot, with the period captured, and the reference. -/
structure EpochInput where
  snapshot : TimingSnapshot
  referencePeriodValid : Bool
  referencePeriodSequence : BitVec 32
  referencePeriod : BitVec 32
  usable : Bool
  offsetTicks : Int
  deriving DecidableEq, Repr

/-- `EpochControl`; as it stands, what `epoch_control_init` leaves. -/
structure ControlLoop where
  state : EpochSyncState := .acquire
  lastResync : BitVec 32 := 0
  lastPpsSequence : BitVec 32 := 0
  holdoverEpochs : BitVec 32 := 0
  referenceEpochs : BitVec 32 := 0
  discardPeriod : Bool := false
  profile : LoopProfile := loopProfilePrecise
  seedStarted : Bool := false
  seedFirst : BitVec 32 := 0
  seedSequence : BitVec 32 := 0
  seedPeriods : BitVec 32 := 0
  stepHold : Nat := 0
  stepHoldMin : Nat := 0
  freeRunStep : Int := 0
  freeRunStepTaken : Int := 0
  ppsKf : KalmanFilter := ppsKalman
  pi : EpochPiServo := .init loopProfilePrecise.gains
  gate : EpochPhaseGate :=
    EpochPhaseGate.setLimits {} loopProfilePrecise.gateTicks loopProfilePrecise.rejectLimit
  fractional : BitVec 16 := 0
  filteredPpsPeriod : BitVec 32 := 40000000
  predictedPhaseQ16 : Int := 0
  commandedOffsetQ16 : Int := 0
  commandedPeriod : BitVec 32 := 40000000
  deriving DecidableEq, Repr

namespace ControlLoop

/-- `update_kalman`. -/
def updateKalman (loop : ControlLoop) (input : EpochInput) : ControlLoop :=
  if !input.referencePeriodValid || input.referencePeriodSequence = loop.lastPpsSequence then loop
  else
    let loop := { loop with lastPpsSequence := input.referencePeriodSequence }
    if !input.usable || loop.discardPeriod || !loop.profile.learnFrequency then
      { loop with discardPeriod := false }
    else
      let filter := (loop.ppsKf.update input.referencePeriod).2
      { loop with ppsKf := filter, filteredPpsPeriod := filter.period }

/-- `request_offset`. -/
def requestOffset (loop : ControlLoop) (offsetQ16 : Int) : ControlLoop :=
  let next := servoFractionNext loop.fractional 40000000 (BitVec.ofInt 32 offsetQ16)
  { loop with commandedOffsetQ16 := offsetQ16, fractional := next.2, commandedPeriod := next.1 }

/-- `epoch_control_holdover_offset_q16`. -/
def holdoverOffsetQ16 (loop : ControlLoop) : Int :=
  servoHoldoverOffset loop.pi loop.ppsKf.offsetQ16

/-- `request_frequency`. -/
def requestFrequency (loop : ControlLoop) : ControlLoop :=
  loop.requestOffset loop.holdoverOffsetQ16

/-- `request_holdover`. -/
def requestHoldover (loop : ControlLoop) : ControlLoop :=
  { loop with holdoverEpochs := loop.holdoverEpochs + 1 }.requestFrequency

/-- `enter_track`, which is all that `follow_step` does. -/
def enterTrack (loop : ControlLoop) (sequence : BitVec 32) : ControlLoop :=
  { loop with
    pi := loop.pi.resetPhase.enable true
    fractional := 0
    gate := loop.gate.reset
    state := .track
    lastResync := sequence }

/-- `enter_acquire`. -/
def enterAcquire (loop : ControlLoop) : ControlLoop :=
  { loop with pi := (loop.pi.enable false).resetPhase, fractional := 0, state := .acquire }

/-- `seed_frequency`, the baseline with this capture. -/
def seedCount (loop : ControlLoop) (input : EpochInput) : ControlLoop :=
  if !loop.seedStarted || !input.referencePeriodValid ||
      input.referencePeriodSequence ≠ loop.seedSequence + 1 then
    { loop with
      seedStarted := true
      seedFirst := input.snapshot.referenceCapture
      seedPeriods := 0
      seedSequence := input.referencePeriodSequence }
  else
    { loop with
      seedPeriods := loop.seedPeriods + 1
      seedSequence := input.referencePeriodSequence }

/-- `excess_q16`: the baseline's length, less as many nominal seconds. -/
def seedExcessQ16 (loop : ControlLoop) (input : EpochInput) : Int :=
  (((input.snapshot.referenceCapture - loop.seedFirst).toNat : Int) -
    loop.seedPeriods.toNat * timingNominalTicks) * 65536

/-- `epoch_control_seed`: the filter from an offset. -/
def seed (loop : ControlLoop) (offsetQ16 : Int) : ControlLoop :=
  let filter := loop.ppsKf.acquire offsetQ16
  { loop with ppsKf := filter, filteredPpsPeriod := filter.period }

/-- `seed_frequency`, and whether there is an estimate to step with. -/
def seedFrequency (loop : ControlLoop) (input : EpochInput) : Bool × ControlLoop :=
  if loop.profile.learnFrequency || loop.ppsKf.initialized then (true, loop)
  else if !input.snapshot.referenceCaptureValid then (false, loop)
  else
    let loop := loop.seedCount input
    if loop.seedPeriods < epochSeedPeriods then (false, loop)
    else
      (true, loop.seed (int32 ((loop.seedExcessQ16 input).tdiv loop.seedPeriods.toNat)))

/-- `acquire`. -/
def acquire (loop : ControlLoop) (snapshot : TimingSnapshot) (utcOffsetTicks : Int) :
    ControlLoop :=
  if loop.referenceEpochs < epochAcquireDelay then loop.requestFrequency
  else
    let predicted :=
      wrapPhase (utcOffsetTicks + (snapshot.runningPeriod - loop.filteredPpsPeriod).toInt)
        loop.filteredPpsPeriod.toInt
    match computeStep loop.filteredPpsPeriod predicted with
    | some period =>
        { loop with predictedPhaseQ16 := 0, commandedPeriod := period, state := .stepActive }
    | none => { loop with predictedPhaseQ16 := 0 }.requestFrequency

/-- The predicted phase is within 1/32 of the gate. -/
def settled (loop : ControlLoop) : Bool :=
  let settle := q16FromTicks (loop.profile.gateTicks.tdiv 32)
  loop.predictedPhaseQ16 ≤ settle && -settle ≤ loop.predictedPhaseQ16

/-- `follow_step_hold`. -/
def followStepHold (loop : ControlLoop) : ControlLoop :=
  let held :=
    if loop.stepHold = 0 then loop
    else if 0 < loop.stepHoldMin then
      { loop with stepHold := loop.stepHold - 1, stepHoldMin := loop.stepHoldMin - 1 }
    else { loop with stepHold := if loop.settled then 0 else loop.stepHold - 1 }
  { held with pi := held.pi.hold (decide (0 < held.stepHold)) }

/-- `track`, as far as the phase it acts on. -/
def predict (loop : ControlLoop) (snapshot : TimingSnapshot) (utcOffsetTicks : Int) : ControlLoop :=
  { loop with
    predictedPhaseQ16 :=
      servoPhasePredictQ16 (servoPhaseErrorQ16 utcOffsetTicks epochPhaseCalibrationQ16)
        (snapshot.runningPeriod - 40000000).toInt loop.holdoverOffsetQ16 }

/-- `track`, once the phase is predicted. -/
def follow (loop : ControlLoop) : EpochUpdateKind × ControlLoop :=
  let loop := loop.followStepHold
  let checked := loop.gate.check loop.predictedPhaseQ16
  let gated := { loop with gate := checked.2 }
  match checked.1 with
  | .accepted =>
      let offset := servoOffset gated.pi gated.ppsKf.offsetQ16 gated.predictedPhaseQ16
      (.measured, { gated with holdoverEpochs := 0, pi := offset.2 }.requestOffset offset.1)
  | .rejected => (.holdover, gated.requestHoldover)
  | .lost => (.measured, gated.enterAcquire.requestFrequency)

/-- `track`. -/
def track (loop : ControlLoop) (snapshot : TimingSnapshot) (utcOffsetTicks : Int) :
    EpochUpdateKind × ControlLoop :=
  (loop.predict snapshot utcOffsetTicks).follow

/-- `use_reference`, its count. -/
def referred (loop : ControlLoop) : ControlLoop :=
  { loop with referenceEpochs := loop.referenceEpochs + 1 }

/-- `use_reference`. -/
def useReference (loop : ControlLoop) (input : EpochInput) (phaseValid : Bool)
    (utcOffsetTicks : Int) : EpochUpdateKind × ControlLoop :=
  let loop := loop.referred
  match loop.state with
  | .acquire =>
      if !phaseValid then (.incomplete, loop.requestFrequency)
      else
        let seeded := loop.seedFrequency input
        if seeded.1 then (.measured, seeded.2.acquire input.snapshot utcOffsetTicks)
        else (.measured, seeded.2.requestFrequency)
  | .stepActive =>
      (if phaseValid then .measured else .incomplete,
        (loop.enterTrack input.snapshot.sequence).requestFrequency)
  | .track =>
      if !phaseValid then (.holdover, loop.requestHoldover)
      else loop.track input.snapshot utcOffsetTicks

/-- `hold`. -/
def hold (loop : ControlLoop) (snapshot : TimingSnapshot) : EpochUpdateKind × ControlLoop :=
  match loop.state with
  | .stepActive => (.holdover, (loop.enterTrack snapshot.sequence).requestHoldover)
  | .track => (.holdover, loop.requestHoldover)
  | .acquire =>
      let loop := loop.requestFrequency
      (.freeRun,
        if loop.freeRunStep = 0 then loop
        else
          { loop with
            commandedPeriod := loop.commandedPeriod + BitVec.ofInt 32 loop.freeRunStep
            freeRunStepTaken := loop.freeRunStep
            freeRunStep := 0 })

/-- `epoch_control_update`, once the filter has seen the epoch. -/
def learnt (loop : ControlLoop) (input : EpochInput) : ControlLoop :=
  let loop := loop.updateKalman input
  { loop with
    discardPeriod := loop.discardPeriod || !input.usable
    freeRunStep := if input.usable then 0 else loop.freeRunStep }

/-- `epoch_control_update`, whether both captures are in. -/
def phaseValid (input : EpochInput) : Bool :=
  input.snapshot.referenceCaptureValid && input.snapshot.epochCaptureValid

/-- `epoch_control_update`, the phase. -/
def measuredTicks (loop : ControlLoop) (input : EpochInput) : Int :=
  if phaseValid input then
    wrapPhase
      ((input.snapshot.epochCapture - input.snapshot.referenceCapture).toInt + input.offsetTicks)
      loop.filteredPpsPeriod.toInt
  else 0

/-- `epoch_control_update`. -/
def update (loop : ControlLoop) (input : EpochInput) : EpochUpdate × ControlLoop :=
  let loop := loop.learnt input
  let next :=
    if input.usable then loop.useReference input (phaseValid input) (loop.measuredTicks input)
    else loop.hold input.snapshot
  (⟨next.1, phaseValid input, loop.measuredTicks input⟩, next.2)

/-- `epoch_control_restart`. -/
def restart (loop : ControlLoop) (profile : Option LoopProfile) (slew : Bool) : ControlLoop :=
  let profile := profile.getD loop.profile
  let loop :=
    { loop with
      profile := profile
      pi := (loop.pi.setGains profile.gains).hold false
      gate := (loop.gate.setLimits profile.gateTicks profile.rejectLimit).reset
      referenceEpochs := 0
      holdoverEpochs := 0
      discardPeriod := true
      seedStarted := false
      stepHold := 0 }
  if slew && loop.state = .track then { loop with pi := loop.pi.resetPhase }
  else
    let loop := loop.enterAcquire
    { loop with pi := loop.pi.reset }

/-- `epoch_control_free_run_step`. -/
def requestFreeRunStep (loop : ControlLoop) (ticks : Int) : ControlLoop :=
  { loop with
    freeRunStep :=
      if timingHalfSecondTicks < ticks then timingHalfSecondTicks
      else if ticks < -timingHalfSecondTicks then -timingHalfSecondTicks
      else ticks }

/-- `epoch_control_source_stepped`. -/
def sourceStepped (loop : ControlLoop) : ControlLoop :=
  { loop with stepHold := epochStepHoldMax, stepHoldMin := epochStepHoldMin }

/-! ## What it does with its filters' numbers -/

/-- The loop without its filters. -/
def control (loop : ControlLoop) : EpochControl where
  state := loop.state
  lastResync := loop.lastResync
  holdoverEpochs := loop.holdoverEpochs
  referenceEpochs := loop.referenceEpochs
  profile := ⟨loop.profile.gateTicks⟩
  stepHold := loop.stepHold
  stepHoldMin := loop.stepHoldMin
  freeRunStep := loop.freeRunStep
  freeRunStepTaken := loop.freeRunStepTaken
  commandedPeriod := loop.commandedPeriod

variable {loop : ControlLoop} {input : EpochInput}

/-- Teaching the filter changes nothing else. -/
theorem updateKalman_control (loop : ControlLoop) (input : EpochInput) :
    (loop.updateKalman input).control = loop.control := by
  rw [updateKalman]
  split
  · rfl
  · dsimp only
    split <;> rfl

theorem learnt_control (loop : ControlLoop) (input : EpochInput) :
    (loop.learnt input).control =
      { loop.control with freeRunStep := if input.usable then 0 else loop.freeRunStep } := by
  have same := loop.updateKalman_control input
  have step : (loop.updateKalman input).freeRunStep = loop.freeRunStep :=
    congrArg EpochControl.freeRunStep same
  rw [← same, learnt, step]
  rfl

theorem seed_control (loop : ControlLoop) (offsetQ16 : Int) :
    (loop.seed offsetQ16).control = loop.control := rfl

/-- Nor does seeding it. -/
theorem seedFrequency_control (loop : ControlLoop) (input : EpochInput) :
    (loop.seedFrequency input).2.control = loop.control := by
  have counted : (loop.seedCount input).control = loop.control := by
    rw [seedCount]
    split <;> rfl
  rw [seedFrequency]
  split
  · rfl
  · split
    · rfl
    · dsimp only
      split
      · exact counted
      · exact (seed_control _ _).trans counted

theorem followStepHold_control (loop : ControlLoop) :
    loop.followStepHold.control = loop.control.followStepHold loop.settled := by
  have hold (held : ControlLoop) (holding : Bool) :
      ({ held with pi := held.pi.hold holding } : ControlLoop).control = held.control := rfl
  rw [followStepHold, hold, EpochControl.followStepHold]
  change (if loop.stepHold = 0 then _ else _ : ControlLoop).control =
    if loop.stepHold = 0 then _ else _
  by_cases none : loop.stepHold = 0
  · rw [if_pos none, if_pos none]
  · rw [if_neg none, if_neg none]
    change (if 0 < loop.stepHoldMin then _ else _ : ControlLoop).control =
      if 0 < loop.stepHoldMin then _ else _
    split <;> rfl

/-- A period made of nominal and an offset. -/
def Asked (period : BitVec 32) : Prop :=
  ∃ accumulatorQ16 offsetQ16,
    period = (servoFractionNext accumulatorQ16 40000000 offsetQ16).1

theorem requestOffset_asked (loop : ControlLoop) (offsetQ16 : Int) :
    Asked (loop.requestOffset offsetQ16).commandedPeriod :=
  ⟨_, _, rfl⟩

theorem requestOffset_control (loop : ControlLoop) (offsetQ16 : Int) (numbers : LoopNumbers)
    (period : numbers.period = (loop.requestOffset offsetQ16).commandedPeriod) :
    (loop.requestOffset offsetQ16).control = loop.control.request numbers := by
  rw [EpochControl.request, period]
  rfl

/-- An epoch without a reference. -/
theorem hold_refines (loop : ControlLoop) (snapshot : TimingSnapshot) :
    ∃ period, Asked period ∧ ∀ numbers : LoopNumbers, numbers.period = period →
      ((loop.hold snapshot).1, (loop.hold snapshot).2.control) =
        loop.control.hold snapshot numbers := by
  cases state : loop.state with
  | stepActive =>
      have same : loop.control.state = .stepActive := state
      refine ⟨(loop.enterTrack snapshot.sequence).requestHoldover.commandedPeriod,
        requestOffset_asked _ _, fun numbers period => ?_⟩
      rw [hold, state, EpochControl.hold, same]
      exact congrArg _ (requestOffset_control _ _ numbers period)
  | track =>
      have same : loop.control.state = .track := state
      refine ⟨loop.requestHoldover.commandedPeriod, requestOffset_asked _ _,
        fun numbers period => ?_⟩
      rw [hold, state, EpochControl.hold, same]
      exact congrArg _ (requestOffset_control _ _ numbers period)
  | acquire =>
      have same : loop.control.state = .acquire := state
      refine ⟨loop.requestFrequency.commandedPeriod, requestOffset_asked _ _,
        fun numbers period => ?_⟩
      rw [hold, state, EpochControl.hold, same, EpochControl.request, period]
      dsimp only
      change (_, (if loop.freeRunStep = 0 then _ else _ : ControlLoop).control) =
        (_, if loop.freeRunStep = 0 then _ else _)
      split <;> rfl

/-- An epoch with one, in TRACK. -/
theorem follow_refines (loop : ControlLoop) :
    ∃ period, Asked period ∧ ∀ numbers : LoopNumbers, numbers.period = period →
      numbers.settled = loop.settled →
      numbers.gate = (loop.followStepHold.gate.check loop.followStepHold.predictedPhaseQ16).1 →
        (loop.follow.1, loop.follow.2.control) = loop.control.track numbers := by
  have held := loop.followStepHold_control
  refine ⟨loop.follow.2.commandedPeriod, ?_, fun numbers period settled gate => ?_⟩
  · rw [follow]
    dsimp only
    split <;> exact requestOffset_asked _ _
  · rw [EpochControl.track, settled, ← held, gate]
    rw [follow] at period ⊢
    dsimp only at period ⊢
    cases checked : (loop.followStepHold.gate.check loop.followStepHold.predictedPhaseQ16).1 with
    | accepted =>
        rw [checked] at period
        exact congrArg _ (requestOffset_control _ _ numbers period)
    | rejected =>
        rw [checked] at period
        exact congrArg _ (requestOffset_control _ _ numbers period)
    | lost =>
        rw [checked] at period
        exact congrArg _ (requestOffset_control _ _ numbers period)

/-- An epoch with one, in ACQUIRE with an estimate. -/
theorem acquire_refines (loop : ControlLoop) (snapshot : TimingSnapshot) (utcOffsetTicks : Int) :
    ∃ period, Asked period ∧ ∀ numbers : LoopNumbers, numbers.period = period →
      (loop.acquire snapshot utcOffsetTicks).control =
        loop.control.acquire snapshot utcOffsetTicks loop.filteredPpsPeriod numbers := by
  refine ⟨loop.requestFrequency.commandedPeriod, requestOffset_asked _ _,
    fun numbers period => ?_⟩
  rw [acquire, EpochControl.acquire]
  change (if loop.referenceEpochs < epochAcquireDelay then _ else _ : ControlLoop).control =
    if loop.referenceEpochs < epochAcquireDelay then _ else _
  by_cases early : loop.referenceEpochs < epochAcquireDelay
  · rw [if_pos early, if_pos early]
    exact requestOffset_control _ _ numbers period
  · rw [if_neg early, if_neg early]
    dsimp only
    generalize computeStep loop.filteredPpsPeriod _ = step
    cases step with
    | none => exact requestOffset_control _ _ numbers period
    | some step => rfl

end ControlLoop

namespace EpochControl

/-- `use_reference`, its count. -/
def counted (loop : EpochControl) : EpochControl :=
  { loop with referenceEpochs := loop.referenceEpochs + 1 }

variable {loop : EpochControl} {numbers : LoopNumbers}

theorem useReference_stepActive (snapshot : TimingSnapshot) (phaseValid : Bool)
    (utcOffsetTicks : Int) (active : loop.state = .stepActive) :
    loop.useReference snapshot phaseValid utcOffsetTicks numbers =
      (if phaseValid then .measured else .incomplete,
        (loop.counted.enterTrack snapshot.sequence).request numbers) := by
  obtain ⟨state, _⟩ := loop
  cases active
  rfl

theorem useReference_track (snapshot : TimingSnapshot) (phaseValid : Bool) (utcOffsetTicks : Int)
    (tracking : loop.state = .track) :
    loop.useReference snapshot phaseValid utcOffsetTicks numbers =
      if !phaseValid then (.holdover, loop.counted.requestHoldover numbers)
      else loop.counted.track numbers := by
  obtain ⟨state, _⟩ := loop
  cases tracking
  rfl

theorem useReference_acquire (snapshot : TimingSnapshot) (utcOffsetTicks : Int)
    (acquiring : loop.state = .acquire) :
    loop.useReference snapshot false utcOffsetTicks numbers =
        (.incomplete, loop.counted.request numbers) ∧
      (numbers.seed = none → loop.useReference snapshot true utcOffsetTicks numbers =
        (.measured, loop.counted.request numbers)) ∧
      ∀ period, numbers.seed = some period →
        loop.useReference snapshot true utcOffsetTicks numbers =
          (.measured, loop.counted.acquire snapshot utcOffsetTicks period numbers) := by
  obtain ⟨state, _⟩ := loop
  cases acquiring
  refine ⟨rfl, fun none => ?_, fun period some => ?_⟩
  · simp only [useReference, none]
    rfl
  · simp only [useReference, some]
    rfl

end EpochControl

namespace ControlLoop

variable {loop : ControlLoop} {input : EpochInput}

/-- An epoch with one. -/
theorem useReference_refines (loop : ControlLoop) (input : EpochInput) (phaseValid : Bool)
    (utcOffsetTicks : Int) :
    ∃ numbers : LoopNumbers, Asked numbers.period ∧
      numbers.filteredPeriod = loop.filteredPpsPeriod ∧
        ((loop.useReference input phaseValid utcOffsetTicks).1,
            (loop.useReference input phaseValid utcOffsetTicks).2.control) =
          loop.control.useReference input.snapshot phaseValid utcOffsetTicks numbers := by
  cases state : loop.state with
  | stepActive =>
      have same : loop.referred.state = .stepActive := state
      let numbers : LoopNumbers :=
        { filteredPeriod := loop.filteredPpsPeriod
          period :=
            (loop.referred.enterTrack input.snapshot.sequence).requestFrequency.commandedPeriod }
      refine ⟨numbers, requestOffset_asked _ _, rfl, ?_⟩
      rw [EpochControl.useReference_stepActive _ _ _ state, useReference, same]
      exact congrArg _ (requestOffset_control _ _ numbers rfl)
  | track =>
      have same : loop.referred.state = .track := state
      cases phaseValid with
      | false =>
          let numbers : LoopNumbers :=
            { filteredPeriod := loop.filteredPpsPeriod
              period := loop.referred.requestHoldover.commandedPeriod }
          refine ⟨numbers, requestOffset_asked _ _, rfl, ?_⟩
          rw [EpochControl.useReference_track _ _ _ state, useReference, same]
          exact congrArg _ (requestOffset_control _ _ numbers rfl)
      | true =>
          let predicted := loop.referred.predict input.snapshot utcOffsetTicks
          obtain ⟨period, asked, refines⟩ := predicted.follow_refines
          let numbers : LoopNumbers :=
            { filteredPeriod := loop.filteredPpsPeriod
              gate := (predicted.followStepHold.gate.check
                predicted.followStepHold.predictedPhaseQ16).1
              settled := predicted.settled
              period := period }
          refine ⟨numbers, asked, rfl, ?_⟩
          rw [EpochControl.useReference_track _ _ _ state, useReference, same]
          exact refines numbers rfl rfl rfl
  | acquire =>
      have same : loop.referred.state = .acquire := state
      have kept := loop.referred.seedFrequency_control input
      cases phaseValid with
      | false =>
          let numbers : LoopNumbers :=
            { filteredPeriod := loop.filteredPpsPeriod
              period := loop.referred.requestFrequency.commandedPeriod }
          refine ⟨numbers, requestOffset_asked _ _, rfl, ?_⟩
          rw [(EpochControl.useReference_acquire _ _ state).1, useReference, same]
          exact congrArg _ (requestOffset_control _ _ numbers rfl)
      | true =>
          cases seeded : (loop.referred.seedFrequency input).1 with
          | false =>
              let numbers : LoopNumbers :=
                { filteredPeriod := loop.filteredPpsPeriod
                  period := (loop.referred.seedFrequency input).2.requestFrequency.commandedPeriod }
              refine ⟨numbers, requestOffset_asked _ _, rfl, ?_⟩
              rw [(EpochControl.useReference_acquire _ _ state).2.1 rfl, useReference, same]
              dsimp only
              rw [seeded]
              refine congrArg _ ((requestOffset_control _ _ numbers rfl).trans ?_)
              rw [kept]
              rfl
          | true =>
              obtain ⟨period, asked, refines⟩ :=
                (loop.referred.seedFrequency input).2.acquire_refines input.snapshot utcOffsetTicks
              let numbers : LoopNumbers :=
                { filteredPeriod := loop.filteredPpsPeriod
                  seed := some (loop.referred.seedFrequency input).2.filteredPpsPeriod
                  period := period }
              refine ⟨numbers, asked, rfl, ?_⟩
              rw [(EpochControl.useReference_acquire _ _ state).2.2 _ rfl, useReference, same]
              dsimp only
              rw [seeded]
              refine congrArg _ ((refines numbers rfl).trans ?_)
              rw [kept]
              rfl

theorem update_usable (usable : input.usable = true) :
    loop.update input =
      (⟨((loop.learnt input).useReference input (phaseValid input)
          ((loop.learnt input).measuredTicks input)).1,
          phaseValid input, (loop.learnt input).measuredTicks input⟩,
        ((loop.learnt input).useReference input (phaseValid input)
          ((loop.learnt input).measuredTicks input)).2) := by
  rw [update, usable]
  rfl

theorem update_unusable (unusable : input.usable = false) :
    loop.update input =
      (⟨((loop.learnt input).hold input.snapshot).1, phaseValid input,
          (loop.learnt input).measuredTicks input⟩,
        ((loop.learnt input).hold input.snapshot).2) := by
  rw [update, unusable]
  rfl

/-- What an epoch does to the loop is what the loop does with some numbers given: the period
its filter says, and one asked for that is made of nominal and an offset. -/
theorem update_refines (loop : ControlLoop) (input : EpochInput) :
    ∃ numbers : LoopNumbers, Synthesised numbers ∧
      numbers.filteredPeriod = (loop.learnt input).filteredPpsPeriod ∧
        ((loop.update input).1, (loop.update input).2.control) =
          loop.control.update input.snapshot input.usable input.offsetTicks numbers := by
  have learnt := loop.learnt_control input
  cases usable : input.usable with
  | true =>
      rw [usable, if_pos rfl] at learnt
      obtain ⟨numbers, asked, filtered, refines⟩ := (loop.learnt input).useReference_refines input
        (phaseValid input) ((loop.learnt input).measuredTicks input)
      have next : loop.control.update input.snapshot true input.offsetTicks numbers =
          (⟨((loop.learnt input).control.useReference input.snapshot (phaseValid input)
              ((loop.learnt input).measuredTicks input) numbers).1,
              phaseValid input, (loop.learnt input).measuredTicks input⟩,
            ((loop.learnt input).control.useReference input.snapshot (phaseValid input)
              ((loop.learnt input).measuredTicks input) numbers).2) := by
        rw [EpochControl.update, filtered, learnt]
        rfl
      refine ⟨numbers, asked, filtered, ?_⟩
      rw [next, ← refines, update_usable usable]
  | false =>
      rw [usable, if_neg Bool.false_ne_true] at learnt
      obtain ⟨period, asked, refines⟩ := (loop.learnt input).hold_refines input.snapshot
      let numbers : LoopNumbers :=
        { filteredPeriod := (loop.learnt input).filteredPpsPeriod, period := period }
      have next : loop.control.update input.snapshot false input.offsetTicks numbers =
          (⟨((loop.learnt input).control.hold input.snapshot numbers).1,
              phaseValid input, (loop.learnt input).measuredTicks input⟩,
            ((loop.learnt input).control.hold input.snapshot numbers).2) := by
        rw [EpochControl.update, learnt]
        rfl
      refine ⟨numbers, asked, rfl, ?_⟩
      rw [next, ← refines numbers rfl, update_unusable usable]

/-- So is a restart. -/
theorem restart_refines (loop : ControlLoop) (profile : Option LoopProfile) (slew : Bool) :
    (loop.restart profile slew).control =
      loop.control.restart (profile.map fun profile => ⟨profile.gateTicks⟩) slew := by
  cases profile <;> cases slew <;> cases state : loop.state <;>
    · rw [restart, EpochControl.restart]
      simp [state, control, enterAcquire, EpochControl.enterAcquire]

end ControlLoop

end GpsClock.Timing
