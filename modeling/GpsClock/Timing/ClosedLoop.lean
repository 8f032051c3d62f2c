import GpsClock.Timing.Acquisition

/-! # The loop closed over its timer

Epochs and reference edges as ticks on one timebase. The period requested in an epoch is
loaded by the next one's interrupt (`epoch_timer.c`), so what `acquire` requests moves the
epoch after that: onto the second its source marks, after which every interval is asked
for anew (`GpsClock.Timing.ClosedLoop.step_lands`). No period requested is so long, in any
run, that the prediction of the next phase could wrap (`GpsClock.Timing.ClosedLoop.bounded`).
-/

namespace GpsClock.Timing

/-- The timer of `epoch_timer.c`: the period running, and the one asked for. -/
structure EpochTimer where
  sequence : BitVec 32 := 0
  running : BitVec 32 := 40000000
  requested : Option (BitVec 32) := none
  deriving DecidableEq, Repr

/-- `load_period`. -/
def loadPeriod (periodTicks : BitVec 32) : BitVec 32 :=
  if periodTicks = 0 then 1 else periodTicks

namespace EpochTimer

/-- `epoch_timer_set_period`. -/
def setPeriod (timer : EpochTimer) (periodTicks : BitVec 32) : EpochTimer :=
  { timer with requested := some periodTicks }

/-- `_T3Interrupt`: the period asked for, if any, else the one running. -/
def interrupt (timer : EpochTimer) : EpochTimer where
  sequence := timer.sequence + 1
  running :=
    match timer.requested with
    | some periodTicks => loadPeriod periodTicks
    | none => timer.running
  requested := none

end EpochTimer

/-- `servo_fraction_next`: the period of one epoch at nominal and an offset, in Q16 ticks,
and what is owed after it. -/
def servoFractionNext (accumulatorQ16 : BitVec 16) (nominalPeriod offsetQ16 : BitVec 32) :
    BitVec 32 × BitVec 16 :=
  let fraction := offsetQ16.toNat % 65536
  let whole := (offsetQ16.toInt - fraction).tdiv 65536
  let owed := accumulatorQ16.toNat + fraction
  let period := nominalPeriod + BitVec.ofInt 32 whole
  let (period, owed) := if 65536 ≤ owed then (period + 1, owed - 65536) else (period, owed)
  (if period ≠ 0 then period else 1, BitVec.ofNat 16 owed)

/-- The latest epoch's time in ticks, and the timer and the loop after it. -/
structure ClosedLoop where
  now : Int
  timer : EpochTimer := {}
  loop : EpochControl := {}

/-- What an epoch brings: the reference edge's time, which captures are in, how usable
they are, and what the filters say. -/
structure ClosedInput where
  reference : Int
  referenceCaptured : Bool
  epochCaptured : Bool
  usable : Bool
  offsetTicks : Int
  numbers : LoopNumbers

namespace EpochControl

variable {loop : EpochControl} {snapshot : TimingSnapshot} {numbers : LoopNumbers}
  {input : LoopInput}

theorem followStepHold_state (settled : Bool) :
    (loop.followStepHold settled).state = loop.state := by
  unfold followStepHold
  split
  · rfl
  · split <;> rfl

/-- `acquire` requests the frequency, or the step it computed. -/
theorem acquire_cases (loop : EpochControl) (snapshot : TimingSnapshot) (utcOffsetTicks : Int)
    (filteredPeriod : BitVec 32) (numbers : LoopNumbers) :
    loop.acquire snapshot utcOffsetTicks filteredPeriod numbers = loop.request numbers ∨
      ∃ step, computeStep filteredPeriod
          (predictedTicks snapshot utcOffsetTicks filteredPeriod) = some step ∧
        loop.acquire snapshot utcOffsetTicks filteredPeriod numbers =
          { loop with commandedPeriod := step, state := .stepActive } := by
  rw [acquire]
  by_cases delay : loop.referenceEpochs < epochAcquireDelay
  · rw [if_pos delay]
    exact .inl rfl
  · rw [if_neg delay]
    cases found : computeStep filteredPeriod
        (predictedTicks snapshot utcOffsetTicks filteredPeriod) with
    | none =>
        rw [predictedTicks] at found
        simp only [found]
        exact .inl trivial
    | some step =>
        rw [predictedTicks] at found
        simp only [found]
        exact .inr ⟨step, rfl, rfl⟩

theorem track_requests (tracking : loop.state = .track) :
    (loop.track numbers).2.commandedPeriod = numbers.period ∧
      (loop.track numbers).2.state ≠ .stepActive := by
  have held : (loop.followStepHold numbers.settled).state = .track :=
    (followStepHold_state _).trans tracking
  unfold track
  cases numbers.gate with
  | accepted => exact ⟨rfl, held.trans_ne nofun⟩
  | rejected => exact ⟨rfl, held.trans_ne nofun⟩
  | lost => exact ⟨rfl, nofun⟩

/-- The loop as a usable reference finds it. -/
def referred (loop : EpochControl) : EpochControl :=
  { loop with freeRunStep := 0, referenceEpochs := loop.referenceEpochs + 1 }

theorem step_acquire {filteredPeriod : BitVec 32} (acquiring : loop.state = .acquire)
    (usable : input.usable = true)
    (captured : (input.snapshot.referenceCaptureValid && input.snapshot.epochCaptureValid) = true)
    (estimate : input.numbers.seed = some filteredPeriod) :
    machine.step loop input =
      loop.referred.acquire input.snapshot (measuredTicks input) filteredPeriod input.numbers := by
  cases loop
  cases acquiring
  simp only [machine, update, usable, captured, if_true, useReference, Bool.not_true,
    Bool.false_eq_true, if_false, estimate]
  rfl

theorem step_track (tracking : loop.state = .track) (usable : input.usable = true)
    (captured : (input.snapshot.referenceCaptureValid && input.snapshot.epochCaptureValid) = true) :
    machine.step loop input = (loop.referred.track input.numbers).2 := by
  cases loop
  cases tracking
  simp only [machine, update, usable, captured, if_true, useReference, Bool.not_true,
    Bool.false_eq_true, if_false]
  rfl

/-- What an epoch's update requests: the frequency's or the servo's period, and in ACQUIRE
also that with the free run step on top, or the step. -/
inductive Requests (loop : EpochControl) (input : LoopInput) (next : EpochControl) : Prop
  | period (asked : next.commandedPeriod = input.numbers.period)
      (quiet : next.state ≠ .stepActive)
  | freeRun (acquiring : loop.state = .acquire) (still : next.state = .acquire)
      (asked : next.commandedPeriod = input.numbers.period + BitVec.ofInt 32 loop.freeRunStep)
  | step (filteredPeriod : BitVec 32) (acquiring : loop.state = .acquire)
      (usable : input.usable = true) (estimate : input.numbers.seed = some filteredPeriod)
      (active : next.state = .stepActive)
      (computed : computeStep filteredPeriod (predictedTicks input.snapshot
        (measuredTicks input) filteredPeriod) = some next.commandedPeriod)

theorem update_requests (loop : EpochControl) (input : LoopInput) :
    Requests loop input (machine.step loop input) := by
  cases usable : input.usable with
  | false =>
      simp only [machine, usable, update_unusable]
      cases state : loop.state with
      | acquire =>
          exact .freeRun state (hold_acquire _ _ state).1 (hold_commandedPeriod _ _ state)
      | stepActive =>
          simp only [hold, state]
          exact .period rfl fun same => by cases same
      | track =>
          have still : (loop.requestHoldover input.numbers).state = .track := state
          simp only [hold, state]
          exact .period rfl (still.trans_ne fun same => by cases same)
  | true =>
      cases captured : input.snapshot.referenceCaptureValid && input.snapshot.epochCaptureValid with
      | false =>
          simp only [machine, update, usable, captured, if_true, useReference, Bool.not_false]
          cases state : loop.state with
          | acquire => exact .period rfl fun same => by cases same
          | stepActive => exact .period rfl fun same => by cases same
          | track => exact .period rfl fun same => by cases same
      | true =>
          cases state : loop.state with
          | acquire =>
              cases estimate : input.numbers.seed with
              | none =>
                  simp only [machine, update, usable, captured, if_true, useReference, state,
                    Bool.not_true, Bool.false_eq_true, if_false, estimate]
                  exact .period rfl fun same => by cases same
              | some filteredPeriod =>
                  have still : (loop.referred.request input.numbers).state = .acquire := state
                  rw [step_acquire state usable captured estimate]
                  rcases acquire_cases loop.referred input.snapshot (measuredTicks input)
                    filteredPeriod input.numbers with same | ⟨step, computed, same⟩
                  · rw [same]
                    exact .period rfl (still.trans_ne fun same => by cases same)
                  · rw [same]
                    exact .step filteredPeriod state usable estimate rfl computed
          | stepActive =>
              simp only [machine, update, usable, if_true, useReference, state]
              exact .period rfl fun same => by cases same
          | track =>
              rw [step_track state usable captured]
              obtain ⟨asked, quiet⟩ := track_requests (show loop.referred.state = .track from state)
              exact .period asked quiet

/-- The epoch after the step: tracking begins, whatever is captured. -/
theorem update_stepActive (active : loop.state = .stepActive) :
    (machine.step loop input).state = .track := by
  obtain ⟨snapshot, usable, offsetTicks, numbers⟩ := input
  cases usable with
  | true =>
      simp only [machine, update, useReference, active]
      rfl
  | false =>
      simp only [machine, update, hold, active]
      rfl

theorem acquire_forgets (loop : EpochControl) (period filteredPeriod : BitVec 32)
    (utcOffsetTicks : Int) :
    ({ loop with commandedPeriod := period } : EpochControl).acquire snapshot utcOffsetTicks
        filteredPeriod numbers =
      loop.acquire snapshot utcOffsetTicks filteredPeriod numbers := by
  rw [acquire, acquire]
  by_cases delay : loop.referenceEpochs < epochAcquireDelay
  · rw [if_pos delay, if_pos delay]
    rfl
  · rw [if_neg delay, if_neg delay]
    cases found : computeStep filteredPeriod
        (predictedTicks snapshot utcOffsetTicks filteredPeriod) with
    | none =>
        rw [predictedTicks] at found
        simp only [found]
        rfl
    | some step =>
        rw [predictedTicks] at found
        simp only [found]

theorem track_forgets (loop : EpochControl) (period : BitVec 32) :
    (({ loop with commandedPeriod := period } : EpochControl).track numbers).2 =
      (loop.track numbers).2 := by
  have held : ({ loop with commandedPeriod := period } : EpochControl).followStepHold
      numbers.settled = { loop.followStepHold numbers.settled with commandedPeriod := period } := by
    simp only [followStepHold]
    split
    · rfl
    · split <;> rfl
  rw [track, held, track]
  cases numbers.gate with
  | accepted => rfl
  | rejected => rfl
  | lost => rfl

/-- Every epoch asks anew: what was commanded before it has no say in what it commands. -/
theorem step_forgets (period : BitVec 32) :
    machine.step { loop with commandedPeriod := period } input = machine.step loop input := by
  obtain ⟨state, lastResync, holdoverEpochs, referenceEpochs, profile, stepHold, stepHoldMin,
    freeRunStep, freeRunStepTaken, commandedPeriod⟩ := loop
  cases usable : input.usable with
  | false =>
      simp only [machine, usable, update_unusable, hold]
      cases state with
      | acquire => rfl
      | stepActive => rfl
      | track => rfl
  | true =>
      cases captured : input.snapshot.referenceCaptureValid && input.snapshot.epochCaptureValid with
      | false =>
          simp only [machine, update, usable, captured, if_true, useReference, Bool.not_false]
          cases state with
          | acquire => rfl
          | stepActive => rfl
          | track => rfl
      | true =>
          cases state with
          | stepActive =>
              simp only [machine, update, usable, if_true, useReference]
              rfl
          | track =>
              exact (step_track rfl usable captured).trans
                ((track_forgets _ period).trans (step_track rfl usable captured).symm)
          | acquire =>
              cases estimate : input.numbers.seed with
              | none =>
                  simp only [machine, update, usable, captured, if_true, useReference,
                    Bool.not_true, Bool.false_eq_true, if_false, estimate]
                  rfl
              | some filteredPeriod =>
                  exact (step_acquire rfl usable captured estimate).trans
                    ((acquire_forgets _ period filteredPeriod _).trans
                      (step_acquire rfl usable captured estimate).symm)

end EpochControl

/-! ## The period asked for -/

/-- The whole ticks of an offset are its floor. -/
theorem whole_eq (offsetQ16 : BitVec 32) :
    (offsetQ16.toInt - (offsetQ16.toNat % 65536 : Nat)).tdiv 65536 = offsetQ16.toInt / 65536 := by
  have fraction : ((offsetQ16.toNat % 65536 : Nat) : Int) = offsetQ16.toInt % 65536 := by
    rw [BitVec.toInt_eq_toNat_cond]
    split <;> omega
  have parts := Int.mul_ediv_add_emod offsetQ16.toInt 65536
  have floored : offsetQ16.toInt - offsetQ16.toInt % 65536 = 65536 * (offsetQ16.toInt / 65536) := by
    omega
  rw [fraction, floored, Int.mul_tdiv_cancel_left _ (by decide)]

/-- A period is never more than 32768 ticks from nominal, whatever the offset. -/
theorem servoFractionNext_range (accumulatorQ16 : BitVec 16) (offsetQ16 : BitVec 32) :
    39967232 ≤ (servoFractionNext accumulatorQ16 40000000 offsetQ16).1.toNat ∧
      (servoFractionNext accumulatorQ16 40000000 offsetQ16).1.toNat ≤ 40032768 := by
  have low := BitVec.le_toInt offsetQ16
  have high := BitVec.toInt_lt (x := offsetQ16)
  have base := toNat_sub_ofInt 40000000 (-(offsetQ16.toInt / 65536))
  rw [BitVec.ofInt_neg, BitVec.sub_neg, show (40000000 : BitVec 32).toNat = 40000000 from rfl] at base
  rw [servoFractionNext]
  dsimp only
  rw [whole_eq]
  generalize 40000000 + BitVec.ofInt 32 (offsetQ16.toInt / 65536) = period at base ⊢
  have near : 39967232 ≤ period.toNat ∧ period.toNat ≤ 40032767 := by omega
  have next : (period + 1).toNat = period.toNat + 1 := by
    rw [BitVec.toNat_add_of_lt]
    · rfl
    · change period.toNat + 1 < 4294967296
      omega
  by_cases owed : 65536 ≤ accumulatorQ16.toNat + offsetQ16.toNat % 65536
  · have some : period + 1 ≠ 0 := by
      intro zero
      rw [zero] at next
      change 0 = _ at next
      omega
    rw [if_pos owed]
    dsimp only
    rw [if_pos some, next]
    omega
  · have some : period ≠ 0 := by
      rintro rfl
      change 39967232 ≤ 0 ∧ _ at near
      omega
    rw [if_neg owed]
    dsimp only
    rw [if_pos some]
    omega

/-- The filters' period is one that `request_offset` asks for. -/
def Synthesised (numbers : LoopNumbers) : Prop :=
  ∃ accumulatorQ16 offsetQ16,
    numbers.period = (servoFractionNext accumulatorQ16 40000000 offsetQ16).1

theorem loadPeriod_of_pos {periodTicks : BitVec 32} (some : 0 < periodTicks.toNat) :
    loadPeriod periodTicks = periodTicks := by
  unfold loadPeriod
  rw [if_neg]
  rintro rfl
  exact absurd some (by decide)

theorem computeStep_range {base step : BitVec 32} {offset : Int}
    (computed : computeStep base offset = some step) :
    20000000 ≤ step.toNat ∧ step.toNat ≤ 60000000 := by
  unfold computeStep at computed
  dsimp only at computed
  split at computed
  · exact absurd computed nofun
  · next sane =>
      cases computed
      dsimp only [timingHalfSecondTicks, timingNominalTicks] at sane
      omega

/-! ## The loop and its timer -/

/-- What happens to the loop: an epoch, or between two what the synchroniser asks of it. -/
inductive ClosedEvent
  | epoch (input : ClosedInput)
  | restart (profile : Option EpochProfile) (slew : Bool)
  | freeRunStep (ticks : Int)
  | sourceStepped

namespace ClosedLoop

/-- What the loop is given: captures of the one timebase, as 32 bits of it. -/
def heard (state : ClosedLoop) (input : ClosedInput) : EpochControl.LoopInput where
  snapshot :=
    { sequence := state.timer.sequence
      runningPeriod := state.timer.running
      referenceCaptureValid := input.referenceCaptured
      referenceCapture := BitVec.ofInt 32 input.reference
      epochCaptureValid := input.epochCaptured
      epochCapture := BitVec.ofInt 32 state.now }
  usable := input.usable
  offsetTicks := input.offsetTicks
  numbers := input.numbers

/-- An epoch's update, which ends with a request in every branch, and the next epoch. -/
def epoch (state : ClosedLoop) (input : ClosedInput) : ClosedLoop :=
  let loop := EpochControl.machine.step state.loop (state.heard input)
  { now := state.now + state.timer.running.toNat
    timer := (state.timer.setPeriod loop.commandedPeriod).interrupt
    loop := loop }

/-- A loop and a timer as they are initialised, at any time. -/
def machine : Machine ClosedLoop ClosedEvent where
  start state := state.timer = {} ∧ state.loop = {}
  step state event :=
    match event with
    | .epoch input => state.epoch input
    | .restart profile slew => { state with loop := state.loop.restart profile slew }
    | .freeRunStep ticks => { state with loop := state.loop.requestFreeRunStep ticks }
    | .sourceStepped => { state with loop := state.loop.sourceStepped }

def Admits (_ : ClosedLoop) : ClosedEvent → Prop
  | .epoch input => Synthesised input.numbers
  | _ => True

/-- No interval is longer than a second and a half, and no free run step than half a second. -/
structure Bounded (state : ClosedLoop) : Prop where
  running : state.timer.running.toNat ≤ 60032768
  back : -20000000 ≤ state.loop.freeRunStep
  on : state.loop.freeRunStep ≤ 20000000

variable {state : ClosedLoop} {input : ClosedInput}

theorem epoch_freeRunStep (state : ClosedLoop) (input : ClosedInput) :
    (state.epoch input).loop.freeRunStep = 0 ∨
      (state.epoch input).loop.freeRunStep = state.loop.freeRunStep := by
  obtain ⟨now, timer, loop⟩ := state
  obtain ⟨reference, referenceCaptured, epochCaptured, usable, offsetTicks, numbers⟩ := input
  cases usable with
  | true => exact .inl (congrArg Prod.fst (EpochControl.useReference_freeRunSteps _ _))
  | false =>
      change (EpochControl.hold loop _ numbers).2.freeRunStep = 0 ∨
        (EpochControl.hold loop _ numbers).2.freeRunStep = loop.freeRunStep
      cases acquiring : loop.state with
      | acquire => exact .inl (EpochControl.hold_acquire _ _ acquiring).2
      | stepActive =>
          rw [EpochControl.hold, acquiring]
          exact .inr rfl
      | track =>
          rw [EpochControl.hold, acquiring]
          exact .inr rfl

theorem loadPeriod_le {periodTicks : BitVec 32} {most : Nat} (low : periodTicks.toNat ≤ most)
    (some : 1 ≤ most) : (loadPeriod periodTicks).toNat ≤ most := by
  unfold loadPeriod
  split
  · exact some
  · exact low

theorem epoch_running_le (bounded : Bounded state) (synthesised : Synthesised input.numbers) :
    (state.epoch input).timer.running.toNat ≤ 60032768 := by
  obtain ⟨accumulatorQ16, offsetQ16, period⟩ := synthesised
  obtain ⟨low, high⟩ := servoFractionNext_range accumulatorQ16 offsetQ16
  rw [← period] at low high
  change (loadPeriod (EpochControl.machine.step state.loop
    (state.heard input)).commandedPeriod).toNat ≤ _
  refine loadPeriod_le ?_ (by decide)
  cases EpochControl.update_requests state.loop (state.heard input) with
  | period asked _ =>
      rw [asked]
      exact Nat.le_trans high (by decide)
  | freeRun _ _ asked =>
      have back := bounded.back
      have on := bounded.on
      have sum := toNat_sub_ofInt input.numbers.period (-state.loop.freeRunStep)
      rw [BitVec.ofInt_neg, BitVec.sub_neg] at sum
      rw [asked]
      change (input.numbers.period + BitVec.ofInt 32 state.loop.freeRunStep).toNat ≤ _
      omega
  | step _ _ _ _ _ computed => exact Nat.le_trans (computeStep_range computed).2 (by decide)

theorem requestFreeRunStep_range (loop : EpochControl) (ticks : Int) :
    -20000000 ≤ (loop.requestFreeRunStep ticks).freeRunStep ∧
      (loop.requestFreeRunStep ticks).freeRunStep ≤ 20000000 := by
  unfold EpochControl.requestFreeRunStep
  dsimp only [timingHalfSecondTicks]
  split
  · decide
  · split <;> omega

theorem bounded : machine.Invariant Admits Bounded where
  start := by
    rintro ⟨now, timer, loop⟩ ⟨rfl, rfl⟩
    exact ⟨show 40000000 ≤ 60032768 by decide, show (-20000000 : Int) ≤ 0 by decide,
      show (0 : Int) ≤ 20000000 by decide⟩
  step state event bounded admitted := by
    cases event with
    | epoch input =>
        have running := epoch_running_le bounded admitted
        rcases state.epoch_freeRunStep input with taken | kept
        · exact ⟨running, taken ▸ by decide, taken ▸ by decide⟩
        · exact ⟨running, kept ▸ bounded.back, kept ▸ bounded.on⟩
    | restart profile slew =>
        have same : (state.loop.restart profile slew).freeRunStep = state.loop.freeRunStep :=
          congrArg Prod.fst (state.loop.restart_freeRunSteps profile slew)
        exact ⟨bounded.running, same ▸ bounded.back, same ▸ bounded.on⟩
    | freeRunStep ticks =>
        obtain ⟨back, on⟩ := requestFreeRunStep_range state.loop ticks
        exact ⟨bounded.running, back, on⟩
    | sourceStepped => exact ⟨bounded.running, bounded.back, bounded.on⟩

def recommanded (state : ClosedLoop) (period : BitVec 32) : ClosedLoop :=
  { state with loop := { state.loop with commandedPeriod := period } }

/-- What was commanded has no say in what an epoch commands. -/
theorem epoch_forgets (period : BitVec 32) :
    (state.recommanded period).epoch input = state.epoch input := by
  have same : EpochControl.machine.step (state.recommanded period).loop
      ((state.recommanded period).heard input) =
        EpochControl.machine.step state.loop (state.heard input) :=
    EpochControl.step_forgets period
  rw [epoch, same]
  rfl

/-! ## The landing -/

/-- Captures that a signed 32-bit difference holds, as captures new in this epoch are. -/
structure PhaseHeld (state : ClosedLoop) (input : ClosedInput) : Prop where
  low : -1073741824 ≤ state.now - input.reference
  high : state.now - input.reference ≤ 1073741824
  utcLow : -1073741824 ≤ state.now - input.reference + input.offsetTicks
  utcHigh : state.now - input.reference + input.offsetTicks ≤ 1073741824

theorem toInt_ofInt_sub {left right : Int} (low : -1073741824 ≤ left - right)
    (high : left - right ≤ 1073741824) :
    (BitVec.ofInt 32 left - BitVec.ofInt 32 right).toInt = left - right := by
  have same : BitVec.ofInt 32 left - BitVec.ofInt 32 right = BitVec.ofInt 32 (left - right) := by
    rw [Int.sub_eq_add_neg, BitVec.ofInt_add, BitVec.ofInt_neg, BitVec.sub_eq_add_neg]
  rw [same, BitVec.toInt_ofInt_eq_self (by decide)]
  · change -2147483648 ≤ _
    omega
  · change _ < (2147483648 : Int)
    omega

theorem toInt_sub_of_le {left right : BitVec 32} (leftShort : left.toNat ≤ 1073741824)
    (rightShort : right.toNat ≤ 1073741824) :
    (left - right).toInt = (left.toNat : Int) - right.toNat := by
  have wrapped : (BitVec.ofInt 32 left.toNat - BitVec.ofInt 32 right.toNat).toInt =
      (left.toNat : Int) - right.toNat := toInt_ofInt_sub (by omega) (by omega)
  rw [BitVec.ofInt_natCast, BitVec.ofInt_natCast, BitVec.ofNat_toNat, BitVec.ofNat_toNat,
    BitVec.setWidth_eq, BitVec.setWidth_eq] at wrapped
  exact wrapped

/-- The phase predicted is that of the next epoch, but for whole seconds. -/
theorem predicted_turns {truePeriod : BitVec 32} (bounded : Bounded state)
    (admitted : PeriodAdmitted truePeriod) (held : state.PhaseHeld input)
    (filtered : input.numbers.filteredPeriod = truePeriod) :
    ∃ turns : Int,
      EpochControl.predictedTicks (state.heard input).snapshot
          (EpochControl.measuredTicks (state.heard input)) truePeriod =
        state.now + state.timer.running.toNat - input.reference + input.offsetTicks +
          turns * truePeriod.toNat ∧
      -3 ≤ turns ∧ turns ≤ 1 := by
  obtain ⟨low, short, signed⟩ := admitted.range
  have running := bounded.running
  obtain ⟨first, measured, firstBack, firstOn⟩ := wrapPhase_turns
    ((BitVec.ofInt 32 state.now - BitVec.ofInt 32 input.reference).toInt + input.offsetTicks)
    truePeriod.toInt
  rw [toInt_ofInt_sub held.low held.high, signed] at measured
  obtain ⟨second, predicted, secondBack, secondOn⟩ := wrapPhase_turns
    (wrapPhase (state.now - input.reference + input.offsetTicks) truePeriod.toNat +
      (state.timer.running - truePeriod).toInt) truePeriod.toInt
  rw [toInt_sub_of_le (by omega) (by omega), measured, signed] at predicted
  refine ⟨first + second - 1, ?_, by omega, by omega⟩
  rw [EpochControl.predictedTicks, EpochControl.measuredTicks, heard]
  dsimp only
  rw [filtered, toInt_ofInt_sub held.low held.high, signed, measured,
    toInt_sub_of_le (by omega) (by omega), predicted]
  ring

/-- The epoch after the next, where a step is made, is on its source's second. -/
theorem epoch_lands {truePeriod : BitVec 32} (bounded : Bounded state)
    (admitted : PeriodAdmitted truePeriod) (held : state.PhaseHeld input)
    (filtered : input.numbers.filteredPeriod = truePeriod)
    (estimate : input.numbers.seed = some truePeriod)
    (made : (state.epoch input).loop.state = .stepActive) :
    (truePeriod.toNat : Int) ∣ state.now + state.timer.running.toNat +
        (state.epoch input).loop.commandedPeriod.toNat - input.reference + input.offsetTicks ∧
      (state.epoch input).timer.running = (state.epoch input).loop.commandedPeriod := by
  cases EpochControl.update_requests state.loop (state.heard input) with
  | period _ quiet => exact absurd made quiet
  | freeRun _ still _ => exact absurd (still.symm.trans made) nofun
  | step filteredPeriod _ _ asked _ computed =>
      cases Option.some.inj (estimate.symm.trans asked)
      obtain ⟨turns, predicted, back, on⟩ := predicted_turns bounded admitted held filtered
      obtain ⟨low, short, _⟩ := admitted.range
      obtain ⟨utcLow, utcHigh⟩ := And.intro held.utcLow held.utcHigh
      have running := bounded.running
      have whole : turns = -3 ∨ turns = -2 ∨ turns = -1 ∨ turns = 0 ∨ turns = 1 := by omega
      have range : -2347483648 ≤ EpochControl.predictedTicks (state.heard input).snapshot
            (EpochControl.measuredTicks (state.heard input)) truePeriod ∧
          EpochControl.predictedTicks (state.heard input).snapshot
            (EpochControl.measuredTicks (state.heard input)) truePeriod ≤ 2347483648 := by
        rw [predicted]
        rcases whole with rfl | rfl | rfl | rfl | rfl <;> omega
      have sane := computeStep_range computed
      rw [computeStep_eq short range.1 range.2] at computed
      split at computed
      · next window =>
          have length := toNat_sub_ofInt truePeriod (EpochControl.predictedTicks
            (state.heard input).snapshot (EpochControl.measuredTicks (state.heard input)) truePeriod)
          rw [Option.some.inj computed] at length
          change ((state.epoch input).loop.commandedPeriod.toNat : Int) = _ at length
          dsimp only [timingHalfSecondTicks, timingNominalTicks] at window
          rw [Int.emod_eq_of_lt (by omega) (by omega), predicted] at length
          refine ⟨⟨1 - turns, ?_⟩, loadPeriod_of_pos (Nat.lt_of_lt_of_le (by decide) sane.1)⟩
          rw [length]
          ring
      · exact absurd computed nofun

/-- Away from ACQUIRE every interval is asked for anew, and none is a step. -/
theorem epoch_requests (synthesised : Synthesised input.numbers)
    (steering : state.loop.state ≠ .acquire) :
    (state.epoch input).timer.running = input.numbers.period ∧
      (state.epoch input).loop.state ≠ .stepActive := by
  cases EpochControl.update_requests state.loop (state.heard input) with
  | period asked quiet =>
      obtain ⟨accumulatorQ16, offsetQ16, period⟩ := synthesised
      obtain ⟨low, _⟩ := servoFractionNext_range accumulatorQ16 offsetQ16
      rw [← period] at low
      refine ⟨?_, quiet⟩
      change loadPeriod (EpochControl.machine.step state.loop (state.heard input)).commandedPeriod = _
      rw [asked]
      exact loadPeriod_of_pos (Nat.lt_of_lt_of_le (by decide) low)
  | freeRun acquiring _ _ => exact absurd acquiring steering
  | step _ acquiring _ _ _ _ => exact absurd acquiring steering

/-- **The step lands on the edge.** In any run, whatever the phase and the period running
where acquisition makes its step, the epoch after the next is a whole number of true
periods from the reference's edges, less the source's offset. The step runs for that one
interval. Whatever is captured then, tracking begins, and every interval from there on,
until the loop acquires anew, is the one its own epoch's filters ask for; nor does any
epoch look at the period commanded before it. -/
theorem step_lands {origin : Int} {truePeriod : BitVec 32} {first second : ClosedInput}
    (reached : machine.Reachable Admits state)
    (made : (state.epoch first).loop.state = .stepActive)
    (admitted : PeriodAdmitted truePeriod) (held : state.PhaseHeld first)
    (filtered : first.numbers.filteredPeriod = truePeriod)
    (estimate : first.numbers.seed = some truePeriod)
    (edge : (truePeriod.toNat : Int) ∣ first.reference - origin)
    (synthesised : Synthesised second.numbers) :
    let stepped := state.epoch first
    let landed := stepped.epoch second
    (truePeriod.toNat : Int) ∣ landed.now - origin + first.offsetTicks ∧
      landed.now - stepped.now = stepped.loop.commandedPeriod.toNat ∧
      landed.loop.state = .track ∧
      landed.timer.running = second.numbers.period ∧
      ∀ later final, machine.Run Admits landed later final → ∀ input,
        (final.loop.state ≠ .acquire → Synthesised input.numbers →
          (final.epoch input).timer.running = input.numbers.period ∧
            (final.epoch input).loop.state ≠ .stepActive) ∧
        ∀ period, (final.recommanded period).epoch input = final.epoch input := by
  obtain ⟨lands, loaded⟩ :=
    epoch_lands (bounded.reachable reached) admitted held filtered estimate made
  have interval : ((state.epoch first).epoch second).now =
      state.now + state.timer.running.toNat + (state.epoch first).loop.commandedPeriod.toNat := by
    rw [← loaded]
    rfl
  refine ⟨?_, ?_, EpochControl.update_stepActive made, ?_, ?_⟩
  · obtain ⟨seconds, whole⟩ := Int.dvd_add lands edge
    refine ⟨seconds, ?_⟩
    rw [interval, ← whole]
    ring
  · change (state.epoch first).now + (state.epoch first).timer.running.toNat -
      (state.epoch first).now = _
    rw [loaded]
    ring
  · exact (epoch_requests synthesised (made.trans_ne nofun)).1
  · intro later final _ input
    exact ⟨fun steering asked => epoch_requests asked steering, epoch_forgets⟩

/-- Edges a true second of 40 000 040 ticks apart, and an epoch every 40 000 000. -/
def slowInput (seconds : Int) : ClosedInput where
  reference := seconds * 40000040
  referenceCaptured := true
  epochCaptured := true
  usable := true
  offsetTicks := 25
  numbers := { filteredPeriod := 40000040, seed := some 40000040 }

def slowLoop : ClosedLoop :=
  [slowInput 0, slowInput 1].foldl epoch { now := 5000000 }

/-- Its source is no longer usable after the step. -/
def silentInput : ClosedInput :=
  { slowInput 3 with usable := false }

theorem slowInput_synthesised (seconds : Int) : Synthesised (slowInput seconds).numbers :=
  ⟨0, 0, show (40000000 : BitVec 32) = (servoFractionNext 0 40000000 0).1 by decide⟩

/-- An eighth of a second late, and without a reference in the epoch after the step. -/
theorem slowLoop_lands :
    (40000040 : Int) ∣ ((slowLoop.epoch (slowInput 2)).epoch silentInput).now - 0 + 25 := by
  have started : machine.Reachable Admits { now := 5000000 } := .start ⟨rfl, rfl⟩
  have reached := (started.step (.epoch (slowInput 0)) (slowInput_synthesised 0)).step
    (.epoch (slowInput 1)) (slowInput_synthesised 1)
  have made : (slowLoop.epoch (slowInput 2)).loop.state = .stepActive := by decide
  have admitted : PeriodAdmitted 40000040 := ⟨by decide, by decide⟩
  have edge : (((40000040 : BitVec 32).toNat : Nat) : Int) ∣ (slowInput 2).reference - 0 :=
    ⟨2, by decide⟩
  have quiet : Synthesised silentInput.numbers := slowInput_synthesised 3
  exact (step_lands reached made admitted ⟨by decide, by decide, by decide, by decide⟩ rfl rfl
    edge quiet).1

end ClosedLoop

end GpsClock.Timing
