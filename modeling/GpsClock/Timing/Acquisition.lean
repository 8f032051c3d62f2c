import GpsClock.Lib.Machine
import GpsClock.Timing.EpochControl

/-! # Acquiring

`acquire` and `compute_step`: the one interval that puts the next epoch but one on its
source's second. The phase is folded by half of the measured second, the length of the
step is checked against half of the nominal one, so that a step is made exactly where
the two agree (`GpsClock.Timing.EpochControl.acquire_steps_iff`). Elsewhere the frequency
is requested, the phase stays, and no step is ever made
(`GpsClock.Timing.EpochControl.acquire_never_steps`).
-/

namespace GpsClock.Timing

/-- A period the capture admits: nominal to 1000 ppm. -/
structure PeriodAdmitted (period : BitVec 32) : Prop where
  low : timingNominalTicks - timingNominalTicks.tdiv 1000 ≤ period.toNat
  high : (period.toNat : Int) ≤ timingNominalTicks + timingNominalTicks.tdiv 1000

theorem PeriodAdmitted.range {period : BitVec 32} (admitted : PeriodAdmitted period) :
    39960000 ≤ period.toNat ∧ period.toNat ≤ 40040000 ∧ period.toInt = period.toNat := by
  have low := admitted.low
  have high := admitted.high
  have permille : timingNominalTicks.tdiv 1000 = 40000 := by decide
  rw [permille] at low high
  dsimp only [timingNominalTicks] at low high
  refine ⟨by omega, by omega, ?_⟩
  rw [BitVec.toInt_eq_toNat_cond, if_pos (by omega)]

/-- A phase as it is measured: folded by half of the period. -/
def Folded (phase : Int) (period : BitVec 32) : Prop :=
  -(period.toNat : Int) ≤ phase ∧ phase ≤ period.toNat

/-- Folding adds a whole period or takes one away, at most. -/
theorem wrapPhase_turns (phase period : Int) :
    ∃ turns : Int, wrapPhase phase period = phase + turns * period ∧ -1 ≤ turns ∧ turns ≤ 1 := by
  unfold wrapPhase
  split
  · exact ⟨-1, by rw [Int.neg_one_mul, Int.sub_eq_add_neg], by decide, by decide⟩
  · split
    · exact ⟨1, by rw [Int.one_mul], by decide, by decide⟩
    · exact ⟨0, by rw [Int.zero_mul, Int.add_zero], by decide, by decide⟩

theorem toNat_sub_ofInt (base : BitVec 32) (offset : Int) :
    ((base - BitVec.ofInt 32 offset).toNat : Int) = (base.toNat - offset) % 4294967296 := by
  have same : base - BitVec.ofInt 32 offset = BitVec.ofInt 32 (base.toNat - offset) := by
    rw [Int.sub_eq_add_neg, BitVec.ofInt_add, BitVec.ofInt_neg, BitVec.ofInt_natCast,
      BitVec.ofNat_toNat, BitVec.setWidth_eq, BitVec.sub_eq_add_neg]
  have modulus : ((2 ^ 32 : Nat) : Int) = 4294967296 := by decide
  rw [same, BitVec.toNat_ofInt, Int.toNat_of_nonneg, modulus]
  exact Int.emod_nonneg _ (by decide)

/-- A length out of the window stays out of it as 32 bits. -/
theorem emod_outside {length : Int} (low : -2400000000 ≤ length) (high : length ≤ 2400000000) :
    (length % 4294967296 < timingHalfSecondTicks ∨
        timingHalfSecondTicks + timingNominalTicks < length % 4294967296) ↔
      ¬(timingHalfSecondTicks ≤ length ∧
        length ≤ timingHalfSecondTicks + timingNominalTicks) := by
  dsimp only [timingHalfSecondTicks, timingNominalTicks]
  omega

/-- The step `compute_step` makes, where it makes one. -/
theorem computeStep_eq {base : BitVec 32} {offset : Int} (short : base.toNat ≤ 40040000)
    (low : -2347483648 ≤ offset) (high : offset ≤ 2347483648) :
    computeStep base offset =
      if timingHalfSecondTicks ≤ base.toNat - offset ∧
          base.toNat - offset ≤ timingHalfSecondTicks + timingNominalTicks then
        some (base - BitVec.ofInt 32 offset)
      else none := by
  unfold computeStep
  dsimp only
  simp only [toNat_sub_ofInt]
  rw [if_congr (emod_outside (by omega) (by omega)) rfl rfl, ite_not]

namespace EpochControl

variable {loop : EpochControl} {snapshot : TimingSnapshot} {filteredPeriod : BitVec 32}

/-- The phase the next epoch will have, folded. -/
def predictedTicks (snapshot : TimingSnapshot) (utcOffsetTicks : Int)
    (filteredPeriod : BitVec 32) : Int :=
  wrapPhase (utcOffsetTicks + (snapshot.runningPeriod - filteredPeriod).toInt)
    filteredPeriod.toInt

/-- The step from there to the second after it is between half a nominal second and one
and a half. -/
def StepSane (snapshot : TimingSnapshot) (utcOffsetTicks : Int) (filteredPeriod : BitVec 32) :
    Prop :=
  timingHalfSecondTicks ≤
      filteredPeriod.toNat - predictedTicks snapshot utcOffsetTicks filteredPeriod ∧
    filteredPeriod.toNat - predictedTicks snapshot utcOffsetTicks filteredPeriod ≤
      timingHalfSecondTicks + timingNominalTicks

instance (snapshot : TimingSnapshot) (utcOffsetTicks : Int) (filteredPeriod : BitVec 32) :
    Decidable (StepSane snapshot utcOffsetTicks filteredPeriod) :=
  inferInstanceAs (Decidable (_ ∧ _))

theorem acquire_eq (numbers : LoopNumbers) {utcOffsetTicks : Int}
    (epochs : epochAcquireDelay ≤ loop.referenceEpochs) (admitted : PeriodAdmitted filteredPeriod)
    (folded : Folded utcOffsetTicks filteredPeriod) :
    loop.acquire snapshot utcOffsetTicks filteredPeriod numbers =
      if StepSane snapshot utcOffsetTicks filteredPeriod then
        { loop with
          commandedPeriod := filteredPeriod -
            BitVec.ofInt 32 (predictedTicks snapshot utcOffsetTicks filteredPeriod)
          state := .stepActive }
      else loop.request numbers := by
  obtain ⟨_, short, signed⟩ := admitted.range
  obtain ⟨low, high⟩ := folded
  have notYet : ¬loop.referenceEpochs < epochAcquireDelay := BitVec.not_lt.mpr epochs
  have below := BitVec.le_toInt (snapshot.runningPeriod - filteredPeriod)
  have above := BitVec.toInt_lt (x := snapshot.runningPeriod - filteredPeriod)
  obtain ⟨turns, turned, back, on⟩ := wrapPhase_turns
    (utcOffsetTicks + (snapshot.runningPeriod - filteredPeriod).toInt) filteredPeriod.toInt
  have bounds : -2347483648 ≤ predictedTicks snapshot utcOffsetTicks filteredPeriod ∧
      predictedTicks snapshot utcOffsetTicks filteredPeriod ≤ 2347483648 := by
    rw [predictedTicks, turned, signed]
    have whole : turns = -1 ∨ turns = 0 ∨ turns = 1 := by omega
    rcases whole with rfl | rfl | rfl <;> omega
  have step := computeStep_eq short bounds.1 bounds.2
  rw [acquire, if_neg notYet]
  by_cases sane : StepSane snapshot utcOffsetTicks filteredPeriod
  · rw [if_pos (show _ ∧ _ from sane)] at step
    rw [if_pos sane]
    rw [predictedTicks] at step ⊢
    simp only [step]
  · rw [if_neg (show ¬(_ ∧ _) from sane)] at step
    rw [if_neg sane]
    rw [predictedTicks] at step
    simp only [step]

/-- What one epoch gives the loop. -/
structure LoopInput where
  snapshot : TimingSnapshot
  usable : Bool
  offsetTicks : Int
  numbers : LoopNumbers

/-- The loop from `epoch_control_init` on. -/
def machine : Machine EpochControl LoopInput where
  start loop := loop = {}
  step loop input := (loop.update input.snapshot input.usable input.offsetTicks input.numbers).2

/-- The phase `update` measures. -/
def measuredTicks (input : LoopInput) : Int :=
  wrapPhase ((input.snapshot.epochCapture - input.snapshot.referenceCapture).toInt +
    input.offsetTicks) input.numbers.filteredPeriod.toInt

/-- A phase from which no step is sane keeps the loop acquiring, at the frequency. -/
theorem update_unlucky {input : LoopInput} (acquiring : loop.state = .acquire)
    (usable : input.usable = true)
    (captured : (input.snapshot.referenceCaptureValid && input.snapshot.epochCaptureValid) = true)
    (estimate : input.numbers.seed = some filteredPeriod)
    (admitted : PeriodAdmitted filteredPeriod)
    (folded : Folded (measuredTicks input) filteredPeriod)
    (insane : ¬StepSane input.snapshot (measuredTicks input) filteredPeriod) :
    (machine.step loop input).state = .acquire ∧
      (machine.step loop input).commandedPeriod = input.numbers.period := by
  simp only [machine, update, usable, captured, if_true, useReference, acquiring, Bool.not_true,
    Bool.false_eq_true, if_false, estimate]
  by_cases epochs : epochAcquireDelay ≤ loop.referenceEpochs + 1
  · change (EpochControl.acquire _ _ (measuredTicks input) _ _).state = _ ∧
      (EpochControl.acquire _ _ (measuredTicks input) _ _).commandedPeriod = _
    rw [acquire_eq input.numbers epochs admitted folded, if_neg insane]
    exact ⟨rfl, rfl⟩
  · rw [acquire, if_pos (BitVec.not_le.mp epochs)]
    exact ⟨rfl, rfl⟩

/-- **No step, ever.** From such a phase, the same in every epoch, the loop requests the
frequency again and again. -/
theorem acquire_never_steps {input : LoopInput} (acquiring : loop.state = .acquire)
    (usable : input.usable = true)
    (captured : (input.snapshot.referenceCaptureValid && input.snapshot.epochCaptureValid) = true)
    (estimate : input.numbers.seed = some filteredPeriod)
    (admitted : PeriodAdmitted filteredPeriod)
    (folded : Folded (measuredTicks input) filteredPeriod)
    (insane : ¬StepSane input.snapshot (measuredTicks input) filteredPeriod) (epochs : Nat) :
    ((List.replicate epochs input).foldl machine.step loop).state = .acquire := by
  induction epochs generalizing loop with
  | zero => exact acquiring
  | succ epochs ih =>
      rw [List.replicate_succ, List.foldl_cons]
      exact ih (update_unlucky acquiring usable captured estimate admitted folded insane).1

/-! ## A short second -/

/-- A second of 100 ticks less than nominal, an epoch 19 999 925 ticks late. -/
def shortSecond : LoopInput where
  snapshot :=
    { runningPeriod := 39999900
      referenceCaptureValid := true
      epochCaptureValid := true
      epochCapture := 19999925 }
  usable := true
  offsetTicks := 0
  numbers :=
    { filteredPeriod := 39999900
      seed := some 39999900
      period := 39999900 }

theorem shortSecond_admitted : PeriodAdmitted 39999900 :=
  ⟨by decide, by decide⟩

end EpochControl

end GpsClock.Timing
