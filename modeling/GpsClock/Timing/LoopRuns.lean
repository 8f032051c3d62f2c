import GpsClock.Timing.ControlLoop

/-! # Runs of the control loop

With any captures, any references handed over to with any profile, and any filter seeded
within what Q16 holds: the estimate and the servo stay within their limits, no 32-bit value
wraps (`GpsClock.Timing.ControlLoop.within_32_bits`), and tracking is given up only after
as many phases in a row outside the gate as the profile has it
(`GpsClock.Timing.ControlLoop.track_kept`).
-/

namespace GpsClock.Timing

namespace ControlLoop

/-- What happens to the loop: an epoch, or between two what is asked of it. -/
inductive Event
  | epoch (input : EpochInput)
  | restart (profile : Option LoopProfile) (slew : Bool)
  | seed (offsetQ16 : Int)
  | freeRunStep (ticks : Int)
  | sourceStepped

def act (loop : ControlLoop) : Event → ControlLoop
  | .epoch input => (loop.update input).2
  | .restart profile slew => loop.restart profile slew
  | .seed offsetQ16 => loop.seed offsetQ16
  | .freeRunStep ticks => loop.requestFreeRunStep ticks
  | .sourceStepped => loop.sourceStepped

/-- The loop from `epoch_control_init` on. -/
def machine : Machine ControlLoop Event where
  start loop := loop = {}
  step := act

/-- The filter is seeded from this epoch's baseline. -/
def Seeds (loop : ControlLoop) (input : EpochInput) : Prop :=
  loop.profile.learnFrequency = false ∧ loop.ppsKf.initialized = false ∧
    input.snapshot.referenceCaptureValid = true ∧
    epochSeedPeriods ≤ (loop.seedCount input).seedPeriods

instance (loop : ControlLoop) (input : EpochInput) : Decidable (loop.Seeds input) :=
  inferInstanceAs (Decidable (_ ∧ _))

/-- A baseline whose seconds are on average as near nominal as Q16 holds. -/
def Measurable (loop : ControlLoop) (input : EpochInput) : Prop :=
  |(loop.seedCount input).seedExcessQ16 input| ≤ q16Limit * (loop.seedCount input).seedPeriods.toNat

/-- A profile whose limits can be negated, and whose gate Q16 holds; its limit of rejections
is a `uint8_t`. -/
structure Usable (profile : LoopProfile) : Prop where
  gains : profile.gains.Admitted
  gate : |profile.gateTicks| ≤ q16TickLimit
  rejects : profile.rejectLimit < 256

/-- What the loop is given: profiles that it can use, seeds that Q16 holds, and where a
filter is seeded from a baseline, one it can measure. -/
def Admits (loop : ControlLoop) : Event → Prop
  | .epoch input => (loop.learnt input).referred.Seeds input →
      (loop.learnt input).referred.Measurable input
  | .restart profile _ => ∀ given ∈ profile, Usable given
  | .seed offsetQ16 => |offsetQ16| ≤ q16Limit
  | _ => True

/-- What every run keeps of the loop. -/
structure Sound (loop : ControlLoop) : Prop where
  filter : loop.ppsKf.Bounded
  nominal : loop.ppsKf.nominalPeriod = 40000000
  filtered : loop.filteredPpsPeriod = loop.ppsKf.period
  servo : loop.pi.Limited
  profile : Usable loop.profile
  gateLeast : 0 ≤ loop.gate.limitQ16
  gateMost : loop.gate.limitQ16 ≤ q16Limit

variable {loop : ControlLoop} {input : EpochInput}

/-- `Sound` is about the filter, the servo, the profile and the gate's limit. -/
theorem Sound.same (sound : loop.Sound) {other : ControlLoop} (filter : other.ppsKf = loop.ppsKf)
    (filtered : other.filteredPpsPeriod = loop.filteredPpsPeriod) (servo : other.pi = loop.pi)
    (profile : other.profile = loop.profile) (gate : other.gate.limitQ16 = loop.gate.limitQ16) :
    other.Sound where
  filter := filter ▸ sound.filter
  nominal := filter ▸ sound.nominal
  filtered := by rw [filtered, filter, sound.filtered]
  servo := servo ▸ sound.servo
  profile := profile ▸ sound.profile
  gateLeast := gate ▸ sound.gateLeast
  gateMost := gate ▸ sound.gateMost

theorem Sound.requestOffset (sound : loop.Sound) (offsetQ16 : Int) :
    (loop.requestOffset offsetQ16).Sound :=
  sound.same rfl rfl rfl rfl rfl

theorem Sound.requestFrequency (sound : loop.Sound) : loop.requestFrequency.Sound :=
  sound.requestOffset _

theorem Sound.requestHoldover (sound : loop.Sound) : loop.requestHoldover.Sound :=
  Sound.requestFrequency (sound.same rfl rfl rfl rfl rfl)

theorem Sound.enterTrack (sound : loop.Sound) (sequence : BitVec 32) :
    (loop.enterTrack sequence).Sound :=
  { sound with servo := { sound.servo with } }

theorem Sound.enterAcquire (sound : loop.Sound) : loop.enterAcquire.Sound :=
  { sound with servo := { sound.servo with } }

theorem update_nominal (filter : KalmanFilter) (period : BitVec 32) :
    (filter.update period).2.nominalPeriod = filter.nominalPeriod := by
  obtain ⟨-, -, same⟩ | ⟨-, -, same⟩ | ⟨-, variance, -, same⟩ := filter.update_cases period
  · rw [same]
    rfl
  · rw [same]
    rfl
  · rw [same, (KalmanFilter.reject_spec _).1]

theorem Bounded.update {filter : KalmanFilter} (bounded : filter.Bounded) (period : BitVec 32) :
    (filter.update period).2.Bounded := by
  obtain ⟨inRange, -, same⟩ | ⟨inRange, -, same⟩ | ⟨-, variance, either, same⟩ :=
    filter.update_cases period
  · rw [same]
    exact bounded.acquire inRange _
  · rw [same]
    exact bounded.accept inRange
  · rw [same]
    exact bounded.reject either

theorem Sound.updateKalman (sound : loop.Sound) (input : EpochInput) :
    (loop.updateKalman input).Sound := by
  rw [ControlLoop.updateKalman]
  split
  · exact sound
  · dsimp only
    split
    · exact sound.same rfl rfl rfl rfl rfl
    · exact { sound with
        filter := Bounded.update sound.filter input.referencePeriod
        nominal := (update_nominal _ _).trans sound.nominal
        filtered := rfl }

theorem Sound.learnt (sound : loop.Sound) (input : EpochInput) : (loop.learnt input).Sound :=
  (sound.updateKalman input).same rfl rfl rfl rfl rfl

theorem Sound.seed (sound : loop.Sound) {offsetQ16 : Int} (within : |offsetQ16| ≤ q16Limit) :
    (loop.seed offsetQ16).Sound :=
  { sound with
    filter :=
      { sound.filter with
        varianceLeast := (by decide : 0 < kalmanQ30One)
        varianceMost := (by decide : kalmanQ30One ≤ varianceRatioMax)
        offset := within }
    filtered := rfl }

/-- An average of seconds within Q16 is within it. -/
theorem average_within {excess : Int} {periods : Nat}
    (within : |excess| ≤ q16Limit * periods) : |excess.tdiv periods| ≤ q16Limit := by
  rw [Int.abs_eq_natAbs] at within ⊢
  rw [Int.natAbs_tdiv, Int.natAbs_natCast]
  have shared : excess.natAbs.div periods ≤ 1073676288 :=
    Nat.div_le_of_le_mul (by
      dsimp only [q16Limit] at within
      omega)
  dsimp only [q16Limit]
  exact_mod_cast shared

theorem fits_of_within {value : Int} (within : |value| ≤ q16Limit) : Fits32 value := by
  obtain ⟨low, high⟩ := abs_le.mp within
  dsimp only [q16Limit] at low high
  exact ⟨by omega, by omega⟩

theorem seedCount_keeps (loop : ControlLoop) (input : EpochInput) :
    (loop.seedCount input).ppsKf = loop.ppsKf ∧
      (loop.seedCount input).filteredPpsPeriod = loop.filteredPpsPeriod ∧
      (loop.seedCount input).pi = loop.pi ∧ (loop.seedCount input).profile = loop.profile ∧
      (loop.seedCount input).gate = loop.gate := by
  rw [seedCount]
  split <;> exact ⟨rfl, rfl, rfl, rfl, rfl⟩

/-- The average a filter is seeded from. -/
def seedAverageQ16 (loop : ControlLoop) (input : EpochInput) : Int :=
  ((loop.seedCount input).seedExcessQ16 input).tdiv (loop.seedCount input).seedPeriods.toNat

theorem Measurable.within (measurable : loop.Measurable input) :
    |loop.seedAverageQ16 input| ≤ q16Limit :=
  average_within measurable

theorem Sound.seedFrequency (sound : loop.Sound)
    (measurable : loop.Seeds input → loop.Measurable input) :
    (loop.seedFrequency input).2.Sound := by
  obtain ⟨filter, filtered, servo, profile, gate⟩ := loop.seedCount_keeps input
  have counted : (loop.seedCount input).Sound :=
    sound.same filter filtered servo profile (congrArg _ gate)
  rw [ControlLoop.seedFrequency]
  split
  · exact sound
  · next taught =>
      split
      · exact sound
      · next captured =>
          dsimp only
          split
          · exact counted
          · next enough =>
              simp only [Bool.or_eq_true, not_or, Bool.not_eq_true] at taught
              have seeds : loop.Seeds input :=
                ⟨taught.1, taught.2, by simpa using captured, BitVec.not_lt.mp enough⟩
              have within := (measurable seeds).within
              rw [seedAverageQ16] at within
              rw [int32_eq (fits_of_within within)]
              exact counted.seed within

theorem Sound.acquire (sound : loop.Sound) (snapshot : TimingSnapshot) (utcOffsetTicks : Int) :
    (loop.acquire snapshot utcOffsetTicks).Sound := by
  rw [ControlLoop.acquire]
  split
  · exact sound.requestFrequency
  · dsimp only
    generalize computeStep loop.filteredPpsPeriod _ = step
    cases step with
    | none => exact Sound.requestFrequency (sound.same rfl rfl rfl rfl rfl)
    | some step => exact sound.same rfl rfl rfl rfl rfl

/-! ## The phase -/

theorem phaseError_within (ticks : Int) :
    |servoPhaseErrorQ16 ticks epochPhaseCalibrationQ16| ≤ 1073709056 := by
  have clamped := EpochPiServo.clamp_within ticks (by decide : (0 : Int) ≤ q16TickLimit) (by decide)
  obtain ⟨low, high⟩ := abs_le.mp clamped
  rw [servoPhaseErrorQ16, q16FromTicks_eq clamped]
  dsimp only [q16TickLimit, q16One, epochPhaseCalibrationQ16] at *
  rw [int32_eq ⟨by omega, by omega⟩]
  apply abs_le.mpr
  omega

theorem servoPhasePredictQ16_within (phaseErrorQ16 runningOffsetTicks kalmanOffsetQ16 : Int) :
    |servoPhasePredictQ16 phaseErrorQ16 runningOffsetTicks kalmanOffsetQ16| ≤ q16Limit := by
  have limit : q16FromTicks q16TickLimit = q16Limit := by decide
  rw [servoPhasePredictQ16, limit]
  dsimp only [q16Limit]
  apply abs_le.mpr
  split
  · omega
  · split <;> omega

theorem Sound.predict (sound : loop.Sound) (snapshot : TimingSnapshot) (utcOffsetTicks : Int) :
    (loop.predict snapshot utcOffsetTicks).Sound ∧
      |(loop.predict snapshot utcOffsetTicks).predictedPhaseQ16| ≤ q16Limit :=
  ⟨sound.same rfl rfl rfl rfl rfl, servoPhasePredictQ16_within _ _ _⟩

theorem Sound.followStepHold (sound : loop.Sound) :
    loop.followStepHold.Sound ∧
      loop.followStepHold.predictedPhaseQ16 = loop.predictedPhaseQ16 ∧
      loop.followStepHold.gate = loop.gate ∧ loop.followStepHold.state = loop.state := by
  have hold (held : ControlLoop) (same : held.Sound) (holding : Bool) :
      ({ held with pi := held.pi.hold holding } : ControlLoop).Sound :=
    { same with servo := { same.servo with } }
  have held : (if loop.stepHold = 0 then loop
      else if 0 < loop.stepHoldMin then
        { loop with stepHold := loop.stepHold - 1, stepHoldMin := loop.stepHoldMin - 1 }
      else { loop with stepHold := if loop.settled then 0 else loop.stepHold - 1 }).Sound := by
    split
    · exact sound
    · split <;> exact sound.same rfl rfl rfl rfl rfl
  refine ⟨hold _ held _, ?_⟩
  rw [ControlLoop.followStepHold]
  dsimp only
  split
  · exact ⟨rfl, rfl, rfl⟩
  · split <;> exact ⟨rfl, rfl, rfl⟩

theorem check_limit (gate : EpochPhaseGate) (phaseQ16 : Int) :
    (gate.check phaseQ16).2.limitQ16 = gate.limitQ16 ∧
      (gate.check phaseQ16).2.rejectLimit = gate.rejectLimit := by
  rw [EpochPhaseGate.check]
  split
  · exact ⟨rfl, rfl⟩
  · dsimp only
    split <;> exact ⟨rfl, rfl⟩

theorem Sound.follow (sound : loop.Sound) (within : |loop.predictedPhaseQ16| ≤ q16Limit) :
    loop.follow.2.Sound := by
  obtain ⟨held, phase, gate, -⟩ := sound.followStepHold
  have gated : ({ loop.followStepHold with
      gate := (loop.followStepHold.gate.check loop.followStepHold.predictedPhaseQ16).2 } :
        ControlLoop).Sound :=
    held.same rfl rfl rfl rfl (check_limit _ _).1
  rw [ControlLoop.follow]
  dsimp only
  split
  · refine Sound.requestOffset ?_ _
    exact { gated with servo := held.servo.update (by rw [phase]; exact within) }
  · exact gated.requestHoldover
  · exact gated.enterAcquire.requestFrequency

/-! ## An epoch -/

theorem Sound.referred (sound : loop.Sound) : loop.referred.Sound :=
  sound.same rfl rfl rfl rfl rfl

theorem Sound.useReference (sound : loop.Sound)
    (measurable : loop.referred.Seeds input → loop.referred.Measurable input) (phaseValid : Bool)
    (utcOffsetTicks : Int) : (loop.useReference input phaseValid utcOffsetTicks).2.Sound := by
  have referred := sound.referred
  rw [ControlLoop.useReference]
  dsimp only
  cases loop.referred.state with
  | stepActive => exact (referred.enterTrack _).requestFrequency
  | track =>
      cases phaseValid with
      | false => exact referred.requestHoldover
      | true =>
          obtain ⟨predicted, within⟩ := referred.predict input.snapshot utcOffsetTicks
          exact predicted.follow within
  | acquire =>
      cases phaseValid with
      | false => exact referred.requestFrequency
      | true =>
          have seeded := referred.seedFrequency measurable
          cases found : (loop.referred.seedFrequency input).1 with
          | false =>
              simp only [Bool.not_true, Bool.false_eq_true, if_false]
              exact seeded.requestFrequency
          | true =>
              simp only [Bool.not_true, Bool.false_eq_true, if_false, if_true]
              exact seeded.acquire input.snapshot utcOffsetTicks

theorem Sound.hold (sound : loop.Sound) (snapshot : TimingSnapshot) :
    (loop.hold snapshot).2.Sound := by
  rw [ControlLoop.hold]
  cases loop.state with
  | stepActive => exact (sound.enterTrack _).requestHoldover
  | track => exact sound.requestHoldover
  | acquire =>
      dsimp only
      split
      · exact sound.requestFrequency
      · exact sound.requestFrequency.same rfl rfl rfl rfl rfl

theorem Sound.update (sound : loop.Sound) (admitted : loop.Admits (.epoch input)) :
    (loop.update input).2.Sound := by
  have learnt := sound.learnt input
  cases usable : input.usable with
  | true =>
      rw [update_usable usable]
      exact learnt.useReference admitted _ _
  | false =>
      rw [update_unusable usable]
      exact learnt.hold _

theorem limitQ16_gate {ticks : Int} (within : |ticks| ≤ q16TickLimit) :
    0 ≤ EpochPiServo.limitQ16 ticks ∧ EpochPiServo.limitQ16 ticks ≤ q16Limit :=
  EpochPiServo.limitQ16_range (within.trans (by decide))

theorem Sound.restart (sound : loop.Sound) {profile : Option LoopProfile}
    (usable : ∀ given ∈ profile, Usable given) (slew : Bool) :
    (loop.restart profile slew).Sound := by
  have chosen : Usable (profile.getD loop.profile) := by
    cases profile with
    | none => exact sound.profile
    | some given => exact usable given rfl
  obtain ⟨least, most⟩ := limitQ16_gate chosen.gate
  have gained := EpochPiServo.setGains_limited loop.pi chosen.gains
  rw [ControlLoop.restart]
  dsimp only
  split
  · exact { sound with
      profile := chosen, gateLeast := least, gateMost := most, servo := { gained with } }
  · exact { sound with
      profile := chosen, gateLeast := least, gateMost := most
      servo := EpochPiServo.Limited.reset { gained with } }

theorem ppsKalman_bounded : ppsKalman.Bounded where
  process := by decide
  measurement := by decide
  varianceLeast := by decide
  varianceMost := by decide
  offset := by decide

theorem loopProfilePrecise_usable : Usable loopProfilePrecise where
  gains := ⟨by decide, by decide, by decide, by decide⟩
  gate := by decide
  rejects := by decide

theorem ntpProfile_usable : Usable ntpProfile where
  gains := ⟨by decide, by decide, by decide, by decide⟩
  gate := by decide
  rejects := by decide

theorem sound : machine.Invariant Admits Sound where
  start := by
    rintro loop rfl
    obtain ⟨least, most⟩ := limitQ16_gate loopProfilePrecise_usable.gate
    have gained := EpochPiServo.setGains_limited {} loopProfilePrecise_usable.gains
    exact ⟨ppsKalman_bounded, rfl, by decide,
      EpochPiServo.Limited.reset { gained with }, loopProfilePrecise_usable, least, most⟩
  step loop event sound admitted := by
    cases event with
    | epoch input => exact sound.update admitted
    | restart profile slew => exact sound.restart admitted slew
    | seed offsetQ16 => exact sound.seed admitted
    | freeRunStep | sourceStepped => exact sound.same rfl rfl rfl rfl rfl

/-! ## 32 bits -/

/-- The values `kalman_update` forms in 32 bits, at full width, of a period it considers. -/
def kalmanSums (filter : KalmanFilter) (period : BitVec 32) : List Int :=
  if filter.InRange period then
    [filter.measuredOffset period * q16One,
      filter.measuredOffsetQ16 period - filter.offsetQ16,
      qRoundShift (gainFromRatio filter.pMinusQ30 * filter.innovationQ16 period) 30,
      filter.offsetQ16 +
        qRoundShift (gainFromRatio filter.pMinusQ30 * filter.innovationQ16 period) 30]
  else []

/-- The values an epoch forms in 32 bits, at full width: the filter's, the seed where there is
one, the predicted phase's, the servo's, and the offsets asked for. -/
def sums (loop : ControlLoop) (input : EpochInput) : List Int :=
  let learnt := (loop.learnt input).referred
  let ticks := (loop.learnt input).measuredTicks input
  let predicted := (learnt.predict input.snapshot ticks).followStepHold
  kalmanSums loop.ppsKf input.referencePeriod ++
    (if learnt.Seeds input then [learnt.seedAverageQ16 input] else []) ++
    [qRoundShift learnt.ppsKf.offsetQ16 16,
      q16Clamp ticks q16TickLimit * q16One,
      q16Clamp ticks q16TickLimit * q16One - epochPhaseCalibrationQ16,
      q16Clamp (input.snapshot.runningPeriod - 40000000).toInt q16TickLimit * q16One,
      predicted.predictedPhaseQ16,
      loop.profile.gateTicks.tdiv 32 * q16One,
      learnt.ppsKf.offsetQ16 - learnt.pi.integralQ16,
      predicted.ppsKf.offsetQ16 - (predicted.pi.update predicted.predictedPhaseQ16).1] ++
    predicted.pi.sums predicted.predictedPhaseQ16

theorem kalmanSums_fit {filter : KalmanFilter} (bounded : filter.Bounded) (period : BitVec 32) :
    ∀ sum ∈ kalmanSums filter period, Fits32 sum := by
  rw [kalmanSums]
  split
  · next inRange =>
      have measured := abs_le.mp (KalmanFilter.measuredOffsetQ16_within inRange)
      have held := abs_le.mp bounded.offset
      have least : (0 : Int) ≤ gainFromRatio filter.pMinusQ30 := Int.natCast_nonneg _
      have most : (gainFromRatio filter.pMinusQ30 : Int) ≤ 2 ^ 30 := by
        exact_mod_cast gainFromRatio_le filter.pMinusQ30
      have ticks := inRange
      rw [KalmanFilter.InRange] at ticks
      push Not at ticks
      have innovation := bounded.innovation_eq inRange
      obtain ⟨upward, downward⟩ := Rounding.nearest_weight (filter.innovationQ16 period)
        (by decide : 0 < 30) least most
      rw [← qRoundShift] at upward downward
      rw [innovation] at upward downward ⊢
      dsimp only [q16Limit, q16TickLimit, q16One] at *
      have moved : -2147483648 ≤ qRoundShift (gainFromRatio filter.pMinusQ30 *
            (filter.measuredOffsetQ16 period - filter.offsetQ16)) 30 ∧
          qRoundShift (gainFromRatio filter.pMinusQ30 *
            (filter.measuredOffsetQ16 period - filter.offsetQ16)) 30 ≤ 2147483647 ∧
          -1073676288 ≤ filter.offsetQ16 + qRoundShift (gainFromRatio filter.pMinusQ30 *
            (filter.measuredOffsetQ16 period - filter.offsetQ16)) 30 ∧
          filter.offsetQ16 + qRoundShift (gainFromRatio filter.pMinusQ30 *
            (filter.measuredOffsetQ16 period - filter.offsetQ16)) 30 ≤ 1073676288 := by
        rcases le_total 0 (filter.measuredOffsetQ16 period - filter.offsetQ16) with above | below
        · obtain ⟨low, high⟩ := upward above
          omega
        · obtain ⟨low, high⟩ := downward below
          omega
      intro sum formed
      simp only [List.mem_cons, List.not_mem_nil, or_false] at formed
      rcases formed with rfl | rfl | rfl | rfl
      · exact ⟨by omega, by omega⟩
      · exact ⟨by omega, by omega⟩
      · exact ⟨by omega, by omega⟩
      · exact ⟨by omega, by omega⟩
  · exact fun sum none => (by cases none)

/-- The estimate to the nearest tick is one of Q16's. -/
theorem round_within {offsetQ16 : Int} (within : |offsetQ16| ≤ q16Limit) :
    -16383 ≤ qRoundShift offsetQ16 16 ∧ qRoundShift offsetQ16 16 ≤ 16383 := by
  obtain ⟨low, high⟩ := abs_le.mp within
  dsimp only [q16Limit] at low high
  have upward (value : Int) (positive : 0 ≤ value) (most : value ≤ 1073676288) :
      0 ≤ Rounding.nearest value 16 ∧ Rounding.nearest value 16 ≤ 16383 :=
    ⟨Rounding.nearest_nonneg positive, Rounding.nearest_le (by decide) positive (by omega)⟩
  rw [qRoundShift]
  rcases le_total 0 offsetQ16 with positive | negative
  · obtain ⟨least, most⟩ := upward offsetQ16 positive high
    exact ⟨by omega, by omega⟩
  · obtain ⟨least, most⟩ := upward (-offsetQ16) (by omega) (by omega)
    rw [Rounding.nearest_neg _ (by decide)] at least most
    exact ⟨by omega, by omega⟩

theorem Sound.sums_fit (sound : loop.Sound) (admitted : loop.Admits (.epoch input)) :
    ∀ sum ∈ loop.sums input, Fits32 sum := by
  have learnt : (loop.learnt input).referred.Sound := (sound.learnt input).referred
  obtain ⟨predicted, phase⟩ :=
    learnt.predict input.snapshot ((loop.learnt input).measuredTicks input)
  obtain ⟨held, same, -, -⟩ := predicted.followStepHold
  rw [← same] at phase
  have clamped := abs_le.mp (EpochPiServo.clamp_within ((loop.learnt input).measuredTicks input)
    (by decide : (0 : Int) ≤ q16TickLimit) (by decide))
  have running := abs_le.mp (EpochPiServo.clamp_within
    (input.snapshot.runningPeriod - 40000000).toInt (by decide : (0 : Int) ≤ q16TickLimit)
    (by decide))
  have rounded := round_within learnt.filter.offset
  have estimate := abs_le.mp learnt.filter.offset
  have heldEstimate := abs_le.mp held.filter.offset
  have integral := abs_le.mp learnt.servo.integral
  have integralMost := learnt.servo.integralLimitMost
  have corrected := abs_le.mp
    (@EpochPiServo.Limited.correction _
      ((loop.learnt input).referred.predict input.snapshot
        ((loop.learnt input).measuredTicks input)).followStepHold.predictedPhaseQ16 held.servo)
  have correctionMost := held.servo.correctionLimitMost
  have gate := abs_le.mp sound.profile.gate
  intro sum formed
  rw [sums] at formed
  simp only [List.append_assoc, List.mem_append, List.mem_cons, List.not_mem_nil, or_false] at formed
  rcases formed with formed | formed | (rfl | rfl | rfl | rfl | rfl | rfl | rfl | rfl) | formed
  · exact kalmanSums_fit sound.filter _ sum formed
  · split at formed
    · next seeds =>
        rw [List.mem_singleton.mp formed]
        exact fits_of_within (admitted seeds).within
    · cases formed
  · exact ⟨by omega, by omega⟩
  · dsimp only [q16TickLimit, q16One] at *
    exact ⟨by omega, by omega⟩
  · dsimp only [q16TickLimit, q16One, epochPhaseCalibrationQ16] at *
    exact ⟨by omega, by omega⟩
  · dsimp only [q16TickLimit, q16One] at *
    exact ⟨by omega, by omega⟩
  · exact fits_of_within phase
  · have share := Int.natAbs_tdiv_le_natAbs loop.profile.gateTicks 32
    dsimp only [q16TickLimit, q16One] at *
    exact ⟨by omega, by omega⟩
  · dsimp only [q16Limit] at estimate integralMost
    exact ⟨by omega, by omega⟩
  · dsimp only [q16Limit] at heldEstimate correctionMost
    exact ⟨by omega, by omega⟩
  · exact held.servo.sums_fit phase sum formed

theorem Sound.filtered_near (sound : loop.Sound) :
    39983617 ≤ loop.filteredPpsPeriod.toNat ∧ loop.filteredPpsPeriod.toNat ≤ 40016383 := by
  have rounded := round_within sound.filter.offset
  have length := toNat_sub_ofInt 40000000 (-qRoundShift loop.ppsKf.offsetQ16 16)
  rw [BitVec.ofInt_neg, BitVec.sub_neg, show (40000000 : BitVec 32).toNat = 40000000 from rfl]
    at length
  rw [sound.filtered, KalmanFilter.period, sound.nominal]
  omega

/-- Whatever is captured, however references are handed over: the estimate of the oscillator
is one that Q16 holds, the period it stands for within 16 383 ticks of nominal, the servo's
integral within its limit, and none of the values that an epoch forms in 32 bits for them
wraps. -/
theorem within_32_bits (reached : machine.Reachable Admits loop)
    (admitted : loop.Admits (.epoch input)) :
    (∀ sum ∈ loop.sums input, Fits32 sum) ∧
      |(loop.update input).2.ppsKf.offsetQ16| ≤ q16Limit ∧
      |(loop.update input).2.pi.integralQ16| ≤ (loop.update input).2.pi.integralLimitQ16 ∧
      39983617 ≤ (loop.update input).2.filteredPpsPeriod.toNat ∧
      (loop.update input).2.filteredPpsPeriod.toNat ≤ 40016383 := by
  have before := sound.reachable reached
  have after := before.update admitted
  exact ⟨before.sums_fit admitted, after.filter.offset, after.servo.integral, after.filtered_near⟩

/-- An epoch so many seconds in, its edge so many ticks from the reference's. -/
def epochAfter (seconds : Nat) (lateTicks : Int) : EpochInput where
  snapshot :=
    { sequence := BitVec.ofNat 32 seconds
      referenceCaptureValid := true
      referenceCapture := BitVec.ofNat 32 (40000000 * seconds)
      epochCaptureValid := true
      epochCapture := BitVec.ofInt 32 (40000000 * seconds + lateTicks) }
  referencePeriodValid := true
  referencePeriodSequence := BitVec.ofNat 32 seconds
  referencePeriod := 40000000
  usable := true
  offsetTicks := 0

theorem within_32_bits_first :
    (∀ sum ∈ sums {} (epochAfter 1 12345), Fits32 sum) ∧
      |(update {} (epochAfter 1 12345)).2.ppsKf.offsetQ16| ≤ q16Limit ∧
      |(update {} (epochAfter 1 12345)).2.pi.integralQ16| ≤
        (update {} (epochAfter 1 12345)).2.pi.integralLimitQ16 ∧
      39983617 ≤ (update {} (epochAfter 1 12345)).2.filteredPpsPeriod.toNat ∧
      (update {} (epochAfter 1 12345)).2.filteredPpsPeriod.toNat ≤ 40016383 :=
  within_32_bits (.start rfl) fun seeds => absurd seeds.1 (by decide)

/-! ## Tracking -/

/-- The offset asked for is the estimate, less no more than the servo may correct. -/
def Steered (loop : ControlLoop) : Prop :=
  |loop.commandedOffsetQ16 - loop.ppsKf.offsetQ16| ≤
    max loop.pi.integralLimitQ16 loop.pi.correctionLimitQ16

theorem Sound.holdover_steered (sound : loop.Sound) : loop.requestFrequency.Steered := by
  have estimate := abs_le.mp sound.filter.offset
  have integral := abs_le.mp sound.servo.integral
  have most := sound.servo.integralLimitMost
  have least := sound.servo.integralLimitLeast
  dsimp only [q16Limit] at estimate most
  change |loop.holdoverOffsetQ16 - loop.ppsKf.offsetQ16| ≤
    max loop.pi.integralLimitQ16 loop.pi.correctionLimitQ16
  refine le_trans ?_ (le_max_left _ _)
  rw [holdoverOffsetQ16, servoHoldoverOffset]
  apply abs_le.mpr
  split
  · rw [int32_eq ⟨by omega, by omega⟩]
    omega
  · omega

/-- The phase an epoch acts on in TRACK. -/
def trackedPhase (loop : ControlLoop) (input : EpochInput) : Int :=
  ((loop.learnt input).referred.predict input.snapshot
    ((loop.learnt input).measuredTicks input)).predictedPhaseQ16

/-- The gate's count and limit of rejections in a row. -/
def rejects (loop : ControlLoop) : Nat × Nat :=
  (loop.gate.consecutiveRejects, loop.gate.rejectLimit)

/-- What an epoch does to the tracking. -/
inductive Tracks (loop : ControlLoop) (input : EpochInput) (next : ControlLoop) : Prop
  | other (before : loop.state ≠ .track) (after : next.state ≠ .track)
      (same : next.rejects = loop.rejects)
  | enters (before : loop.state = .stepActive) (after : next.state = .track)
      (clear : next.rejects = (0, loop.gate.rejectLimit)) (steered : next.Steered)
  | holds (before : loop.state = .track) (after : next.state = .track)
      (unmeasured : ¬(input.usable = true ∧ phaseValid input = true))
      (same : next.rejects = loop.rejects) (steered : next.Steered)
  | accepts (before : loop.state = .track) (after : next.state = .track)
      (measured : input.usable = true ∧ phaseValid input = true)
      (inside : |loop.trackedPhase input| ≤ loop.gate.limitQ16)
      (clear : next.rejects = (0, loop.gate.rejectLimit)) (steered : next.Steered)
  | rejects (before : loop.state = .track) (after : next.state = .track)
      (measured : input.usable = true ∧ phaseValid input = true)
      (outside : loop.gate.limitQ16 < |loop.trackedPhase input|)
      (few : (loop.gate.consecutiveRejects + 1) % 256 < loop.gate.rejectLimit)
      (counts : next.rejects =
        ((loop.gate.consecutiveRejects + 1) % 256, loop.gate.rejectLimit))
      (steered : next.Steered) (integral : next.pi.integralQ16 = loop.pi.integralQ16)
  | loses (before : loop.state = .track) (after : next.state = .acquire)
      (measured : input.usable = true ∧ phaseValid input = true)
      (outside : loop.gate.limitQ16 < |loop.trackedPhase input|)
      (many : loop.gate.rejectLimit ≤ (loop.gate.consecutiveRejects + 1) % 256)
      (clear : next.rejects = (0, loop.gate.rejectLimit))

theorem check_cases (gate : EpochPhaseGate) (phaseQ16 : Int) (least : 0 ≤ gate.limitQ16)
    (most : gate.limitQ16 ≤ q16Limit) :
    (|phaseQ16| ≤ gate.limitQ16 ∧ gate.check phaseQ16 =
        (.accepted, { gate with consecutiveRejects := 0 })) ∨
      (gate.limitQ16 < |phaseQ16| ∧ (gate.consecutiveRejects + 1) % 256 < gate.rejectLimit ∧
        gate.check phaseQ16 =
          (.rejected,
            { gate with
              rejected := gate.rejected + 1
              consecutiveRejects := (gate.consecutiveRejects + 1) % 256 })) ∨
      (gate.limitQ16 < |phaseQ16| ∧ gate.rejectLimit ≤ (gate.consecutiveRejects + 1) % 256 ∧
        gate.check phaseQ16 =
          (.lost, { gate with rejected := gate.rejected + 1, consecutiveRejects := 0 })) := by
  dsimp only [q16Limit] at most
  have lowest : int32 (-gate.limitQ16) = -gate.limitQ16 := int32_eq ⟨by omega, by omega⟩
  rw [EpochPhaseGate.check, lowest]
  by_cases inside : phaseQ16 ≤ gate.limitQ16 ∧ -gate.limitQ16 ≤ phaseQ16
  · rw [if_pos inside]
    exact .inl ⟨abs_le.mpr inside.symm, rfl⟩
  · rw [if_neg inside]
    have outside : gate.limitQ16 < |phaseQ16| := by
      rw [← not_le, abs_le]
      exact fun within => inside within.symm
    dsimp only
    by_cases many : gate.rejectLimit ≤ (gate.consecutiveRejects + 1) % 256
    · rw [if_pos many]
      exact .inr (.inr ⟨outside, many, rfl⟩)
    · rw [if_neg many]
      exact .inr (.inl ⟨outside, Nat.lt_of_not_le many, rfl⟩)

theorem learnt_keeps (loop : ControlLoop) (input : EpochInput) :
    (loop.learnt input).state = loop.state ∧ (loop.learnt input).gate = loop.gate ∧
      (loop.learnt input).pi = loop.pi := by
  have taught : (loop.updateKalman input).state = loop.state ∧
      (loop.updateKalman input).gate = loop.gate ∧ (loop.updateKalman input).pi = loop.pi := by
    rw [updateKalman]
    split
    · exact ⟨rfl, rfl, rfl⟩
    · dsimp only
      split <;> exact ⟨rfl, rfl, rfl⟩
  exact taught

theorem followStepHold_integral (loop : ControlLoop) :
    loop.followStepHold.pi.integralQ16 = loop.pi.integralQ16 := by
  rw [followStepHold]
  dsimp only
  split
  · rfl
  · split <;> rfl

theorem servo_correctionLimit (servo : EpochPiServo) (phaseErrorQ16 : Int) :
    (servo.update phaseErrorQ16).2.correctionLimitQ16 = servo.correctionLimitQ16 := by
  rw [EpochPiServo.update]
  split <;> rfl

/-- A phase within the gate is corrected, by no more than the limit. -/
theorem Sound.servo_steered (sound : loop.Sound) (phaseQ16 : Int) (holdoverEpochs : BitVec 32) :
    ({ loop with
        holdoverEpochs := holdoverEpochs
        pi := (servoOffset loop.pi loop.ppsKf.offsetQ16 phaseQ16).2 }.requestOffset
      (servoOffset loop.pi loop.ppsKf.offsetQ16 phaseQ16).1).Steered := by
  have estimate := abs_le.mp sound.filter.offset
  have corrected := @EpochPiServo.Limited.correction _ phaseQ16 sound.servo
  have most := sound.servo.correctionLimitMost
  have bounds := abs_le.mp corrected
  dsimp only [q16Limit] at estimate most
  change |int32 (loop.ppsKf.offsetQ16 - (loop.pi.update phaseQ16).1) - loop.ppsKf.offsetQ16| ≤
    max _ (loop.pi.update phaseQ16).2.correctionLimitQ16
  refine le_trans ?_ (le_max_right _ _)
  rw [servo_correctionLimit, int32_eq ⟨by omega, by omega⟩]
  apply abs_le.mpr
  omega

/-- What TRACK makes of a phase. -/
theorem Sound.follow_cases (sound : loop.Sound) :
    (|loop.predictedPhaseQ16| ≤ loop.gate.limitQ16 ∧ loop.follow.2.state = loop.state ∧
        loop.follow.2.rejects = (0, loop.gate.rejectLimit) ∧ loop.follow.2.Steered) ∨
      (loop.gate.limitQ16 < |loop.predictedPhaseQ16| ∧
        (loop.gate.consecutiveRejects + 1) % 256 < loop.gate.rejectLimit ∧
        loop.follow.2.state = loop.state ∧
        loop.follow.2.rejects =
          ((loop.gate.consecutiveRejects + 1) % 256, loop.gate.rejectLimit) ∧
        loop.follow.2.Steered ∧ loop.follow.2.pi.integralQ16 = loop.pi.integralQ16) ∨
      (loop.gate.limitQ16 < |loop.predictedPhaseQ16| ∧
        loop.gate.rejectLimit ≤ (loop.gate.consecutiveRejects + 1) % 256 ∧
        loop.follow.2.state = .acquire ∧
        loop.follow.2.rejects = (0, loop.gate.rejectLimit)) := by
  obtain ⟨held, phase, gate, state⟩ := sound.followStepHold
  have integral := loop.followStepHold_integral
  rw [ControlLoop.follow]
  dsimp only
  rw [phase, gate]
  obtain ⟨inside, checked⟩ | ⟨outside, few, checked⟩ | ⟨outside, many, checked⟩ :=
    check_cases loop.gate loop.predictedPhaseQ16 sound.gateLeast sound.gateMost
  · rw [checked]
    refine .inl ⟨inside, state, rfl, ?_⟩
    have gated : ({ loop.followStepHold with
        gate := { loop.gate with consecutiveRejects := 0 } } : ControlLoop).Sound :=
      held.same rfl rfl rfl rfl (by rw [gate])
    exact gated.servo_steered _ 0
  · rw [checked]
    refine .inr (.inl ⟨outside, few, state, rfl, ?_, integral⟩)
    have counted : ({ loop.followStepHold with
        gate := { loop.gate with
          rejected := loop.gate.rejected + 1
          consecutiveRejects := (loop.gate.consecutiveRejects + 1) % 256 }
        holdoverEpochs := loop.followStepHold.holdoverEpochs + 1 } : ControlLoop).Sound :=
      held.same rfl rfl rfl rfl (by rw [gate])
    exact counted.holdover_steered
  · rw [checked]
    exact .inr (.inr ⟨outside, many, rfl, rfl⟩)

theorem Sound.requestHoldover_steered (sound : loop.Sound) : loop.requestHoldover.Steered :=
  Sound.holdover_steered (sound.same rfl rfl rfl rfl rfl)

theorem seed_keeps (loop : ControlLoop) (offsetQ16 : Int) :
    (loop.seed offsetQ16).state = loop.state ∧ (loop.seed offsetQ16).gate = loop.gate :=
  ⟨rfl, rfl⟩

theorem requestFrequency_keeps (loop : ControlLoop) :
    loop.requestFrequency.state = loop.state ∧ loop.requestFrequency.gate = loop.gate :=
  ⟨rfl, rfl⟩

/-- Acquiring leaves the gate as it is. -/
theorem seedFrequency_keeps (loop : ControlLoop) (input : EpochInput) :
    (loop.seedFrequency input).2.state = loop.state ∧
      (loop.seedFrequency input).2.gate = loop.gate := by
  have counted : (loop.seedCount input).state = loop.state ∧
      (loop.seedCount input).gate = loop.gate := by
    rw [seedCount]
    split <;> exact ⟨rfl, rfl⟩
  rw [seedFrequency]
  split
  · exact ⟨rfl, rfl⟩
  · split
    · exact ⟨rfl, rfl⟩
    · dsimp only
      split
      · exact counted
      · obtain ⟨state, gate⟩ := (loop.seedCount input).seed_keeps
          (int32 (((loop.seedCount input).seedExcessQ16 input).tdiv
            (loop.seedCount input).seedPeriods.toNat))
        exact ⟨state.trans counted.1, gate.trans counted.2⟩

/-- The frequency, or a step. -/
theorem acquire_forms (loop : ControlLoop) (snapshot : TimingSnapshot) (utcOffsetTicks : Int) :
    loop.acquire snapshot utcOffsetTicks = loop.requestFrequency ∨
      loop.acquire snapshot utcOffsetTicks =
        { loop with predictedPhaseQ16 := 0 }.requestFrequency ∨
      ∃ period, loop.acquire snapshot utcOffsetTicks =
        { loop with predictedPhaseQ16 := 0, commandedPeriod := period, state := .stepActive } := by
  rw [acquire]
  split
  · exact .inl rfl
  · dsimp only
    generalize computeStep loop.filteredPpsPeriod _ = step
    cases step with
    | none => exact .inr (.inl rfl)
    | some step => exact .inr (.inr ⟨step, rfl⟩)

theorem acquire_keeps (loop : ControlLoop) (snapshot : TimingSnapshot) (utcOffsetTicks : Int)
    (acquiring : loop.state = .acquire) :
    (loop.acquire snapshot utcOffsetTicks).state ≠ .track ∧
      (loop.acquire snapshot utcOffsetTicks).gate = loop.gate := by
  have still : loop.state ≠ .track := by
    rw [acquiring]
    exact fun same => (by cases same)
  have stepping : EpochSyncState.stepActive ≠ .track := fun same => (by cases same)
  obtain same | same | ⟨period, same⟩ := loop.acquire_forms snapshot utcOffsetTicks
  · rw [same]
    exact ⟨still, loop.requestFrequency_keeps.2⟩
  · rw [same]
    exact ⟨still, (requestFrequency_keeps _).2⟩
  · rw [same]
    exact ⟨stepping, rfl⟩

theorem useReference_acquire (acquiring : loop.state = .acquire) (valid : Bool)
    (utcOffsetTicks : Int) :
    (loop.useReference input valid utcOffsetTicks).2.state ≠ .track ∧
      (loop.useReference input valid utcOffsetTicks).2.gate = loop.gate := by
  have same : loop.referred.state = .acquire := acquiring
  have still : loop.referred.state ≠ .track := by
    rw [same]
    exact fun same => (by cases same)
  obtain ⟨state, gate⟩ := loop.referred.seedFrequency_keeps input
  rw [useReference]
  dsimp only
  rw [same]
  cases valid with
  | false => exact ⟨still, rfl⟩
  | true =>
      cases (loop.referred.seedFrequency input).1 with
      | false =>
          simp only [Bool.not_true, Bool.false_eq_true, if_false]
          exact ⟨state ▸ still, gate⟩
      | true =>
          simp only [Bool.not_true, Bool.false_eq_true, if_false, if_true]
          obtain ⟨after, kept⟩ := acquire_keeps _ input.snapshot utcOffsetTicks (state.trans same)
          exact ⟨after, kept.trans gate⟩

theorem Sound.update_tracks (sound : loop.Sound) (input : EpochInput) :
    Tracks loop input (loop.update input).2 := by
  have learnt := sound.learnt input
  have referred := learnt.referred
  obtain ⟨state, gate, servo⟩ := loop.learnt_keeps input
  have keeps {next : ControlLoop} (same : next.gate = (loop.learnt input).gate) :
      next.rejects = loop.rejects := by
    rw [ControlLoop.rejects, same, gate]
    rfl
  have clears {next : ControlLoop} (same : next.gate = (loop.learnt input).gate.reset) :
      next.rejects = (0, loop.gate.rejectLimit) := by
    rw [ControlLoop.rejects, same, gate]
    rfl
  cases usable : input.usable with
  | false =>
      have unmeasured : ¬(input.usable = true ∧ phaseValid input = true) := by
        rw [usable]
        exact fun measured => (by cases measured.1)
      rw [update_unusable usable, ControlLoop.hold]
      cases before : loop.state with
      | stepActive =>
          rw [state.trans before]
          exact .enters before rfl (clears rfl) (learnt.enterTrack _).requestHoldover_steered
      | track =>
          rw [state.trans before]
          exact .holds before (state.trans before) unmeasured (keeps rfl)
            learnt.requestHoldover_steered
      | acquire =>
          rw [state.trans before]
          have still : (loop.learnt input).state ≠ .track := by
            rw [state, before]
            exact fun same => (by cases same)
          refine .other ?_ ?_ ?_
          · rw [before]
            exact fun same => (by cases same)
          · dsimp only
            split <;> exact still
          · dsimp only
            split <;> exact keeps rfl
  | true =>
      rw [update_usable usable]
      cases before : loop.state with
      | acquire =>
          obtain ⟨after, kept⟩ := @useReference_acquire _ input (state.trans before)
            (phaseValid input) ((loop.learnt input).measuredTicks input)
          refine .other ?_ after (keeps kept)
          rw [before]
          exact fun same => (by cases same)
      | stepActive =>
          have same : (loop.learnt input).referred.state = .stepActive := state.trans before
          rw [ControlLoop.useReference]
          dsimp only
          rw [same]
          exact .enters before rfl (clears rfl) (referred.enterTrack _).holdover_steered
      | track =>
          have same : (loop.learnt input).referred.state = .track := state.trans before
          rw [ControlLoop.useReference]
          dsimp only
          rw [same]
          cases valid : phaseValid input with
          | false =>
              have unmeasured : ¬(input.usable = true ∧ phaseValid input = true) := by
                rw [valid]
                exact fun measured => (by cases measured.2)
              exact .holds before same unmeasured (keeps rfl) referred.requestHoldover_steered
          | true =>
              simp only [Bool.not_true, Bool.false_eq_true, if_false]
              obtain ⟨predicted, -⟩ :=
                referred.predict input.snapshot ((loop.learnt input).measuredTicks input)
              have cases' := predicted.follow_cases
              have sameGate : ((loop.learnt input).referred.predict input.snapshot
                  ((loop.learnt input).measuredTicks input)).gate = loop.gate := gate
              rw [sameGate] at cases'
              obtain ⟨inside, after, clear, steered⟩ |
                ⟨outside, few, after, counts, steered, integral⟩ | ⟨outside, many, after, clear⟩ :=
                  cases'
              · exact .accepts before (after.trans same) ⟨usable, valid⟩ inside clear steered
              · exact .rejects before (after.trans same) ⟨usable, valid⟩ outside few counts steered
                  (integral.trans (congrArg _ servo))
              · exact .loses before after ⟨usable, valid⟩ outside many clear

/-- An epoch in which a phase is measured, or a restart. -/
def Counted : Event → Prop
  | .epoch input => input.usable = true ∧ phaseValid input = true
  | .restart _ _ => True
  | _ => False

/-- A phase outside the gate, while tracking. -/
def Outside (loop : ControlLoop) : Event → Prop
  | .epoch input => loop.state = .track ∧ loop.gate.limitQ16 < |loop.trackedPhase input|
  | _ => False

/-- The gate's count is of the phases just measured outside it. -/
structure Tracked (acts : List Event) (loop : ControlLoop) : Prop where
  sound : loop.Sound
  least : 0 < loop.gate.rejectLimit
  most : loop.gate.rejectLimit < 256
  few : loop.gate.consecutiveRejects < loop.gate.rejectLimit
  idle : loop.state ≠ .track → loop.gate.consecutiveRejects = 0
  lately : machine.Lately Counted Outside {} loop.gate.consecutiveRejects acts loop

variable {acts : List Event}

theorem Tracked.clear {next : ControlLoop} (sound : next.Sound)
    (run : machine.Run (fun _ _ => True) {} acts next) (least : 0 < next.gate.rejectLimit)
    (most : next.gate.rejectLimit < 256) (none : next.gate.consecutiveRejects = 0) :
    Tracked acts next where
  sound := sound
  least := least
  most := most
  few := by rw [none]; exact least
  idle _ := none
  lately := by rw [none]; exact .nil run

theorem Tracked.epoch (tracked : Tracked acts loop)
    (run : machine.Run (fun _ _ => True) {} acts loop) (admitted : loop.Admits (.epoch input)) :
    Tracked (acts ++ [.epoch input]) (loop.update input).2 := by
  have sound := tracked.sound.update admitted
  have longer : machine.Run (fun _ _ => True) {} (acts ++ [.epoch input]) (loop.update input).2 :=
    run.append (.single (Event.epoch input) trivial)
  have least := tracked.least
  have most := tracked.most
  have few := tracked.few
  cases tracked.sound.update_tracks input with
  | other before after same =>
      obtain ⟨count, limit⟩ := Prod.mk.inj same
      exact .clear sound longer (limit ▸ least) (limit ▸ most) (count.trans (tracked.idle before))
  | enters before after clear steered =>
      obtain ⟨count, limit⟩ := Prod.mk.inj clear
      exact .clear sound longer (limit ▸ least) (limit ▸ most) count
  | accepts before after measured inside clear steered =>
      obtain ⟨count, limit⟩ := Prod.mk.inj clear
      exact .clear sound longer (limit ▸ least) (limit ▸ most) count
  | loses before after measured outside many clear =>
      obtain ⟨count, limit⟩ := Prod.mk.inj clear
      exact .clear sound longer (limit ▸ least) (limit ▸ most) count
  | holds before after unmeasured same steered =>
      obtain ⟨count, limit⟩ := Prod.mk.inj same
      refine ⟨sound, limit ▸ least, limit ▸ most, ?_, fun not => absurd after not, ?_⟩
      · rw [count, limit]
        exact few
      · rw [count]
        exact tracked.lately.skips (.epoch input) unmeasured
  | rejects before after measured outside less counts steered integral =>
      obtain ⟨count, limit⟩ := Prod.mk.inj counts
      have whole : (loop.gate.consecutiveRejects + 1) % 256 = loop.gate.consecutiveRejects + 1 :=
        Nat.mod_eq_of_lt (by omega)
      refine ⟨sound, limit ▸ least, limit ▸ most, ?_, fun not => absurd after not, ?_⟩
      · rw [count, limit]
        exact less
      · rw [count, whole]
        exact tracked.lately.counts (.epoch input) measured ⟨before, outside⟩

theorem Tracked.act (tracked : Tracked acts loop)
    (run : machine.Run (fun _ _ => True) {} acts loop) (event : Event)
    (admitted : loop.Admits event) : Tracked (acts ++ [event]) (loop.act event) := by
  have longer : machine.Run (fun _ _ => True) {} (acts ++ [event]) (loop.act event) :=
    run.append (.single event trivial)
  have sound : (loop.act event).Sound := ControlLoop.sound.step loop event tracked.sound admitted
  cases event with
  | epoch input => exact tracked.epoch run admitted
  | restart profile slew =>
      have limited : (loop.restart profile slew).gate.consecutiveRejects = 0 ∧
          (loop.restart profile slew).gate.rejectLimit =
            max 1 (profile.getD loop.profile).rejectLimit := by
        have limit (count : Nat) : (if count = 0 then 1 else count) = max 1 count := by
          split <;> omega
        rw [restart]
        dsimp only
        split <;> exact ⟨rfl, limit _⟩
      have short : (profile.getD loop.profile).rejectLimit < 256 := by
        cases profile with
        | none => exact tracked.sound.profile.rejects
        | some given => exact (admitted given rfl).rejects
      refine .clear sound longer ?_ ?_ limited.1
      · change 0 < (loop.restart profile slew).gate.rejectLimit
        omega
      · change (loop.restart profile slew).gate.rejectLimit < 256
        omega
  | seed offsetQ16 =>
      exact ⟨sound, tracked.least, tracked.most, tracked.few, tracked.idle,
        tracked.lately.skips (.seed offsetQ16) id⟩
  | freeRunStep ticks =>
      exact ⟨sound, tracked.least, tracked.most, tracked.few, tracked.idle,
        tracked.lately.skips (.freeRunStep ticks) id⟩
  | sourceStepped =>
      exact ⟨sound, tracked.least, tracked.most, tracked.few, tracked.idle,
        tracked.lately.skips .sourceStepped id⟩

theorem Tracked.run {before : ControlLoop} {later : List Event}
    (rest : machine.Run Admits before later loop) :
    ∀ earlier, machine.Run (fun _ _ => True) {} earlier before → Tracked earlier before →
      Tracked (earlier ++ later) loop := by
  induction rest with
  | nil =>
      intro earlier _ tracked
      rw [List.append_nil]
      exact tracked
  | cons event admitted _ ih =>
      intro earlier run tracked
      have longer := ih (earlier ++ [event]) (run.append (.single event trivial))
        (tracked.act run event admitted)
      rwa [List.append_assoc] at longer

theorem tracked (run : machine.Run Admits {} acts loop) : Tracked acts loop :=
  Tracked.run run [] (.nil _)
    (.clear (sound.start _ rfl) (.nil _) (by decide) (by decide) rfl)

/-- While the loop tracks, whatever it is given: the period it asks for is the oscillator's
estimate, less no more than the servo may correct, and a phase outside the gate does not
move the servo's integral; and it stops tracking for a restart that does not slew, or when
the last phases measured, as many as the gate's limit, with none inside and no restart
between, were all outside the gate. -/
theorem track_kept (run : machine.Run Admits {} acts loop) (tracking : loop.state = .track)
    (event : Event) (admitted : loop.Admits event) :
    ((loop.act event).state = .track ∧ ∀ input, event = .epoch input →
        (loop.act event).Steered ∧
          (input.usable = true ∧ phaseValid input = true →
            loop.gate.limitQ16 < |loop.trackedPhase input| →
              (loop.act event).pi.integralQ16 = loop.pi.integralQ16)) ∨
      (loop.act event).state = .acquire ∧
        ((∃ profile, event = .restart profile false) ∨
          machine.Lately Counted Outside {} loop.gate.rejectLimit (acts ++ [event])
            (loop.act event)) := by
  have tracked := ControlLoop.tracked run
  cases event with
  | epoch input =>
      change ((loop.update input).2.state = .track ∧ _) ∨ (loop.update input).2.state = .acquire ∧ _
      cases tracked.sound.update_tracks input with
      | other before after same => exact absurd tracking before
      | enters before after clear steered =>
          rw [tracking] at before
          cases before
      | holds before after unmeasured same steered =>
          refine .inl ⟨after, fun given same => ?_⟩
          cases same
          exact ⟨steered, fun measured => absurd measured unmeasured⟩
      | accepts before after measured inside clear steered =>
          refine .inl ⟨after, fun given same => ?_⟩
          cases same
          exact ⟨steered, fun _ outside => absurd inside (not_le.mpr outside)⟩
      | rejects before after measured outside few counts steered integral =>
          refine .inl ⟨after, fun given same => ?_⟩
          cases same
          exact ⟨steered, fun _ _ => integral⟩
      | loses before after measured outside many clear =>
          refine .inr ⟨after, .inr ?_⟩
          have few := tracked.few
          have most := tracked.most
          have last : loop.gate.rejectLimit = loop.gate.consecutiveRejects + 1 := by omega
          rw [last]
          exact tracked.lately.counts (.epoch input) measured ⟨before, outside⟩
  | restart profile slew =>
      cases slew with
      | true =>
          refine .inl ⟨?_, fun input same => (by cases same)⟩
          rw [act, restart]
          dsimp only
          rw [if_pos (by rw [tracking]; rfl)]
          exact tracking
      | false => exact .inr ⟨rfl, .inl ⟨profile, rfl⟩⟩
  | seed | freeRunStep | sourceStepped =>
      exact .inl ⟨tracking, fun input same => (by cases same)⟩

/-- The loop after so many epochs on the reference's edges. -/
def afterEpochs : Nat → ControlLoop
  | 0 => {}
  | seconds + 1 => (afterEpochs seconds).act (.epoch (epochAfter (seconds + 1) 0))

/-- On time for four epochs, and then half a millisecond late. -/
theorem track_kept_late :
    let loop := afterEpochs 4
    let late := Event.epoch (epochAfter 5 20000)
    (loop.act late).state = .track ∧ (∀ input, late = .epoch input →
        (loop.act late).Steered ∧
          (input.usable = true ∧ phaseValid input = true →
            loop.gate.limitQ16 < |loop.trackedPhase input| →
              (loop.act late).pi.integralQ16 = loop.pi.integralQ16)) ∨
      (loop.act late).state = .acquire ∧
        ((∃ profile, late = .restart profile false) ∨
          machine.Lately Counted Outside {} loop.gate.rejectLimit
            (((List.range 4).map fun second => Event.epoch (epochAfter (second + 1) 0)) ++ [late])
            (loop.act late)) := by
  have learns (loop : ControlLoop) (input : EpochInput)
      (learning : (loop.learnt input).referred.profile.learnFrequency = true) :
      loop.Admits (.epoch input) := by
    intro seeds
    rw [seeds.1] at learning
    cases learning
  have run : machine.Run Admits {}
      ((List.range 4).map fun second => Event.epoch (epochAfter (second + 1) 0)) (afterEpochs 4) :=
    .cons _ (learns _ _ (by decide)) (.cons _ (learns _ _ (by decide))
      (.cons _ (learns _ _ (by decide)) (.cons _ (learns _ _ (by decide)) (.nil _))))
  exact track_kept run (by decide) _ (learns _ _ (by decide))

end ControlLoop

end GpsClock.Timing
