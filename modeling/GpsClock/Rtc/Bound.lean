import GpsClock.Lib.Truncation
import GpsClock.Rtc.System

/-! # The RTC's bound

From an anchor the source predicts where its later seconds start against UTC's, and how
far out that may be. While the chip keeps to the rate in use as closely as is allowed for,
the bound covers the truth for as long as a label can run
(`GpsClock.Rtc.SourceRtc.predict_honest`): the truncations of the fixed-point rates stay
within the hundredth of a ppm left for them, and nothing overflows.
-/

namespace GpsClock.Rtc

open GpsClock.Sync GpsClock.Timing

/-- What an `int64_t` holds. -/
def InInt64 (value : Int) : Prop :=
  -9223372036854775808 ≤ value ∧ value < 9223372036854775808

theorem inInt64_of_abs {value limit : Int} (within : |value| ≤ limit)
    (small : limit < 9223372036854775808) : InInt64 value := by
  obtain ⟨below, above⟩ := abs_le.mp within
  exact ⟨by omega, by omega⟩

/-- Steps that each keep to a rate within a tolerance keep to it within their sum. -/
theorem drift_within {position : Nat → ℝ} {rate tolerance : ℝ} {steps : Nat}
    (kept : ∀ n < steps, |position (n + 1) - position n - rate| ≤ tolerance) :
    |position steps - position 0 - steps * rate| ≤ steps * tolerance := by
  induction steps with
  | zero => simp
  | succ steps ih =>
      have before := ih (fun n early => kept n (Nat.lt_succ_of_lt early))
      have last := kept steps (Nat.lt_succ_self steps)
      rw [abs_le] at before last ⊢
      push_cast
      constructor <;> linarith

namespace SourceRtc

/-- The rate as it is predicted with, Q8 ticks a true second. -/
def netRateQ8 (source : SourceRtc) : Int :=
  source.rate.q8 - source.oscillatorQ16.tdiv 256

/-- The rate learnt less the oscillator's estimate, exactly: nanoseconds a second. -/
noncomputable def driftNs (source : SourceRtc) : ℝ :=
  ((source.rate.q8 : ℝ) / 256 - (source.oscillatorQ16 : ℝ) / 65536) * nsPerTick

/-- The ppm allowed for in the bound. -/
def allowancePpm (source : SourceRtc) : Nat :=
  if source.rate.valid then sourceRtcAllowancePpm else sourceRtcRateLimitPpm

/-- Where the RTC's seconds truly start against UTC's, so many seconds after the anchor:
it was measured within its bound, and the chip has since kept to the rate in use within
what is allowed for, less the hundredth of a ppm left for rounding, or to the nominal
second within the rates believed. -/
structure Kept (source : SourceRtc) (trueOffset : Nat → ℝ) (seconds : Nat) : Prop where
  anchored : |trueOffset 0 - source.anchor.offsetNs| ≤ source.anchor.boundNs
  learnt : source.rate.valid = true → ∀ n < seconds,
    |trueOffset (n + 1) - trueOffset n - source.driftNs| ≤
      ((sourceRtcAllowancePpm : ℝ) - 1 / 100) * 1000
  unlearnt : source.rate.valid = false → ∀ n < seconds,
    |trueOffset (n + 1) - trueOffset n| ≤ (sourceRtcRateLimitPpm : ℝ) * 1000

/-- Every value `predict` computes for a label fits its type. -/
structure PredictFits (source : SourceRtc) (label : BitVec 32) : Prop where
  rate : InInt64 source.netRateQ8
  product : InInt64 ((label - source.anchor.utcSeconds).toInt * source.netRateQ8)
  scaled : InInt64 ((label - source.anchor.utcSeconds).toInt * source.netRateQ8 * nsPerTick)
  offset : InInt64 (source.anchor.offsetNs +
    ((label - source.anchor.utcSeconds).toInt * source.netRateQ8 * nsPerTick).tdiv 256)
  bound : source.anchor.boundNs +
    (label - source.anchor.utcSeconds).toInt.toNat * source.allowancePpm * 1000 < 18446744073709551616

variable {source : SourceRtc} {stopped : Bool} {seconds : Nat}

/-- The label so many seconds after the anchor. -/
def labelAfter (source : SourceRtc) (seconds : Nat) : BitVec 32 :=
  source.anchor.utcSeconds + BitVec.ofNat 32 seconds

theorem elapsed_labelAfter (within : seconds < 2147483648) :
    (source.labelAfter seconds - source.anchor.utcSeconds).toInt = seconds := by
  rw [labelAfter, BitVec.add_comm, BitVec.add_sub_cancel,
    BitVec.toInt_eq_toNat_of_lt (by rw [BitVec.toNat_ofNat]; omega), BitVec.toNat_ofNat]
  omega

/-- The offset predicted so many seconds after the anchor. -/
def predictedNs (source : SourceRtc) (seconds : Nat) : Int :=
  source.anchor.offsetNs +
    if source.rate.valid then (seconds * source.netRateQ8 * nsPerTick).tdiv 256 else 0

/-- The bound so many seconds after the anchor, before it saturates. -/
def grownNs (source : SourceRtc) (seconds : Nat) : Nat :=
  source.anchor.boundNs + seconds * source.allowancePpm * 1000

theorem predict_labelAfter (anchored : source.anchor.valid = true)
    (within : seconds < 2147483648) :
    source.predict (source.labelAfter seconds) =
      some (source.predictedNs seconds, saturateBound (source.grownNs seconds)) := by
  have later : ¬((seconds : Int) < 0) := by omega
  rw [predict, elapsed_labelAfter within, anchored]
  simp only [Bool.not_true, Bool.false_or, decide_eq_true_eq, if_neg later, Int.toNat_natCast]
  rfl

/-! ## Nothing overflows -/

theorem netRateQ8_abs (sound : source.Sound stopped) : |source.netRateQ8| ≤ 13508608 := by
  obtain ⟨slow, fast⟩ := sound.rate
  obtain ⟨below, above⟩ := sound.oscillator
  unfold rateLimitQ8 sourceRtcRateLimitPpm at slow fast
  have quotient := Int.tdiv_mul_add_tmod source.oscillatorQ16 256
  have left_over := Int.lt_tmod_of_pos source.oscillatorQ16 (by decide : (0 : Int) < 256)
  have left_under := Int.tmod_lt_of_pos source.oscillatorQ16 (by decide : (0 : Int) < 256)
  rw [netRateQ8, abs_le]
  constructor <;> omega

theorem product_abs (sound : source.Sound stopped) (within : seconds < 2147483648) :
    |seconds * source.netRateQ8| ≤ 2147483648 * 13508608 := by
  have fewer : (seconds : Int) ≤ 2147483648 := by omega
  rw [abs_mul, Nat.abs_cast]
  exact mul_le_mul fewer (netRateQ8_abs sound) (abs_nonneg _) (by decide)

theorem scaled_abs (sound : source.Sound stopped) (within : seconds < 2147483648) :
    |seconds * source.netRateQ8 * nsPerTick| ≤ 2147483648 * 13508608 * 25 := by
  rw [abs_mul]
  exact Int.mul_le_mul_of_nonneg_right (product_abs sound within) (by decide)

theorem tdiv_abs {value limit : Int} (within : |value| ≤ limit) : |value.tdiv 256| ≤ limit := by
  obtain ⟨below, above⟩ := abs_le.mp within
  have parts := Int.tdiv_mul_add_tmod value 256
  have rest_above := Int.lt_tmod_of_pos value (by decide : (0 : Int) < 256)
  have rest_below := Int.tmod_lt_of_pos value (by decide : (0 : Int) < 256)
  rw [abs_le]
  constructor <;> omega

theorem predict_fits (sound : source.Sound stopped) (within : seconds < 2147483648) :
    source.PredictFits (source.labelAfter seconds) := by
  have scaled := scaled_abs sound within
  obtain ⟨offset, bound⟩ := sound.anchor
  have divided := tdiv_abs scaled
  refine ⟨?_, ?_, ?_, ?_, ?_⟩
  · exact inInt64_of_abs (netRateQ8_abs sound) (by decide)
  · rw [elapsed_labelAfter within]
    exact inInt64_of_abs (product_abs sound within) (by decide)
  · rw [elapsed_labelAfter within]
    exact inInt64_of_abs scaled (by decide)
  · rw [elapsed_labelAfter within]
    exact inInt64_of_abs ((abs_add_le _ _).trans (Int.add_le_add offset divided)) (by decide)
  · rw [elapsed_labelAfter within, Int.toNat_natCast]
    have allowed : source.allowancePpm ≤ 500 := by
      rw [allowancePpm]
      split <;> decide
    have grown : seconds * source.allowancePpm ≤ 2147483648 * 500 :=
      Nat.mul_le_mul within.le allowed
    omega

/-! ## The prediction covers the truth -/

/-- A quotient by 256, and the less than 256 it leaves out. -/
theorem tdiv_parts (value : Int) :
    ∃ rest : ℝ, (256 : ℝ) * (value.tdiv 256 : Int) + rest = value ∧ |rest| ≤ 256 := by
  have parts := Int.tdiv_mul_add_tmod value 256
  have above := Int.lt_tmod_of_pos value (by decide : (0 : Int) < 256)
  have below := Int.tmod_lt_of_pos value (by decide : (0 : Int) < 256)
  refine ⟨(value.tmod 256 : Int), ?_, ?_⟩
  · exact_mod_cast (Int.mul_comm .. ▸ parts : 256 * value.tdiv 256 + value.tmod 256 = value)
  · exact_mod_cast (abs_le.mpr ⟨above.le, below.le⟩ : |value.tmod 256| ≤ 256)

/-- The truncations lose no more than a nanosecond and a fortieth of a nanosecond a second. -/
theorem predictedNs_near (learnt : source.rate.valid = true) (seconds : Nat) :
    |(source.predictedNs seconds - source.anchor.offsetNs : ℝ) - seconds * source.driftNs| ≤
      seconds * 10 := by
  rcases Nat.eq_zero_or_pos seconds with rfl | some_seconds
  · simp [predictedNs]
  · have one : (1 : ℝ) ≤ seconds := by exact_mod_cast some_seconds
    obtain ⟨rest, rate, rest_small⟩ := tdiv_parts source.oscillatorQ16
    obtain ⟨left, offset, left_small⟩ := tdiv_parts (seconds * source.netRateQ8 * nsPerTick)
    have spread : |(seconds : ℝ) * rest| ≤ seconds * 256 := by
      rw [abs_mul, Nat.abs_cast]
      exact mul_le_mul_of_nonneg_left rest_small (Nat.cast_nonneg _)
    have predicted : (source.predictedNs seconds : ℝ) - source.anchor.offsetNs =
        ((seconds * source.netRateQ8 * nsPerTick).tdiv 256 : Int) := by
      rw [predictedNs, if_pos learnt]
      push_cast
      ring
    have net : (source.netRateQ8 : ℝ) =
        source.rate.q8 - (source.oscillatorQ16.tdiv 256 : Int) := by
      rw [netRateQ8]
      push_cast
      ring
    have lost : ((seconds * source.netRateQ8 * nsPerTick).tdiv 256 : Int) -
          seconds * source.driftNs =
        seconds * rest * 25 / 65536 - left / 256 := by
      have tick : (nsPerTick : ℝ) = 25 := by
        rw [nsPerTick]
        norm_num
      push_cast at offset
      rw [net, tick] at offset
      rw [driftNs, tick, ← rate]
      linarith
    rw [predicted, lost]
    rw [abs_le] at *
    constructor <;> linarith

theorem predicted_learnt {trueOffset : Nat → ℝ} (kept : source.Kept trueOffset seconds)
    (learnt : source.rate.valid = true) :
    |trueOffset seconds - source.predictedNs seconds| ≤ source.grownNs seconds := by
  have moved := drift_within (kept.learnt learnt)
  have near := predictedNs_near learnt seconds
  have anchored := kept.anchored
  have grown : (source.grownNs seconds : ℝ) = source.anchor.boundNs + seconds * 10 * 1000 := by
    rw [grownNs, allowancePpm, if_pos learnt, sourceRtcAllowancePpm]
    push_cast
    ring
  rw [grown]
  rw [abs_le] at *
  unfold sourceRtcAllowancePpm at moved
  push_cast at moved
  constructor <;> linarith

theorem predicted_unlearnt {trueOffset : Nat → ℝ} (kept : source.Kept trueOffset seconds)
    (unlearnt : source.rate.valid = false) :
    |trueOffset seconds - source.predictedNs seconds| ≤ source.grownNs seconds := by
  have moved : |trueOffset seconds - trueOffset 0 - seconds * 0| ≤
      seconds * ((sourceRtcRateLimitPpm : ℝ) * 1000) := by
    refine drift_within fun n early => ?_
    rw [sub_zero]
    exact kept.unlearnt unlearnt n early
  have anchored := kept.anchored
  have still : source.predictedNs seconds = source.anchor.offsetNs := by
    rw [predictedNs, unlearnt]
    exact Int.add_zero _
  have grown : (source.grownNs seconds : ℝ) = source.anchor.boundNs + seconds * 500 * 1000 := by
    rw [grownNs, allowancePpm, unlearnt, if_neg Bool.false_ne_true, sourceRtcRateLimitPpm]
    push_cast
    ring
  rw [grown, still]
  rw [abs_le] at *
  unfold sourceRtcRateLimitPpm at moved
  push_cast at moved
  constructor <;> linarith

/-- Where it is below the most that is reported, the bound is all of its growth. -/
theorem saturateBound_eq {ns : Nat} (below : saturateBound ns < sourceRtcBoundMaxNs) :
    saturateBound ns = ns := by
  rw [saturateBound] at below ⊢
  split at below
  · exact absurd below (Nat.lt_irrefl _)
  · next under => rw [if_neg under]

theorem saturateBound_mono {less more : Nat} (le : less ≤ more) :
    saturateBound less ≤ saturateBound more := by
  unfold saturateBound
  split <;> split <;> omega

/-! ## The report's split -/

theorem floorDiv_eq (a : Int) {b : Int} (positive : 0 < b) : floorDiv a b = a / b := by
  rw [floorDiv]
  split
  · next nonnegative => exact Int.tdiv_eq_ediv_of_nonneg nonnegative
  · next negative =>
      have parts := Int.emod_add_mul_ediv a b
      have rest := Int.emod_nonneg a positive.ne'
      have less := Int.emod_lt_of_pos a positive
      have mirrored : -a + b - 1 = (b - 1 - a % b) + b * -(a / b) := by
        rw [Int.mul_neg]
        omega
      rw [Int.tdiv_eq_ediv_of_nonneg (by omega), mirrored,
        Int.add_mul_ediv_left _ _ positive.ne', Int.ediv_eq_zero_of_lt (by omega) (by omega)]
      omega

/-- The nearest whole second of an offset, and what is left of it. -/
theorem nearest_second {offsetNs whole : Int}
    (nearest : whole = floorDiv (offsetNs + nsPerSecond / 2) nsPerSecond) :
    -(nsPerSecond / 2) ≤ offsetNs - whole * nsPerSecond ∧
      offsetNs - whole * nsPerSecond < nsPerSecond / 2 := by
  have positive : 0 < nsPerSecond := by decide
  rw [nearest, floorDiv_eq _ positive]
  unfold nsPerSecond
  omega

/-- What a report says of a predicted second puts it back where it was predicted. -/
theorem placed_recombines {offsetNs : Int} {boundNs : Nat} (report : SyncSourceReport)
    (predicted : source.predict source.second.label = some (offsetNs, boundNs)) :
    ∃ whole : Int,
      (source.placed report).utcSeconds = source.second.label + BitVec.ofInt 32 whole ∧
      whole * nsPerSecond + (source.placed report).edgeOffsetNs = offsetNs ∧
      -(nsPerSecond / 2) ≤ (source.placed report).edgeOffsetNs ∧
      (source.placed report).edgeOffsetNs < nsPerSecond / 2 := by
  rw [placed]
  simp only [predicted]
  exact ⟨_, rfl, add_sub_cancel .., nearest_second rfl⟩

theorem countOne_predict {epochCapture : BitVec 32} {counted : SourceRtc}
    (counts : source.countOne epochCapture = some counted) : counted.predict = source.predict := by
  rw [countOne] at counts
  dsimp only at counts
  split at counts
  · cases counts
  · cases counts
    rfl

theorem countOn_predict (source : SourceRtc) (epochCapture : BitVec 32) (steps : Nat) :
    (source.countOn epochCapture steps).predict = source.predict := by
  induction steps generalizing source with
  | zero => rfl
  | succ steps ih =>
      rw [countOn]
      split
      · rfl
      · next counts => exact (ih _).trans (countOne_predict counts)

/-- A report that marks the second reports it as counted on, predicted as before. -/
theorem report_placed (snapshot : TimingSnapshot)
    (marked : (source.report snapshot).1.edge = true) :
    (source.report snapshot).2.predict = source.predict ∧
      ∃ report, (source.report snapshot).1 = (source.report snapshot).2.placed report := by
  have counted := countOn_predict source snapshot.epochCapture 4
  rw [report] at marked ⊢
  dsimp only at marked ⊢
  by_cases unseen : (!source.second.valid || !snapshot.epochCaptureValid) = true
  · rw [if_pos unseen] at marked
    cases known : source.currentLabel <;> rw [known] at marked <;> cases marked
  · rw [if_neg unseen] at marked ⊢
    by_cases lost : (!(source.countOn snapshot.epochCapture 4).second.valid ||
        (source.countOn snapshot.epochCapture 4).writing) = true
    · rw [if_pos lost] at marked
      cases marked
    · rw [if_neg lost]
      exact ⟨counted, _, rfl⟩

/-! ## The bound is honest -/

/-- **The RTC's bound.** In every reachable state with an anchor, at every later label:
the prediction fits its types; while the chip kept to the rate in use, the truth is
within the bound, unless that is the most that is reported; the bound only grows; and a
report of that second puts it back together exactly. -/
theorem predict_honest {world : World} (reached : rtcMachine.Reachable World.Admits world)
    (anchored : world.source.anchor.valid = true) {seconds : Nat}
    (later : seconds < 2147483648) :
    world.source.PredictFits (world.source.labelAfter seconds) ∧
      ∃ offsetNs boundNs,
        world.source.predict (world.source.labelAfter seconds) = some (offsetNs, boundNs) ∧
        (∀ trueOffset, world.source.Kept trueOffset seconds → boundNs < sourceRtcBoundMaxNs →
          |trueOffset seconds - offsetNs| ≤ boundNs) ∧
        (∀ more, seconds ≤ more → more < 2147483648 → ∃ farOffset farBound,
          world.source.predict (world.source.labelAfter more) = some (farOffset, farBound) ∧
            boundNs ≤ farBound) ∧
        ∀ snapshot, (world.source.report snapshot).1.edge = true →
          (world.source.report snapshot).2.second.label = world.source.labelAfter seconds →
          ∃ whole : Int,
            (world.source.report snapshot).1.utcSeconds =
              world.source.labelAfter seconds + BitVec.ofInt 32 whole ∧
            whole * nsPerSecond + (world.source.report snapshot).1.edgeOffsetNs = offsetNs ∧
            -(nsPerSecond / 2) ≤ (world.source.report snapshot).1.edgeOffsetNs ∧
            (world.source.report snapshot).1.edgeOffsetNs < nsPerSecond / 2 := by
  have predicted := predict_labelAfter anchored later
  refine ⟨predict_fits (World.sound reached) later, _, _, predicted, ?_, ?_, ?_⟩
  · intro trueOffset kept below
    rw [saturateBound_eq below]
    cases learnt : world.source.rate.valid with
    | true => exact predicted_learnt kept learnt
    | false => exact predicted_unlearnt kept learnt
  · intro more le within
    refine ⟨_, _, predict_labelAfter anchored within, saturateBound_mono ?_⟩
    exact Nat.add_le_add_left
      (Nat.mul_le_mul_right _ (Nat.mul_le_mul_right _ le)) _
  · intro snapshot marked label
    obtain ⟨same, report, placed⟩ := report_placed snapshot marked
    rw [← label, ← same] at predicted
    rw [placed, ← label]
    exact placed_recombines report predicted

/-- What a run kept that had learnt its chip to be 2.5 microseconds a second slow. -/
def keptSlow : SourceRtcKept where
  anchor :=
    { valid := true
      aligned := true
      utcSeconds := 1760000000
      offsetNs := 5000000
      boundNs := 1000 }
  rateValid := true
  rateQ8 := 25600

/-- A day later, a chip that kept that rate is where it is predicted. -/
theorem slowChip_covered :
    ∃ offsetNs boundNs,
      ((init (Pcf8563.init 0)).restore keptSlow).predict 1760086400 = some (offsetNs, boundNs) ∧
        |(5000000 + 86400 * 2500 : ℝ) - offsetNs| ≤ boundNs := by
  have start : rtcMachine.Reachable World.Admits
      { source := (init (Pcf8563.init 0)).restore keptSlow } :=
    .start ⟨0, keptSlow, ⟨by decide, by decide⟩, rfl⟩
  obtain ⟨_, offsetNs, boundNs, predicted, covered, _⟩ :=
    predict_honest start (by decide) (by decide : 86400 < 2147483648)
  have slow : driftNs ((init (Pcf8563.init 0)).restore keptSlow) = 2500 := by
    change ((25600 : Int) / 256 - (0 : Int) / 65536 : ℝ) * (25 : Int) = 2500
    norm_num
  have kept : Kept ((init (Pcf8563.init 0)).restore keptSlow) (fun n => 5000000 + n * 2500) 86400 := by
    refine ⟨?_, ?_, nofun⟩
    · change |5000000 + ((0 : Nat) : ℝ) * 2500 - (5000000 : Int)| ≤ (1000 : Nat)
      norm_num
    · intro _ n _
      rw [slow, sourceRtcAllowancePpm]
      push_cast
      rw [abs_le]
      constructor <;> linarith
  have room : boundNs < sourceRtcBoundMaxNs := by
    have known : ((init (Pcf8563.init 0)).restore keptSlow).predict 1760086400 =
        some (221000000, 864001000) := by decide
    cases predicted.symm.trans known
    decide
  refine ⟨offsetNs, boundNs, predicted, ?_⟩
  have near := covered _ kept room
  push_cast at near
  exact near

end SourceRtc

end GpsClock.Rtc
