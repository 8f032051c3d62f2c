import GpsClock.Rtc.SourceRtc

/-! # Learning the RTC's rate

A second found again, so many of the RTC's seconds after a baseline, gives its rate to
within 2 of the 256ths of a tick a second it is kept in. The second is compared with where
the baseline, counted on at the rate in use, puts it, as a signed 32-bit difference. With
the two rates at opposite limits it stops fitting after 53687 seconds, and baselines are
used for up to 200000: the rate is learnt if and only if the difference fits
(`GpsClock.Rtc.SourceRtc.learns_iff`).
-/

namespace GpsClock.Rtc.SourceRtc

/-- Where a second starts that the RTC has got to with its seconds so many ticks too long
in all, counted from the baseline. -/
def secondAfter (source : SourceRtc) (seconds : Nat) (ticks : Int) : BitVec 32 :=
  source.rate.baselineStamp + BitVec.ofNat 32 seconds * secondTicks + BitVec.ofInt 32 ticks

/-- Its label by the RTC's own count. -/
def labelled (source : SourceRtc) (seconds : Nat) : BitVec 32 :=
  source.rate.baselineLabel + BitVec.ofNat 32 seconds

/-- The RTC's true rate, in 256ths of a tick a second. -/
def trueRateQ8 (seconds : Nat) (ticks : Int) : ℚ :=
  ticks * 256 / seconds

/-- The rate is learnt: in use, and within 2 of the true one. -/
def Learns (source : SourceRtc) (seconds : Nat) (ticks : Int) : Prop :=
  let learnt := (source.learnRate (source.secondAfter seconds ticks) (source.labelled seconds)).rate
  learnt.valid = true ∧ |(learnt.q8 : ℚ) - trueRateQ8 seconds ticks| ≤ 2

/-- How far the second is from where the baseline, counted on at the rate in use, puts it. -/
def missTicks (source : SourceRtc) (seconds : Nat) (ticks : Int) : Int :=
  ticks - (seconds * source.rate.q8).tdiv 256

/-- The miss fits an `int32_t`. -/
def MissFits (source : SourceRtc) (seconds : Nat) (ticks : Int) : Prop :=
  -2147483648 ≤ source.missTicks seconds ticks ∧ source.missTicks seconds ticks < 2147483648

instance (source : SourceRtc) (seconds : Nat) (ticks : Int) :
    Decidable (source.MissFits seconds ticks) :=
  inferInstanceAs (Decidable (_ ∧ _))

variable {source : SourceRtc} {seconds : Nat} {ticks : Int}

/-- The second is compared modulo a 32-bit count of ticks. -/
theorem learnRate_eq (baseline : source.rate.baselineValid = true)
    (enough : sourceRtcRateMinSeconds ≤ seconds) (few : seconds ≤ 200000) :
    source.learnRate (source.secondAfter seconds ticks) (source.labelled seconds) =
      let learnt := source.rate.q8 +
        (((source.missTicks seconds ticks).bmod (2 ^ 32)) * 256).tdiv seconds
      if rateLimitQ8 < learnt ∨ learnt < -rateLimitQ8 then source
      else { source with rate := { source.rate with q8 := learnt, valid := true } } := by
  have apart : (source.labelled seconds - source.rate.baselineLabel).toNat = seconds := by
    rw [labelled, add_sub_cancel_left, BitVec.toNat_ofNat]
    omega
  have miss : (source.secondAfter seconds ticks - (source.rate.baselineStamp +
      BitVec.ofNat 32 seconds * secondTicks +
        BitVec.ofInt 32 ((seconds * source.rate.q8).tdiv 256))).toInt =
      (source.missTicks seconds ticks).bmod (2 ^ 32) := by
    rw [secondAfter, missTicks, add_sub_add_left_eq_sub, BitVec.toInt_sub, BitVec.toInt_ofInt,
      BitVec.toInt_ofInt, Int.sub_bmod_bmod, Int.bmod_sub_bmod]
  have admitted : (!source.rate.baselineValid ||
      decide (seconds < sourceRtcRateMinSeconds ∨ 200000 < seconds)) = false := by
    rw [baseline]
    simp [enough, few]
  rw [learnRate]
  simp only [apart, admitted, miss, Bool.false_eq_true, if_false]

/-- The rate learnt from a miss, times the seconds: what the two divisions leave apart, the
miss and what the rate in use makes of the seconds. -/
theorem learnt_scaled (rate miss : Int) (seconds : Nat) :
    seconds * (rate + (miss * 256).tdiv seconds) =
      256 * (miss + (seconds * rate).tdiv 256) +
        ((seconds * rate).tmod 256 - (miss * 256).tmod seconds) := by
  have counted := Int.mul_tdiv_add_tmod (seconds * rate) 256
  have missed := Int.mul_tdiv_add_tmod (miss * 256) seconds
  rw [mul_add]
  linarith

/-- What a truncated division leaves has the sign of what is divided. -/
theorem tmod_sides (value : Int) {divisor : Int} (positive : 0 < divisor) :
    -divisor < value.tmod divisor ∧ value.tmod divisor < divisor ∧
      (0 ≤ value → 0 ≤ value.tmod divisor) ∧ (value ≤ 0 → value.tmod divisor ≤ 0) := by
  refine ⟨Int.lt_tmod_of_pos value positive, Int.tmod_lt_of_pos value positive,
    Int.tmod_nonneg divisor, fun down => ?_⟩
  have mirrored := Int.tmod_nonneg divisor (Int.neg_nonneg.mpr down)
  rw [Int.neg_tmod] at mirrored
  exact Int.neg_nonneg.mp mirrored

/-- Within 2 of the true rate, times the seconds. -/
theorem near_iff (rate ticks : Int) (positive : 0 < seconds) :
    |(rate : ℚ) - trueRateQ8 seconds ticks| ≤ 2 ↔ |seconds * rate - 256 * ticks| ≤ 2 * seconds := by
  have size : (0 : ℚ) < seconds := by exact_mod_cast positive
  have scaled : ((seconds * rate - 256 * ticks : Int) : ℚ) =
      seconds * ((rate : ℚ) - trueRateQ8 seconds ticks) := by
    rw [trueRateQ8, mul_sub, mul_div_cancel₀ _ size.ne']
    push_cast
    ring
  rw [← Int.cast_le (R := ℚ), Int.cast_abs, scaled, abs_mul, abs_of_pos size]
  push_cast
  rw [mul_comm (2 : ℚ), mul_le_mul_iff_right₀ size]

/-- A miss that fits gives a rate within the limit, if both rates are. -/
theorem learnt_within (enough : sourceRtcRateMinSeconds ≤ seconds)
    (truly : |256 * ticks| ≤ rateLimitQ8 * seconds) (within : |source.rate.q8| ≤ rateLimitQ8) :
    ¬(rateLimitQ8 < source.rate.q8 + (source.missTicks seconds ticks * 256).tdiv seconds ∨
      source.rate.q8 + (source.missTicks seconds ticks * 256).tdiv seconds < -rateLimitQ8) := by
  change 300 ≤ seconds at enough
  have positive : (0 : Int) < seconds := by omega
  have scaled := learnt_scaled source.rate.q8 (source.missTicks seconds ticks) seconds
  rw [missTicks, Int.sub_add_cancel, ← missTicks] at scaled
  obtain ⟨countedLow, countedHigh, -⟩ :=
    tmod_sides (seconds * source.rate.q8) (show (0 : Int) < 256 by decide)
  obtain ⟨-, -, missedUp, missedDown⟩ := tmod_sides (source.missTicks seconds ticks * 256) positive
  generalize source.missTicks seconds ticks = miss at *
  obtain ⟨trueLow, trueHigh⟩ := abs_le.mp truly
  obtain ⟨low, high⟩ := abs_le.mp within
  -- A rate that would overstep goes towards its true value, which does not.
  rintro (above | below)
  · rcases le_total 0 miss with up | down
    · have left := missedUp (Int.mul_nonneg up (by decide))
      have steps := mul_le_mul_of_nonneg_left (Int.add_one_le_of_lt above) positive.le
      rw [mul_add, mul_one] at steps
      have same := mul_comm rateLimitQ8 (seconds : Int)
      omega
    · have back := Int.tdiv_nonneg (Int.neg_nonneg.mpr (show miss * 256 ≤ 0 by omega)) positive.le
      rw [Int.neg_tdiv] at back
      omega
  · rcases le_total 0 miss with up | down
    · have on := Int.tdiv_nonneg (Int.mul_nonneg up (show (0 : Int) ≤ 256 by decide)) positive.le
      omega
    · have left := missedDown (show miss * 256 ≤ 0 by omega)
      have steps := mul_le_mul_of_nonneg_left (Int.add_one_le_of_lt below) positive.le
      rw [mul_add, mul_one, mul_neg] at steps
      have same := mul_comm rateLimitQ8 (seconds : Int)
      have negated := Int.neg_mul rateLimitQ8 seconds
      omega

/-- **The rate is learnt where the difference fits.** For a true rate and a rate in use
within the limit, and a second exactly where the RTC has it after as many seconds as a
baseline is used for, the rate is learnt if and only if the second is within 2^31 ticks
of where the baseline counted on at the rate in use puts it. -/
theorem learns_iff (source : SourceRtc) (seconds : Nat) (ticks : Int)
    (baseline : source.rate.baselineValid = true)
    (enough : sourceRtcRateMinSeconds ≤ seconds) (few : seconds ≤ 200000)
    (truly : |trueRateQ8 seconds ticks| ≤ rateLimitQ8)
    (within : |source.rate.q8| ≤ rateLimitQ8) :
    source.Learns seconds ticks ↔ source.MissFits seconds ticks := by
  have positive : 0 < seconds := Nat.lt_of_lt_of_le (by decide) enough
  have size : (0 : Int) < seconds := by omega
  have truly : |256 * ticks| ≤ rateLimitQ8 * seconds := by
    have scaled : (0 : ℚ) < seconds := by exact_mod_cast positive
    rw [trueRateQ8, abs_div, abs_of_pos scaled, div_le_iff₀ scaled, mul_comm] at truly
    exact_mod_cast truly
  have counted := Int.mul_tdiv_add_tmod (seconds * source.rate.q8) 256
  obtain ⟨countedLow, countedHigh, -⟩ :=
    tmod_sides (seconds * source.rate.q8) (show (0 : Int) < 256 by decide)
  have missed : source.missTicks seconds ticks =
      ticks - (seconds * source.rate.q8).tdiv 256 := rfl
  rw [Learns, learnRate_eq baseline enough few]
  constructor
  · intro learns
    by_contra unfit
    have wraps := Int.bmod_add_bdiv (source.missTicks seconds ticks) (2 ^ 32)
    have low := Int.le_bmod (x := source.missTicks seconds ticks) (show 0 < 2 ^ 32 by decide)
    have high := Int.bmod_lt (x := source.missTicks seconds ticks) (show 0 < 2 ^ 32 by decide)
    generalize (source.missTicks seconds ticks).bmod (2 ^ 32) = folded at *
    generalize (source.missTicks seconds ticks).bdiv (2 ^ 32) = turns at *
    rw [MissFits] at unfit
    -- A rate turned down is the one in use, which the miss says is far from the true one.
    dsimp only at learns
    by_cases refused : rateLimitQ8 < source.rate.q8 + (folded * 256).tdiv seconds ∨
        source.rate.q8 + (folded * 256).tdiv seconds < -rateLimitQ8
    · rw [if_pos refused] at learns
      have near := abs_le.mp ((near_iff _ ticks positive).mp learns.2)
      omega
    · rw [if_neg refused] at learns
      obtain ⟨leftLow, leftHigh, -⟩ := tmod_sides (folded * 256) size
      have near := abs_le.mp ((near_iff _ ticks positive).mp learns.2)
      rw [learnt_scaled] at near
      omega
  · intro fits
    obtain ⟨low, high⟩ := fits
    rw [Int.bmod_eq_of_le (by omega) (by omega)]
    dsimp only
    rw [if_neg (learnt_within enough truly within)]
    refine ⟨rfl, (near_iff _ ticks positive).mpr ?_⟩
    obtain ⟨leftLow, leftHigh, -⟩ := tmod_sides (source.missTicks seconds ticks * 256) size
    rw [learnt_scaled, missed, Int.sub_add_cancel, abs_le, ← missed]
    change 300 ≤ seconds at enough
    constructor <;> omega

/-- A baseline, and the rate in use at its limit. -/
def slowThenFast : SourceRtc :=
  { rate := { q8 := -5120000, baselineValid := true } }

/-- After 200000 seconds a true rate at the other limit is turned down. -/
theorem opposite_rate_unlearnt :
    ¬∀ (source : SourceRtc) (seconds : Nat) (ticks : Int), source.rate.baselineValid = true →
      sourceRtcRateMinSeconds ≤ seconds → seconds ≤ 200000 →
      |trueRateQ8 seconds ticks| ≤ rateLimitQ8 → |source.rate.q8| ≤ rateLimitQ8 →
      source.Learns seconds ticks := by
  intro learns
  have learnt := learns slowThenFast 200000 4000000000 rfl (by decide) (by decide)
    (by rw [trueRateQ8, rateLimitQ8]; norm_num [sourceRtcRateLimitPpm]) (by decide)
  exact absurd learnt.1 (by decide)

/-- As it is learnt from a baseline a day old. -/
theorem learns_iff_day :
    slowThenFast.Learns 86400 0 ∧ slowThenFast.MissFits 86400 0 := by
  have fits : slowThenFast.MissFits 86400 0 := by decide
  refine ⟨(learns_iff slowThenFast 86400 0 rfl (by decide) (by decide) ?_ (by decide)).mpr fits, fits⟩
  rw [trueRateQ8, rateLimitQ8]
  norm_num [sourceRtcRateLimitPpm]

end GpsClock.Rtc.SourceRtc
