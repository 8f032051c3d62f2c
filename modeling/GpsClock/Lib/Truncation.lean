import Mathlib

/-! # Division that truncates

A quotient truncated towards zero is within one of the exact one, on the side of zero
(`Truncation.toward_zero`, `Truncation.near`), and two are no further apart than the
exact ones to within one (`Truncation.apart`). A line sampled by truncated divisions
therefore has its slope to within one, however far apart the samples
(`Truncation.slope`). Taking a truncated share of a value from it leaves a value closer
to zero by as much (`Truncation.closer`).
-/

namespace Truncation

variable {divisor : Int}

/-- A value less its share. -/
theorem closer (value : Int) (positive : 0 < divisor) :
    (value - value.tdiv divisor).natAbs = value.natAbs - value.natAbs / divisor.natAbs := by
  have share : (value.tdiv divisor).natAbs = value.natAbs / divisor.natAbs :=
    Int.natAbs_tdiv value divisor
  have part := Nat.div_le_self value.natAbs divisor.natAbs
  rw [← share] at part ⊢
  rcases le_total 0 value with up | down
  · have same := Int.tdiv_nonneg up positive.le
    omega
  · have same := Int.tdiv_nonneg (Int.neg_nonneg.mpr down) positive.le
    rw [Int.neg_tdiv] at same
    omega

/-- What the truncation leaves out, as a fraction of the divisor. -/
theorem tdiv_add_fraction (value : Int) (positive : 0 < divisor) :
    ((value.tdiv divisor : Int) : ℚ) + (value.tmod divisor : Int) / divisor =
      (value : ℚ) / divisor := by
  have nonzero : (divisor : ℚ) ≠ 0 := by exact_mod_cast positive.ne'
  have parts : ((value.tdiv divisor : Int) : ℚ) * divisor + (value.tmod divisor : Int) = value := by
    exact_mod_cast Int.tdiv_mul_add_tmod value divisor
  rw [← parts, add_div, mul_div_cancel_right₀ _ nonzero]

theorem near (value : Int) (positive : 0 < divisor) :
    |((value.tdiv divisor : Int) : ℚ) - value / divisor| < 1 := by
  have size : (0 : ℚ) < divisor := by exact_mod_cast positive
  have below : -(divisor : ℚ) < (value.tmod divisor : Int) := by
    exact_mod_cast Int.lt_tmod_of_pos value positive
  have above : ((value.tmod divisor : Int) : ℚ) < divisor := by
    exact_mod_cast Int.tmod_lt_of_pos value positive
  rw [← tdiv_add_fraction value positive, sub_add_cancel_left, abs_neg, abs_div, abs_of_pos size,
    div_lt_one size]
  exact abs_lt.mpr ⟨below, above⟩

/-- A truncated quotient is no larger than the exact one may be. -/
theorem abs_tdiv_le {value scale bound : Int} (positive : 0 < divisor) (scales : 0 ≤ scale)
    (most : |value| * scale ≤ bound * divisor) : |value.tdiv divisor| * scale ≤ bound := by
  have share : |value.tdiv divisor| * divisor ≤ |value| := by
    have same : (value.tdiv divisor).natAbs = value.natAbs / divisor.natAbs :=
      Int.natAbs_tdiv value divisor
    have cut := Nat.div_mul_le_self value.natAbs divisor.natAbs
    rw [← same] at cut
    have size : (divisor.natAbs : Int) = divisor := Int.natAbs_of_nonneg positive.le
    have whole : ((value.tdiv divisor).natAbs : Int) * divisor.natAbs ≤ value.natAbs := by
      exact_mod_cast cut
    rwa [size, ← Int.abs_eq_natAbs, ← Int.abs_eq_natAbs] at whole
  refine le_of_mul_le_mul_right ?_ positive
  calc
    _ = |value.tdiv divisor| * divisor * scale := by ring
    _ ≤ |value| * scale := mul_le_mul_of_nonneg_right share scales
    _ ≤ bound * divisor := most

/-- The error is on the side of zero. -/
theorem toward_zero {value : Int} (positive : 0 < divisor) (nonnegative : 0 ≤ value) :
    ((value.tdiv divisor : Int) : ℚ) ≤ value / divisor ∧
      (value : ℚ) / divisor < (value.tdiv divisor : Int) + 1 := by
  have size : (0 : ℚ) < divisor := by exact_mod_cast positive
  have left_out : (0 : ℚ) ≤ (value.tmod divisor : Int) := by
    exact_mod_cast Int.tmod_nonneg divisor nonnegative
  have fraction := div_nonneg left_out size.le
  have close := (abs_lt.mp (near value positive)).1
  have parts := tdiv_add_fraction value positive
  constructor <;> linarith

/-- Two quotients are no further apart than the exact ones, to within one. -/
theorem apart (first second : Int) (positive : 0 < divisor) :
    |((first.tdiv divisor : Int) : ℚ) - (second.tdiv divisor : Int)| <
      |(first : ℚ) - second| / divisor + 1 := by
  have size : (0 : ℚ) < divisor := by exact_mod_cast positive
  have ordered {low high : Int} (order : low ≤ high) :
      |((high.tdiv divisor : Int) : ℚ) - (low.tdiv divisor : Int)| <
        |(high : ℚ) - low| / divisor + 1 := by
    have rises : ((low.tdiv divisor : Int) : ℚ) ≤ (high.tdiv divisor : Int) := by
      exact_mod_cast Int.tdiv_le_tdiv positive order
    have below := (abs_lt.mp (near low positive)).1
    have above := (abs_lt.mp (near high positive)).2
    rw [abs_of_nonneg (sub_nonneg.mpr rises),
      abs_of_nonneg (sub_nonneg.mpr (show (low : ℚ) ≤ high by exact_mod_cast order)), sub_div]
    rcases le_total 0 high with up | down
    · have held := (toward_zero positive up).1
      linarith
    · have held := (toward_zero positive (Int.neg_nonneg.mpr (order.trans down))).1
      rw [Int.neg_tdiv] at held
      push_cast [neg_div] at held
      linarith
  rcases le_total second first with order | order
  · exact ordered order
  · rw [abs_sub_comm, abs_sub_comm (first : ℚ)]
    exact ordered order

theorem slope_of_nonneg {rise first second : Int} (positive : 0 < divisor) (up : 0 ≤ rise)
    (start : 0 ≤ first) (later : first ≤ second) :
    |(((rise * second).tdiv divisor : Int) : ℚ) - ((rise * first).tdiv divisor : Int)| ≤
      (rise : ℚ) * (second - first) / divisor + 1 := by
  have size : (0 : ℚ) < divisor := by exact_mod_cast positive
  have apart : (0 : ℚ) ≤ second - first := by
    have := Int.sub_nonneg.mpr later
    exact_mod_cast this
  have upward : (0 : ℚ) ≤ rise := by exact_mod_cast up
  have spread : (0 : ℚ) ≤ (rise : ℚ) * (second - first) / divisor := by positivity
  have below := toward_zero positive (Int.mul_nonneg up start)
  have above := toward_zero positive (Int.mul_nonneg up (start.trans later))
  have rises : ((rise * second : Int) : ℚ) / divisor - ((rise * first : Int) : ℚ) / divisor =
      (rise : ℚ) * (second - first) / divisor := by
    push_cast
    ring
  rw [abs_le]
  constructor <;> linarith

/-- **A sampled line.** Between two samples on one side of its zero it rises by its slope,
to within one. -/
theorem slope (rise : Int) {first second : Int} (positive : 0 < divisor) (start : 0 ≤ first)
    (later : first ≤ second) :
    |(((rise * second).tdiv divisor : Int) : ℚ) - ((rise * first).tdiv divisor : Int)| ≤
      |(rise : ℚ)| * (second - first) / divisor + 1 := by
  rcases le_total 0 rise with up | down
  · rw [abs_of_nonneg (show (0 : ℚ) ≤ rise by exact_mod_cast up)]
    exact slope_of_nonneg positive up start later
  · have mirrored := slope_of_nonneg positive (Int.neg_nonneg.mpr down) start later
    rw [Int.neg_mul, Int.neg_mul, Int.neg_tdiv, Int.neg_tdiv, Int.cast_neg, Int.cast_neg,
      Int.cast_neg, ← neg_sub', abs_neg] at mirrored
    rwa [abs_of_nonpos (show (rise : ℚ) ≤ 0 by exact_mod_cast down)]

end Truncation
