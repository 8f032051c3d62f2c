import Mathlib

/-! # Rounding to nearest

Fixed-point arithmetic rounds a quotient to nearest. A signed value over a power of two is
rounded with ties away from zero, by adding a half to its magnitude: a product with a
weight of at most one, rounded so, never leaves the side or the size of the other factor
(`Rounding.nearest_weight`). A natural quotient is rounded with ties up, by adding half the
divisor: what it gives is the largest figure within half a unit above the quotient
(`Rounding.le_quotient`).
-/

namespace Rounding

/-- `value / 2 ^ shift` to nearest, ties away from zero. -/
def nearest (value : Int) (shift : Nat) : Int :=
  if 0 ≤ value then (value + 2 ^ (shift - 1)) / 2 ^ shift
  else -((-value + 2 ^ (shift - 1)) / 2 ^ shift)

variable {value step weight : Int} {shift : Nat}

theorem nearest_neg (value : Int) (some : 0 < shift) :
    nearest (-value) shift = -nearest value shift := by
  rcases lt_trichotomy value 0 with negative | rfl | positive
  · rw [nearest, nearest, if_pos (by omega), if_neg (by omega), Int.neg_neg]
  · have half : (2 ^ (shift - 1) : Int) / 2 ^ shift = 0 := by
      refine Int.ediv_eq_zero_of_lt (by positivity) ?_
      exact pow_lt_pow_right₀ (by decide) (by omega)
    simp [nearest, half]
  · rw [nearest, nearest, if_neg (by omega), if_pos (by omega), Int.neg_neg]

theorem nearest_nonneg (positive : 0 ≤ value) : 0 ≤ nearest value shift := by
  rw [nearest, if_pos positive]
  exact Int.ediv_nonneg (by positivity) (by positivity)

theorem nearest_le {most : Int} (some : 0 < shift) (positive : 0 ≤ value)
    (bounded : value ≤ most * 2 ^ shift) : nearest value shift ≤ most := by
  have half : (2 ^ (shift - 1) : Int) < 2 ^ shift :=
    pow_lt_pow_right₀ (by decide) (by omega)
  rw [nearest, if_pos positive]
  apply Int.le_of_lt_add_one
  apply Int.ediv_lt_of_lt_mul (by positivity)
  rw [add_mul, one_mul]
  exact add_lt_add_of_le_of_lt bounded half

/-- A step weighed by at most one, rounded, lies between nothing and the step. -/
theorem nearest_weight (step : Int) (some : 0 < shift) (least : 0 ≤ weight) (most : weight ≤ 2 ^ shift) :
    (0 ≤ step → 0 ≤ nearest (weight * step) shift ∧ nearest (weight * step) shift ≤ step) ∧
      (step ≤ 0 → step ≤ nearest (weight * step) shift ∧ nearest (weight * step) shift ≤ 0) := by
  have upward : ∀ step : Int, 0 ≤ step →
      0 ≤ nearest (weight * step) shift ∧ nearest (weight * step) shift ≤ step := by
    intro step positive
    refine ⟨nearest_nonneg (mul_nonneg least positive), nearest_le some (mul_nonneg least positive) ?_⟩
    rw [mul_comm step]
    exact mul_le_mul_of_nonneg_right most positive
  refine ⟨upward step, fun negative => ?_⟩
  obtain ⟨low, high⟩ := upward (-step) (by omega)
  rw [Int.mul_neg, nearest_neg _ some] at low high
  exact ⟨by omega, by omega⟩

/-- `amount / divisor` to nearest, ties up. -/
def quotient (amount divisor : Nat) : Nat :=
  (amount + divisor / 2) / divisor

variable {amount divisor figure : Nat}

/-- A figure is reached at half a unit below it. -/
theorem le_quotient (some : 0 < divisor) :
    figure ≤ quotient amount divisor ↔ 2 * figure * divisor ≤ 2 * amount + divisor := by
  rw [quotient, Nat.le_div_iff_mul_le some, mul_assoc]
  omega

theorem quotient_lt (some : 0 < divisor) :
    quotient amount divisor < figure ↔ 2 * amount + divisor < 2 * figure * divisor := by
  rw [← Nat.not_le, le_quotient some, Nat.not_le]

/-- It is within half a unit of the quotient. -/
theorem quotient_near (some : 0 < divisor) :
    2 * quotient amount divisor * divisor ≤ 2 * amount + divisor ∧
      2 * amount ≤ 2 * quotient amount divisor * divisor + divisor := by
  have low := (le_quotient some).mp (le_refl (quotient amount divisor))
  have high := (quotient_lt some).mp (Nat.lt_succ_self (quotient amount divisor))
  refine ⟨low, ?_⟩
  rw [Nat.succ_eq_add_one, Nat.mul_add, Nat.add_mul] at high
  omega

end Rounding
