import Mathlib

/-! # Sets of small numbers as bits

A number stands for the set of the places of its ones (`BitSet.elements`). Taking the
number before it away bit by bit drops the least of them
(`BitSet.bitIndices_and_pred`), which is how such a set is counted.
-/

namespace BitSet

variable {set other : Nat} {place : Nat}

/-- The places of a number's ones. -/
def elements (set : Nat) : Finset Nat :=
  set.bitIndices.toFinset

@[simp] theorem mem_elements : place ∈ elements set ↔ set.testBit place = true := by
  rw [elements, List.mem_toFinset, Nat.mem_bitIndices]

@[simp] theorem elements_zero : elements 0 = ∅ := by
  rw [elements, Nat.bitIndices_zero, List.toFinset_nil]

theorem card_elements (set : Nat) : (elements set).card = set.bitIndices.length :=
  List.toFinset_card_of_nodup Nat.bitIndices_nodup

theorem elements_injective (same : elements set = elements other) : set = other := by
  refine Nat.eq_of_testBit_eq fun place => ?_
  rw [Bool.eq_iff_iff, ← mem_elements, ← mem_elements, same]

theorem elements_or (set other : Nat) : elements (set ||| other) = elements set ∪ elements other := by
  ext place
  rw [Finset.mem_union, mem_elements, mem_elements, mem_elements, Nat.testBit_or, Bool.or_eq_true]

@[simp] theorem elements_shift (place : Nat) : elements (1 <<< place) = {place} := by
  ext other
  rw [mem_elements, Finset.mem_singleton, Nat.one_shiftLeft, Nat.testBit_two_pow, decide_eq_true_eq,
    eq_comm]

/-- A set has a place in common with a single one if and only if it has that place. -/
theorem and_shift_ne_zero : set &&& 1 <<< place ≠ 0 ↔ place ∈ elements set := by
  rw [Nat.one_shiftLeft, Nat.and_two_pow, mem_elements]
  cases set.testBit place <;> simp

theorem and_shift_congr :
    set &&& 1 <<< place = other &&& 1 <<< place ↔ (place ∈ elements set ↔ place ∈ elements other) := by
  rw [Nat.one_shiftLeft, Nat.and_two_pow, Nat.and_two_pow, mem_elements, mem_elements]
  cases set.testBit place <;> cases other.testBit place <;> simp [(Nat.two_pow_pos place).ne]

theorem and_pred_double (set : Nat) (some : set ≠ 0) :
    2 * set &&& (2 * set - 1) = 2 * (set &&& (set - 1)) := by
  have before : 2 * set - 1 = Nat.bit true (set - 1) := by
    rw [Nat.bit_val, Bool.toNat_true]
    omega
  have double (half : Nat) : 2 * half = Nat.bit false half := by
    rw [Nat.bit_val, Bool.toNat_false, Nat.add_zero]
  rw [before, double set, Nat.land_bit, Bool.false_and, ← double]

theorem and_pred_double_add_one (set : Nat) : (2 * set + 1) &&& (2 * set + 1 - 1) = 2 * set := by
  rw [Nat.add_sub_cancel]
  have odd : 2 * set + 1 = Nat.bit true set := rfl
  have even : 2 * set = Nat.bit false set := rfl
  rw [odd, even, Nat.land_bit, Bool.true_and, Nat.and_self]

/-- The least place is dropped. -/
theorem bitIndices_and_pred (set : Nat) : (set &&& (set - 1)).bitIndices = set.bitIndices.tail := by
  induction set using Nat.strongRecOn with
  | ind set ih =>
      obtain ⟨half, rfl | rfl⟩ := Nat.even_or_odd' set
      · by_cases some : half = 0
        · subst some
          rfl
        · rw [and_pred_double half some, Nat.bitIndices_two_mul, Nat.bitIndices_two_mul,
            ih half (by omega), List.map_tail]
      · rw [and_pred_double_add_one, Nat.bitIndices_two_mul, Nat.bitIndices_two_mul_add_one,
          List.tail_cons]

theorem bitIndices_ne_nil (some : set ≠ 0) : set.bitIndices ≠ [] := by
  intro none
  refine some (elements_injective ?_)
  rw [elements, none, elements_zero, List.toFinset_nil]

end BitSet
