import Mathlib

/-! # Lists compared entry by entry

Two lists, of any lengths, by the first entry in which they differ, an entry past a list's end being
a given one. It is the lexicographic order of the lists' entries as functions of the position
(`Padded.entries`), so it is linear, and it is decided by the heads or else by the tails
(`Padded.sign_entries`).
-/

universe u

/-- -1, 0 or 1, as one value is below, at or above another. -/
def orderSign {Value : Type u} [LinearOrder Value] (left right : Value) : Int :=
  if left < right then -1 else if right < left then 1 else 0

namespace Padded

section

variable {Value : Type u} (padding : Value) (list : List Value)

/-- A list's entries by their positions, and the padding past its end. -/
def entries : Lex (Nat → Value) :=
  toLex fun position => list.getD position padding

theorem entries_zero : entries padding list 0 = list.headD padding := by
  cases list <;> rfl

theorem entries_succ (position : Nat) :
    entries padding list (position + 1) = entries padding list.tail position := by
  cases list <;> rfl

end

variable {Value : Type u} [LinearOrder Value]

theorem sign_self (value : Value) : orderSign value value = 0 := by
  rw [orderSign, if_neg (lt_irrefl value), if_neg (lt_irrefl value)]

theorem sign_nonpos_iff (left right : Value) : orderSign left right ≤ 0 ↔ left ≤ right := by
  unfold orderSign
  rcases lt_trichotomy left right with below | same | above
  · rw [if_pos below]
    exact ⟨fun _ => below.le, fun _ => by decide⟩
  · rw [if_neg same.not_lt, if_neg same.symm.not_lt]
    exact ⟨fun _ => same.le, fun _ => le_refl 0⟩
  · rw [if_neg above.not_gt, if_pos above]
    exact ⟨fun wrong => absurd wrong (by decide), fun le => absurd above le.not_gt⟩

theorem sign_congr {Other : Type*} [LinearOrder Other] {left right : Value} {first second : Other}
    (below : left < right ↔ first < second) (above : right < left ↔ second < first) :
    orderSign left right = orderSign first second := by
  simp only [orderSign, below, above]

variable (padding : Value) (left right : List Value)

/-- Below by the head, or by the tail where the heads are the same. -/
theorem entries_lt_iff :
    entries padding left < entries padding right ↔
      left.headD padding < right.headD padding ∨
        left.headD padding = right.headD padding ∧
          entries padding left.tail < entries padding right.tail := by
  constructor
  · rintro ⟨position, same, below⟩
    cases position with
    | zero =>
        left
        rw [← entries_zero padding left, ← entries_zero padding right]
        exact below
    | succ position =>
        right
        refine ⟨?_, position, fun earlier before => ?_, ?_⟩
        · rw [← entries_zero padding left, ← entries_zero padding right]
          exact same 0 (Nat.succ_pos _)
        · have here := same (earlier + 1) (Nat.succ_lt_succ before)
          exact ((entries_succ padding left earlier).symm.trans here).trans
            (entries_succ padding right earlier)
        · have here : entries padding left (position + 1) < entries padding right (position + 1) := below
          rw [entries_succ, entries_succ] at here
          exact here
  · rintro (below | ⟨same, position, earlier, below⟩)
    · refine ⟨0, fun _ before => absurd before (Nat.not_lt_zero _), ?_⟩
      change entries padding left 0 < entries padding right 0
      rw [entries_zero, entries_zero]
      exact below
    · refine ⟨position + 1, fun before bounded => ?_, ?_⟩
      · change entries padding left before = entries padding right before
        cases before with
        | zero => rw [entries_zero, entries_zero, same]
        | succ before =>
            rw [entries_succ, entries_succ]
            exact earlier before (Nat.lt_of_succ_lt_succ bounded)
      · change entries padding left (position + 1) < entries padding right (position + 1)
        rw [entries_succ, entries_succ]
        exact below

/-- The heads decide, or else the tails. -/
theorem sign_entries :
    orderSign (entries padding left) (entries padding right) =
      if left.headD padding = right.headD padding then
        orderSign (entries padding left.tail) (entries padding right.tail)
      else orderSign (left.headD padding) (right.headD padding) := by
  by_cases same : left.headD padding = right.headD padding
  · rw [if_pos same]
    apply sign_congr
    · refine (entries_lt_iff padding left right).trans ?_
      rw [same, lt_self_iff_false, false_or]
      exact and_iff_right rfl
    · refine (entries_lt_iff padding right left).trans ?_
      rw [same, lt_self_iff_false, false_or]
      exact and_iff_right rfl
  · rw [if_neg same]
    apply sign_congr
    · refine (entries_lt_iff padding left right).trans ?_
      exact or_iff_left fun both => same both.1
    · refine (entries_lt_iff padding right left).trans ?_
      exact or_iff_left fun both => same both.1.symm

end Padded
