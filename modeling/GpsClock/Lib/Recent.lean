import Mathlib

/-! # The latest of a series

A ring of so many slots that takes a series one after another, each in place of the oldest.
Whatever holds of all that is put in holds of all the ring's items (`Recent.put`), and the
slot before the next one has the latest (`Recent.latest_put`).
-/

universe u

variable {α : Type u}

/-- A ring of a size, so many of its slots in use and the next to use, whose items have a
property. -/
structure Recent (size : Nat) (items : List α) (count next : Nat) (holds : α → Prop) : Prop where
  length : items.length = size
  inside : next < size
  most : count ≤ size
  filling : count < size → next = count
  held : ∀ slot < count, ∃ item, items[slot]? = some item ∧ holds item

namespace Recent

variable {size : Nat} {items : List α} {count next : Nat} {holds other : α → Prop}

theorem imp (recent : Recent size items count next holds) (all : ∀ item, holds item → other item) :
    Recent size items count next other :=
  { recent with
    held := fun slot used =>
      (recent.held slot used).imp fun item found => ⟨found.1, all item found.2⟩ }

/-- A ring started again. -/
theorem clear (recent : Recent size items count next holds) : Recent size items 0 0 other where
  length := recent.length
  inside := (Nat.zero_le next).trans_lt recent.inside
  most := Nat.zero_le size
  filling _ := rfl
  held slot used := absurd used (Nat.not_lt_zero slot)

theorem start (item : α) (some : 0 < size) :
    Recent size (List.replicate size item) 0 0 holds where
  length := List.length_replicate
  inside := some
  most := Nat.zero_le size
  filling _ := rfl
  held slot used := absurd used (Nat.not_lt_zero slot)

theorem put (recent : Recent size items count next holds) {item : α} (new : holds item) :
    Recent size (items.set next item) (if count < size then count + 1 else count)
      ((next + 1) % size) holds := by
  have inside := recent.inside
  have most := recent.most
  refine ⟨List.length_set.trans recent.length, Nat.mod_lt _ (by omega), ?_, ?_, ?_⟩
  · split <;> omega
  · intro few
    by_cases room : count < size
    · rw [if_pos room] at few ⊢
      rw [recent.filling room, Nat.mod_eq_of_lt few]
    · rw [if_neg room] at few
      exact absurd few room
  · intro slot used
    by_cases same : slot = next
    · refine ⟨item, ?_, new⟩
      rw [same, List.getElem?_set_self]
      rw [recent.length]
      exact inside
    · have earlier : slot < count := by
        by_cases room : count < size
        · have filled := recent.filling room
          rw [if_pos room] at used
          omega
        · rwa [if_neg room] at used
      obtain ⟨before, found, old⟩ := recent.held slot earlier
      exact ⟨before, (List.getElem?_set_ne (Ne.symm same)).trans found, old⟩

theorem latest_slot (size : Nat) {next : Nat} (inside : next < size) :
    ((next + 1) % size + size - 1) % size = next := by
  rcases Nat.lt_or_eq_of_le (Nat.succ_le_of_lt inside) with below | last
  · rw [Nat.mod_eq_of_lt below, show next + 1 + size - 1 = next + size by omega,
      Nat.add_mod_right, Nat.mod_eq_of_lt inside]
  · rw [show next + 1 = size from last, Nat.mod_self, Nat.zero_add, Nat.mod_eq_of_lt (by omega)]
    omega

/-- What was put in last is in the slot before the next. -/
theorem latest_put (recent : Recent size items count next holds) (item default : α) :
    (items.set next item).getD (((next + 1) % size + size - 1) % size) default = item := by
  have inside : next < items.length := by
    rw [recent.length]
    exact recent.inside
  rw [latest_slot size recent.inside, List.getD_eq_getElem?_getD, List.getElem?_set_self inside,
    Option.getD_some]

/-- A ring in use has a latest item. -/
theorem latest (recent : Recent size items count next holds) (used : count ≠ 0) (default : α) :
    holds (items.getD ((next + size - 1) % size) default) := by
  have inside := recent.inside
  have most := recent.most
  have slot : (next + size - 1) % size < count := by
    by_cases room : count < size
    · have filled := recent.filling room
      rw [show next + size - 1 = (next - 1) + size by omega, Nat.add_mod_right,
        Nat.mod_eq_of_lt (by omega)]
      omega
    · exact (Nat.mod_lt _ (by omega)).trans_le (Nat.not_lt.mp room)
  obtain ⟨item, found, held⟩ := recent.held _ slot
  rw [List.getD_eq_getElem?_getD, found, Option.getD_some]
  exact held

end Recent
