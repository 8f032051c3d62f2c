import Mathlib

/-! # Queues in rings

A queue kept in an array of a power of two's size, from a tail to a head that are both carried round
by a mask; one slot stays empty. What a ring holds is put at the head (`RingQueue.Holds.push`) and taken
from the tail (`RingQueue.Holds.pop`), and slots beyond the head may be written before the head is moved
past them (`RingQueue.Holds.earlier`).
-/

universe u

/-- A power of two that an index of so many bits reaches. -/
structure RingSize (width : Nat) where
  size : Nat
  bits : Nat
  power : size = 2 ^ bits
  fits : bits ≤ width

namespace RingSize

variable {width : Nat} (size : RingSize width)

def mask : BitVec width := BitVec.ofNat width (size.size - 1)

/-- The slot after one. -/
def next (index : BitVec width) : BitVec width := (index + 1) &&& size.mask

/-- How many slots from a tail to a head. -/
def count (head tail : BitVec width) : BitVec width := (head - tail) &&& size.mask

theorem pos : 0 < size.size := by
  rw [size.power]
  exact Nat.two_pow_pos size.bits

theorem dvd : size.size ∣ 2 ^ width := by
  rw [size.power]
  exact Nat.pow_dvd_pow 2 size.fits

theorem toNat_mask : size.mask.toNat = size.size - 1 := by
  have le : size.size ≤ 2 ^ width := Nat.le_of_dvd (Nat.two_pow_pos width) size.dvd
  have positive := size.pos
  rw [mask, BitVec.toNat_ofNat]
  exact Nat.mod_eq_of_lt (by omega)

theorem toNat_and_mask (index : BitVec width) :
    (index &&& size.mask).toNat = index.toNat % size.size := by
  rw [BitVec.toNat_and, toNat_mask, size.power, Nat.and_two_pow_sub_one_eq_mod]

theorem toNat_next (index : BitVec width) :
    (size.next index).toNat = (index.toNat + 1) % size.size := by
  have one : (1 : BitVec width).toNat = 1 % 2 ^ width := BitVec.toNat_ofNat 1 width
  rw [next, toNat_and_mask, BitVec.toNat_add, one, Nat.add_mod_mod, Nat.mod_mod_of_dvd _ size.dvd]

theorem next_lt (index : BitVec width) : (size.next index).toNat < size.size := by
  rw [toNat_next]
  exact Nat.mod_lt _ size.pos

theorem count_lt (head tail : BitVec width) : (size.count head tail).toNat < size.size := by
  rw [count, toNat_and_mask]
  exact Nat.mod_lt _ size.pos

theorem toNat_count {head tail : BitVec width} {distance : Nat} (inside : distance < size.size)
    (apart : head.toNat = (tail.toNat + distance) % size.size) :
    (size.count head tail).toNat = distance := by
  have low : tail.toNat ≤ 2 ^ width := Nat.le_of_lt tail.isLt
  obtain ⟨turns, whole⟩ := size.dvd
  calc (size.count head tail).toNat
      = (2 ^ width - tail.toNat + head.toNat) % size.size := by
        rw [count, toNat_and_mask, BitVec.toNat_sub, Nat.mod_mod_of_dvd _ size.dvd]
    _ = (2 ^ width - tail.toNat + (tail.toNat + distance)) % size.size := by
        rw [apart, Nat.add_mod_mod]
    _ = (distance + size.size * turns) % size.size := by
        rw [← whole]
        congr 1
        omega
    _ = distance := by rw [Nat.add_mul_mod_self_left, Nat.mod_eq_of_lt inside]

/-- Slots at different distances from a tail are different. -/
theorem distance_unique (start : Nat) {first second : Nat} (low : first < size.size)
    (high : second < size.size)
    (same : (start + first) % size.size = (start + second) % size.size) : first = second := by
  have congruent : first ≡ second [MOD size.size] := Nat.ModEq.add_left_cancel' start same
  exact Nat.ModEq.eq_of_lt_of_lt congruent low high

end RingSize

structure RingQueue (Item : Type u) (width : Nat) where
  memory : Nat → Item
  head : BitVec width
  tail : BitVec width

namespace RingQueue

variable {Item : Type u} {width : Nat} {size : RingSize width} {ring : RingQueue Item width}
  {item : Item} {items : List Item}

/-- An item into the slot an index stands at. -/
def write (ring : RingQueue Item width) (index : BitVec width) (item : Item) : RingQueue Item width :=
  { ring with memory := Function.update ring.memory index.toNat item }

/-- The item in the slot the tail stands at. -/
def oldest (ring : RingQueue Item width) : Item := ring.memory ring.tail.toNat

/-- The items from the tail to the head. -/
def contents (size : RingSize width) (ring : RingQueue Item width) : List Item :=
  (List.range (size.count ring.head ring.tail).toNat).map fun position =>
    ring.memory ((ring.tail.toNat + position) % size.size)

/-- The ring holds the items from its tail to its head, and one slot at least is empty. -/
structure Holds (size : RingSize width) (ring : RingQueue Item width) (items : List Item) : Prop where
  tail : ring.tail.toNat < size.size
  room : items.length < size.size
  head : ring.head.toNat = (ring.tail.toNat + items.length) % size.size
  slots : ∀ position item, items[position]? = some item →
    ring.memory ((ring.tail.toNat + position) % size.size) = item

theorem Holds.head_lt (holds : Holds size ring items) : ring.head.toNat < size.size := by
  rw [holds.head]
  exact Nat.mod_lt _ size.pos

theorem Holds.count (holds : Holds size ring items) :
    (size.count ring.head ring.tail).toNat = items.length :=
  size.toNat_count holds.room holds.head

theorem Holds.contents (holds : Holds size ring items) : ring.contents size = items := by
  rw [RingQueue.contents, holds.count]
  refine List.ext_getElem? fun position => ?_
  by_cases inside : position < items.length
  · rw [List.getElem?_map, List.getElem?_range inside, List.getElem?_eq_getElem inside]
    exact congrArg some
      (holds.slots position items[position] (List.getElem?_eq_getElem inside))
  · have outside : items.length ≤ position := Nat.le_of_not_lt inside
    rw [List.getElem?_eq_none outside, List.getElem?_eq_none]
    rw [List.length_map, List.length_range]
    exact outside

theorem Holds.empty_iff (holds : Holds size ring items) : ring.tail = ring.head ↔ items = [] := by
  have start : ring.tail.toNat = (ring.tail.toNat + 0) % size.size := by
    rw [Nat.add_zero, Nat.mod_eq_of_lt holds.tail]
  constructor
  · intro same
    have distance : 0 = items.length := by
      refine size.distance_unique ring.tail.toNat size.pos holds.room ?_
      rw [← start, ← holds.head, same]
    exact List.length_eq_zero_iff.mp distance.symm
  · rintro rfl
    exact BitVec.eq_of_toNat_eq (start.trans holds.head.symm)

theorem Holds.full_iff (holds : Holds size ring items) :
    size.next ring.head = ring.tail ↔ items.length + 1 = size.size := by
  have after : (size.next ring.head).toNat = (ring.tail.toNat + (items.length + 1)) % size.size := by
    rw [size.toNat_next, holds.head, Nat.mod_add_mod, Nat.add_assoc]
  constructor
  · intro same
    by_contra notFull
    have inside : items.length + 1 < size.size := Nat.lt_of_le_of_ne holds.room notFull
    have distance : 0 = items.length + 1 := by
      refine size.distance_unique ring.tail.toNat size.pos inside ?_
      rw [← after, same, Nat.add_zero, Nat.mod_eq_of_lt holds.tail]
    exact absurd distance (Nat.succ_ne_zero _).symm
  · intro full
    apply BitVec.eq_of_toNat_eq
    rw [after, full, Nat.add_mod_right, Nat.mod_eq_of_lt holds.tail]

/-- An item is put at the head, and the head moved past it. -/
theorem Holds.push (holds : Holds size ring items) (room : items.length + 1 < size.size)
    (item : Item) :
    Holds size { ring.write ring.head item with head := size.next ring.head } (items ++ [item]) where
  tail := holds.tail
  room := by
    rw [List.length_append]
    exact room
  head := by
    rw [List.length_append, List.length_singleton]
    change (size.next ring.head).toNat = _
    rw [size.toNat_next, holds.head, Nat.mod_add_mod, Nat.add_assoc]
    rfl
  slots := by
    intro position placed found
    change Function.update ring.memory ring.head.toNat item
      ((ring.tail.toNat + position) % size.size) = placed
    rcases Nat.lt_trichotomy position items.length with before | here | after
    · have apart : (ring.tail.toNat + position) % size.size ≠ ring.head.toNat := by
        intro same
        rw [holds.head] at same
        exact absurd (size.distance_unique _ (before.trans holds.room) holds.room same)
          (Nat.ne_of_lt before)
      rw [Function.update_of_ne apart]
      rw [List.getElem?_append_left before] at found
      exact holds.slots position placed found
    · rw [here, List.getElem?_concat_length] at found
      rw [here, ← holds.head, Function.update_self]
      exact Option.some.inj found
    · have outside : (items ++ [item]).length ≤ position := by
        rw [List.length_append]
        exact after
      rw [List.getElem?_eq_none outside] at found
      cases found

/-- The item at the tail is the first, and the tail moves past it. -/
theorem Holds.pop (holds : Holds size ring (item :: items)) :
    ring.oldest = item ∧ Holds size { ring with tail := size.next ring.tail } items := by
  have first : ring.memory ((ring.tail.toNat + 0) % size.size) = item := holds.slots 0 item rfl
  rw [Nat.add_zero, Nat.mod_eq_of_lt holds.tail] at first
  have moved : ∀ distance,
      ((size.next ring.tail).toNat + distance) % size.size =
        (ring.tail.toNat + (distance + 1)) % size.size := by
    intro distance
    rw [size.toNat_next, Nat.mod_add_mod, Nat.add_assoc, Nat.add_comm 1 distance]
  refine ⟨first, size.next_lt ring.tail, ?_, ?_, ?_⟩
  · exact (Nat.lt_succ_self _).trans holds.room
  · exact holds.head.trans (moved items.length).symm
  · intro position placed found
    change ring.memory (((size.next ring.tail).toNat + position) % size.size) = placed
    rw [moved]
    exact holds.slots (position + 1) placed found

/-- Nothing is left once the tail is at the head. -/
theorem Holds.clear (holds : Holds size ring items) :
    Holds size { ring with tail := ring.head } ([] : List Item) where
  tail := holds.head_lt
  room := size.pos
  head := by
    change ring.head.toNat = (ring.head.toNat + 0) % size.size
    rw [Nat.add_zero, Nat.mod_eq_of_lt holds.head_lt]
  slots := by
    intro position placed found
    cases found

/-- What lies before an earlier head. -/
theorem Holds.earlier {later : List Item} {head : BitVec width}
    (holds : Holds size ring (items ++ later))
    (before : head.toNat = (ring.tail.toNat + items.length) % size.size) :
    Holds size { ring with head := head } items where
  tail := holds.tail
  room := by
    have room := holds.room
    rw [List.length_append] at room
    exact (Nat.le_add_right _ _).trans_lt room
  head := before
  slots := by
    intro position placed found
    have inside : position < items.length := (List.getElem?_eq_some_iff.mp found).1
    refine holds.slots position placed ?_
    rw [List.getElem?_append_left inside]
    exact found

end RingQueue
