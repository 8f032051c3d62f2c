import GpsClock.Sml.Message

/-! # Payloads, field by field

`sml_encode` and `sml_decode` copy a payload between a processor's memory and the
wire, field by field, through a variable of the field's own width. Whatever the
processor's byte order, either direction moves every byte to its mirror place
within its field (`GpsClock.Sml.smlEncode_apply`, `GpsClock.Sml.smlDecode_apply`),
so each undoes the other on a layout's bytes and touches nothing else.
-/

namespace GpsClock.Sml

/-- How a processor lays out a word in memory. -/
inductive ByteOrder
  | little
  | big
  deriving DecidableEq, Repr

/-- Memory from some address on. -/
abbrev Memory := Nat → Byte

/-- `sml_put_u16`. -/
def smlPutU16 (wire : Memory) (at_ : Nat) (value : BitVec 16) : Memory :=
  Function.update (Function.update wire at_ ((value >>> 8).setWidth 8)) (at_ + 1)
    (value.setWidth 8)

/-- `sml_put_u32`. -/
def smlPutU32 (wire : Memory) (at_ : Nat) (value : BitVec 32) : Memory :=
  Function.update
    (Function.update
      (Function.update (Function.update wire at_ ((value >>> 24).setWidth 8)) (at_ + 1)
        ((value >>> 16).setWidth 8))
      (at_ + 2) ((value >>> 8).setWidth 8))
    (at_ + 3) (value.setWidth 8)

/-- `sml_get_u16` of two bytes. -/
def smlGetU16 (high low : Byte) : BitVec 16 :=
  (high.setWidth 16 <<< 8) ||| low.setWidth 16

/-- `sml_get_u32` of four bytes. -/
def smlGetU32 (first second third fourth : Byte) : BitVec 32 :=
  (first.setWidth 32 <<< 24) ||| (second.setWidth 32 <<< 16) ||| (third.setWidth 32 <<< 8) |||
    fourth.setWidth 32

/-- `memcpy` of two bytes into a `uint16_t`. -/
def loadU16 (order : ByteOrder) (source : Memory) (at_ : Nat) : BitVec 16 :=
  match order with
  | .little => smlGetU16 (source (at_ + 1)) (source at_)
  | .big => smlGetU16 (source at_) (source (at_ + 1))

/-- `memcpy` of four bytes into a `uint32_t`. -/
def loadU32 (order : ByteOrder) (source : Memory) (at_ : Nat) : BitVec 32 :=
  match order with
  | .little => smlGetU32 (source (at_ + 3)) (source (at_ + 2)) (source (at_ + 1)) (source at_)
  | .big => smlGetU32 (source at_) (source (at_ + 1)) (source (at_ + 2)) (source (at_ + 3))

/-- `memcpy` of a `uint16_t` into memory. -/
def storeU16 (order : ByteOrder) (destination : Memory) (at_ : Nat) (value : BitVec 16) : Memory :=
  match order with
  | .little =>
      Function.update (Function.update destination at_ (value.setWidth 8)) (at_ + 1)
        ((value >>> 8).setWidth 8)
  | .big => smlPutU16 destination at_ value

/-- `memcpy` of a `uint32_t` into memory. -/
def storeU32 (order : ByteOrder) (destination : Memory) (at_ : Nat) (value : BitVec 32) : Memory :=
  match order with
  | .little =>
      Function.update
        (Function.update
          (Function.update (Function.update destination at_ (value.setWidth 8)) (at_ + 1)
            ((value >>> 8).setWidth 8))
          (at_ + 2) ((value >>> 16).setWidth 8))
        (at_ + 3) ((value >>> 24).setWidth 8)
  | .big => smlPutU32 destination at_ value

/-- One turn of `sml_encode`'s loop. -/
def encodeField (order : ByteOrder) (native : Memory) (size offset : Nat) (wire : Memory) :
    Memory :=
  if size = 4 then smlPutU32 wire offset (loadU32 order native offset)
  else if size = 2 then smlPutU16 wire offset (loadU16 order native offset)
  else Function.update wire offset (native offset)

/-- One turn of `sml_decode`'s loop. -/
def decodeField (order : ByteOrder) (wire : Memory) (size offset : Nat) (native : Memory) :
    Memory :=
  if size = 4 then
    storeU32 order native offset
      (smlGetU32 (wire offset) (wire (offset + 1)) (wire (offset + 2)) (wire (offset + 3)))
  else if size = 2 then storeU16 order native offset (smlGetU16 (wire offset) (wire (offset + 1)))
  else Function.update native offset (wire offset)

/-- The loop both share. The offset is a `uint16_t`. -/
def walkFields (copy : Nat → Nat → Memory → Memory) : Layout → Nat → Memory → Memory × Nat
  | [], offset, memory => (memory, offset)
  | size :: layout, offset, memory =>
      walkFields copy layout ((offset + size) % 2 ^ 16) (copy size offset memory)

/-- The wire's memory afterwards, and the offset returned. -/
def smlEncode (order : ByteOrder) (layout : Layout) (native wire : Memory) : Memory × Nat :=
  walkFields (encodeField order native) layout 0 wire

/-- The struct's memory afterwards, and the offset returned. -/
def smlDecode (order : ByteOrder) (layout : Layout) (wire native : Memory) : Memory × Nat :=
  walkFields (decodeField order wire) layout 0 native

/-! ## The bytes of a word -/

theorem smlGetU16_bytes (high low : Byte) :
    ((smlGetU16 high low) >>> 8).setWidth 8 = high ∧ (smlGetU16 high low).setWidth 8 = low := by
  constructor <;>
  · apply BitVec.eq_of_getLsbD_eq
    intro place bound
    interval_cases place <;> simp [smlGetU16]

theorem smlGetU32_bytes (first second third fourth : Byte) :
    ((smlGetU32 first second third fourth) >>> 24).setWidth 8 = first ∧
      ((smlGetU32 first second third fourth) >>> 16).setWidth 8 = second ∧
      ((smlGetU32 first second third fourth) >>> 8).setWidth 8 = third ∧
      (smlGetU32 first second third fourth).setWidth 8 = fourth := by
  refine ⟨?_, ?_, ?_, ?_⟩ <;>
  · apply BitVec.eq_of_getLsbD_eq
    intro place bound
    interval_cases place <;> simp [smlGetU32]

theorem smlGetU16_wordBytes (value : Word) :
    smlGetU16 ((value >>> 8).setWidth 8) (value.setWidth 8) = value := by
  apply BitVec.eq_of_getLsbD_eq
  intro place bound
  interval_cases place <;> simp [smlGetU16]

/-! ## Where each byte goes -/

/-- The place within a field that a byte of it comes from. -/
def mirror (order : ByteOrder) (size place : Nat) : Nat :=
  match order with
  | .little => size - 1 - place
  | .big => place

theorem mirror_lt (order : ByteOrder) {size place : Nat} (inside : place < size) :
    mirror order size place < size := by
  cases order <;> simp only [mirror] <;> omega

theorem mirror_mirror (order : ByteOrder) {size place : Nat} (inside : place < size) :
    mirror order size (mirror order size place) = place := by
  cases order <;> simp only [mirror]
  omega

/-- The place within a payload that a byte of it comes from. -/
def fieldPlace (order : ByteOrder) : Layout → Nat → Nat
  | [], place => place
  | size :: layout, place =>
      if place < size then mirror order size place
      else size + fieldPlace order layout (place - size)

theorem fieldPlace_lt (order : ByteOrder) (layout : Layout) (place : Nat)
    (inside : place < layout.sum) : fieldPlace order layout place < layout.sum := by
  induction layout generalizing place with
  | nil => simp at inside
  | cons size layout ih =>
      rw [List.sum_cons] at inside ⊢
      unfold fieldPlace
      split
      · next first => exact Nat.lt_of_lt_of_le (mirror_lt order first) (Nat.le_add_right _ _)
      · next later =>
          have := ih (place - size) (by omega)
          omega

/-- Mirroring every field twice puts every byte back. -/
theorem fieldPlace_fieldPlace (order : ByteOrder) (layout : Layout) (place : Nat) :
    fieldPlace order layout (fieldPlace order layout place) = place := by
  induction layout generalizing place with
  | nil => rfl
  | cons size layout ih =>
      by_cases first : place < size
      · simp only [fieldPlace, first, ↓reduceIte, mirror_lt order first, mirror_mirror order first]
      · have later : ¬ size + fieldPlace order layout (place - size) < size := by omega
        simp only [fieldPlace, first, ↓reduceIte, later, Nat.add_sub_cancel_left, ih]
        omega

/-- A copy of one field that mirrors the field's bytes and moves nothing else. -/
def Mirrors (order : ByteOrder) (source : Memory) (copy : Nat → Nat → Memory → Memory) : Prop :=
  ∀ size offset memory index, size = 1 ∨ size = 2 ∨ size = 4 →
    copy size offset memory index =
      if offset ≤ index ∧ index < offset + size then
        source (offset + mirror order size (index - offset))
      else memory index

theorem encodeField_mirrors (order : ByteOrder) (native : Memory) :
    Mirrors order native (encodeField order native) := by
  intro size offset wire index plain
  by_cases inside : offset ≤ index ∧ index < offset + size
  · obtain ⟨place, rfl⟩ := Nat.exists_eq_add_of_le inside.1
    have bound : place < size := by omega
    obtain rfl | rfl | rfl := plain <;> interval_cases place <;> cases order <;>
      simp [encodeField, smlPutU32, smlPutU16, loadU32, loadU16, mirror, smlGetU16_bytes,
        smlGetU32_bytes]
  · rw [if_neg inside]
    obtain rfl | rfl | rfl := plain <;>
      simp only [encodeField, smlPutU32, smlPutU16, Function.update_apply, ↓reduceIte,
        Nat.reduceEqDiff] <;>
      repeat rw [if_neg (by omega)]

theorem decodeField_mirrors (order : ByteOrder) (wire : Memory) :
    Mirrors order wire (decodeField order wire) := by
  intro size offset native index plain
  by_cases inside : offset ≤ index ∧ index < offset + size
  · obtain ⟨place, rfl⟩ := Nat.exists_eq_add_of_le inside.1
    have bound : place < size := by omega
    obtain rfl | rfl | rfl := plain <;> interval_cases place <;> cases order <;>
      simp [decodeField, storeU32, storeU16, smlPutU32, smlPutU16, mirror, smlGetU16_bytes,
        smlGetU32_bytes]
  · rw [if_neg inside]
    obtain rfl | rfl | rfl := plain <;> cases order <;>
      simp only [decodeField, storeU32, storeU16, smlPutU32, smlPutU16, Function.update_apply,
        ↓reduceIte, Nat.reduceEqDiff] <;>
      repeat rw [if_neg (by omega)]

/-- A payload walked field by field: every byte comes from its mirror place, the
rest of memory stands, and the offset returned is the layout's length. -/
theorem Mirrors.walkFields_apply {order : ByteOrder} {source : Memory}
    {copy : Nat → Nat → Memory → Memory} (mirrors : Mirrors order source copy) (layout : Layout)
    (plain : layout.Plain) (offset : Nat) (short : offset + layout.sum < 2 ^ 16)
    (memory : Memory) :
    (walkFields copy layout offset memory).2 = offset + layout.sum ∧
      ∀ index, (walkFields copy layout offset memory).1 index =
        if offset ≤ index ∧ index < offset + layout.sum then
          source (offset + fieldPlace order layout (index - offset))
        else memory index := by
  induction layout generalizing offset memory with
  | nil =>
      refine ⟨rfl, fun index => (if_neg ?_).symm⟩
      rw [List.sum_nil]
      omega
  | cons size layout ih =>
      rw [List.sum_cons] at short ⊢
      have first := plain size List.mem_cons_self
      have rest : Layout.Plain layout := fun other member =>
        plain other (List.mem_cons_of_mem _ member)
      have next : (offset + size) % 2 ^ 16 = offset + size := Nat.mod_eq_of_lt (by omega)
      obtain ⟨returned, written⟩ := ih rest (offset + size) (by omega) (copy size offset memory)
      simp only [walkFields, next]
      refine ⟨by omega, fun index => ?_⟩
      rw [written, mirrors size offset memory index first]
      by_cases below : index < offset + size
      · rw [if_neg (by omega)]
        by_cases inside : offset ≤ index
        · have place : index - offset < size := by omega
          rw [if_pos ⟨inside, below⟩, if_pos (by omega)]
          simp only [fieldPlace, place, ↓reduceIte]
        · rw [if_neg (by omega), if_neg (by omega)]
      · by_cases inside : index < offset + (size + layout.sum)
        · have place : ¬ index - offset < size := by omega
          rw [if_pos (by omega), if_pos (by omega)]
          simp only [fieldPlace, place, ↓reduceIte, Nat.add_assoc, Nat.sub_add_eq]
        · rw [if_neg (by omega), if_neg (by omega), if_neg (by omega)]

/-- A field past the `uint16_t` offset's reach is never touched, however long the
layout. -/
theorem Mirrors.walkFields_far {order : ByteOrder} {source : Memory}
    {copy : Nat → Nat → Memory → Memory} (mirrors : Mirrors order source copy) (layout : Layout)
    (plain : layout.Plain) (offset : Nat) (within : offset < 2 ^ 16) (memory : Memory)
    (index : Nat) (far : 2 ^ 16 + 3 ≤ index) :
    (walkFields copy layout offset memory).1 index = memory index := by
  induction layout generalizing offset memory with
  | nil => rfl
  | cons size layout ih =>
      have first := plain size List.mem_cons_self
      have rest : Layout.Plain layout := fun other member =>
        plain other (List.mem_cons_of_mem _ member)
      rw [walkFields, ih rest _ (Nat.mod_lt _ (by decide)), mirrors size offset memory index first]
      exact if_neg (by omega)

theorem smlEncode_apply (order : ByteOrder) (layout : Layout) (plain : layout.Plain)
    (short : layout.sum < 2 ^ 16) (native wire : Memory) :
    (smlEncode order layout native wire).2 = layout.sum ∧
      ∀ index, (smlEncode order layout native wire).1 index =
        if index < layout.sum then native (fieldPlace order layout index) else wire index := by
  have walked := (encodeField_mirrors order native).walkFields_apply layout plain 0
    (by omega) wire
  simpa [smlEncode] using walked

theorem smlDecode_apply (order : ByteOrder) (layout : Layout) (plain : layout.Plain)
    (short : layout.sum < 2 ^ 16) (wire native : Memory) :
    (smlDecode order layout wire native).2 = layout.sum ∧
      ∀ index, (smlDecode order layout wire native).1 index =
        if index < layout.sum then wire (fieldPlace order layout index) else native index := by
  have walked := (decodeField_mirrors order wire).walkFields_apply layout plain 0
    (by omega) native
  simpa [smlDecode] using walked

/-- Encoding what was decoded gives the wire's bytes back. -/
theorem smlEncode_smlDecode (order : ByteOrder) (layout : Layout) (plain : layout.Plain)
    (short : layout.sum < 2 ^ 16) (wire native blank : Memory) (index : Nat)
    (inside : index < layout.sum) :
    (smlEncode order layout (smlDecode order layout wire native).1 blank).1 index = wire index := by
  rw [(smlEncode_apply order layout plain short _ _).2, if_pos inside,
    (smlDecode_apply order layout plain short _ _).2,
    if_pos (fieldPlace_lt order layout index inside), fieldPlace_fieldPlace]

/-- Decoding what was encoded gives the struct's bytes back. -/
theorem smlDecode_smlEncode (order : ByteOrder) (layout : Layout) (plain : layout.Plain)
    (short : layout.sum < 2 ^ 16) (native wire blank : Memory) (index : Nat)
    (inside : index < layout.sum) :
    (smlDecode order layout (smlEncode order layout native wire).1 blank).1 index =
      native index := by
  rw [(smlDecode_apply order layout plain short _ _).2, if_pos inside,
    (smlEncode_apply order layout plain short _ _).2,
    if_pos (fieldPlace_lt order layout index inside), fieldPlace_fieldPlace]

end GpsClock.Sml
