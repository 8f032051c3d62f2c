import GpsClock.Sml.RoundTrip

/-! # Structs in memory

A payload struct is the values of its fields, one after another at its layout's
sizes, each in the processor's byte order. Encoded, it is the same values most
significant byte first (`GpsClock.Sml.encodedBytes_nativeBytes`); decoded again,
its fields load as what they were (`GpsClock.Sml.loadFields_decode`).
-/

namespace GpsClock.Sml

/-- A field's bytes in memory. The wire's first byte is the most significant, and
memory mirrors the wire. -/
def fieldBytes (order : ByteOrder) (size : Nat) (value : BitVec 32) : List Byte :=
  (List.range size).map fun place =>
    (value >>> (8 * (size - 1 - mirror order size place))).setWidth 8

/-- A struct's bytes in memory. -/
def nativeBytes (order : ByteOrder) : Layout → List (BitVec 32) → List Byte
  | size :: layout, value :: values =>
      fieldBytes order size value ++ nativeBytes order layout values
  | _, _ => []

/-- A field, by its size. -/
def loadField (order : ByteOrder) (size : Nat) (source : Memory) : BitVec 32 :=
  if size = 4 then loadU32 order source 0
  else if size = 2 then (loadU16 order source 0).setWidth 32
  else (source 0).setWidth 32

/-- A struct's fields. -/
def loadFields (order : ByteOrder) : Layout → Memory → List (BitVec 32)
  | [], _ => []
  | size :: layout, source =>
      loadField order size source :: loadFields order layout fun place => source (size + place)

/-- What `sml_encode` writes over a layout. -/
def encodedBytes (order : ByteOrder) (layout : Layout) (native : Memory) : List Byte :=
  (List.range layout.sum).map (smlEncode order layout native fun _ => 0).1

/-- Every value is one its field can hold. -/
def Fits (layout : Layout) (values : List (BitVec 32)) : Prop :=
  List.Forall₂ (fun size value => value.toNat < 2 ^ (8 * size)) layout values

theorem Fits.append {first second : Layout} {before after : List (BitVec 32)}
    (fitsBefore : Fits first before) (fitsAfter : Fits second after) :
    Fits (first ++ second) (before ++ after) := by
  induction fitsBefore with
  | nil => exact fitsAfter
  | cons fit _ ih => exact .cons fit ih

theorem smlGetU32_wordBytes (value : BitVec 32) :
    smlGetU32 ((value >>> 24).setWidth 8) ((value >>> 16).setWidth 8) ((value >>> 8).setWidth 8)
      (value.setWidth 8) = value := by
  apply BitVec.eq_of_getLsbD_eq
  intro place bound
  interval_cases place <;> simp [smlGetU32]

theorem length_fieldBytes (order : ByteOrder) (size : Nat) (value : BitVec 32) :
    (fieldBytes order size value).length = size := by
  simp [fieldBytes]

theorem length_nativeBytes (order : ByteOrder) {layout : Layout} {values : List (BitVec 32)}
    (fits : Fits layout values) : (nativeBytes order layout values).length = layout.sum := by
  induction fits with
  | nil => rfl
  | cons _ _ ih => simp [nativeBytes, length_fieldBytes, ih]

theorem bytesAt_append_left {first second : List Byte} {place : Nat}
    (inside : place < first.length) : bytesAt (first ++ second) place = bytesAt first place := by
  simp [bytesAt, List.getElem?_append_left inside]

theorem bytesAt_append_right (first second : List Byte) (place : Nat) :
    bytesAt (first ++ second) (first.length + place) = bytesAt second place := by
  simp [bytesAt, List.getElem?_append_right]

/-- A field's bytes in memory, mirrored, are its bytes on the wire. -/
theorem fieldBytes_mirror (order : ByteOrder) {size : Nat} (value : BitVec 32) {place : Nat}
    (inside : place < size) :
    bytesAt (fieldBytes order size value) (mirror order size place) =
      bytesAt (fieldBytes .big size value) place := by
  have mirrored := mirror_lt order inside
  simp [bytesAt, fieldBytes, inside, mirrored, mirror_mirror order inside]
  rfl

theorem nativeBytes_fieldPlace (order : ByteOrder) {layout : Layout} {values : List (BitVec 32)}
    (fits : Fits layout values) (place : Nat) (inside : place < layout.sum) :
    bytesAt (nativeBytes order layout values) (fieldPlace order layout place) =
      bytesAt (nativeBytes .big layout values) place := by
  induction fits generalizing place with
  | nil => simp at inside
  | @cons size value layout values _ _ ih =>
      rw [List.sum_cons] at inside
      simp only [nativeBytes, fieldPlace]
      split
      · next first =>
          rw [bytesAt_append_left (by rw [length_fieldBytes]; exact mirror_lt order first),
            bytesAt_append_left (by rw [length_fieldBytes]; exact first),
            fieldBytes_mirror order value first]
      · next later =>
          have onward := bytesAt_append_right (fieldBytes order size value)
            (nativeBytes order layout values) (fieldPlace order layout (place - size))
          have wire := bytesAt_append_right (fieldBytes .big size value)
            (nativeBytes .big layout values) (place - size)
          rw [length_fieldBytes] at onward wire
          rw [Nat.add_sub_cancel' (Nat.not_lt.mp later)] at wire
          rw [onward, wire, ih (place - size) (by omega)]

/-- Encoded, a struct is its values most significant byte first. -/
theorem encodedBytes_nativeBytes (order : ByteOrder) {layout : Layout} (plain : layout.Plain)
    (short : layout.sum < 2 ^ 16) {values : List (BitVec 32)} (fits : Fits layout values) :
    encodedBytes order layout (bytesAt (nativeBytes order layout values)) =
      nativeBytes .big layout values := by
  apply List.ext_getElem
  · rw [length_nativeBytes .big fits]
    simp [encodedBytes]
  · intro place inside within
    rw [length_nativeBytes .big fits] at within
    have wire := nativeBytes_fieldPlace order fits place within
    simp only [encodedBytes, List.getElem_map, List.getElem_range]
    rw [(smlEncode_apply order layout plain short _ _).2, if_pos within, wire]
    simp [bytesAt, length_nativeBytes .big fits, within]

theorem loadField_congr (order : ByteOrder) {size : Nat} (plain : size = 1 ∨ size = 2 ∨ size = 4)
    {first second : Memory} (same : ∀ place < size, first place = second place) :
    loadField order size first = loadField order size second := by
  obtain rfl | rfl | rfl := plain
  · simp only [loadField, Nat.reduceEqDiff, ↓reduceIte, same 0 (by decide)]
  · cases order <;> simp [loadField, loadU16, same 0 (by decide), same 1 (by decide)]
  · cases order <;> simp [loadField, loadU32, same 0 (by decide), same 1 (by decide),
      same 2 (by decide), same 3 (by decide)]

theorem loadFields_congr (order : ByteOrder) {layout : Layout} (plain : layout.Plain)
    {first second : Memory} (same : ∀ place < layout.sum, first place = second place) :
    loadFields order layout first = loadFields order layout second := by
  induction layout generalizing first second with
  | nil => rfl
  | cons size layout ih =>
      rw [List.sum_cons] at same
      have here := loadField_congr order (plain size List.mem_cons_self)
        fun place inside => same place (Nat.lt_add_right _ inside)
      have shifted : ∀ place < layout.sum, first (size + place) = second (size + place) :=
        fun place inside => same _ (Nat.add_lt_add_left inside size)
      have onward := ih (fun other member => plain other (List.mem_cons_of_mem _ member)) shifted
      simp only [loadFields, here, onward]

theorem loadField_fieldBytes (order : ByteOrder) {size : Nat}
    (plain : size = 1 ∨ size = 2 ∨ size = 4) {value : BitVec 32}
    (fits : value.toNat < 2 ^ (8 * size)) :
    loadField order size (bytesAt (fieldBytes order size value)) = value := by
  obtain rfl | rfl | rfl := plain
  · have bytes : bytesAt (fieldBytes order 1 value) 0 = value.setWidth 8 := by
      cases order <;> simp [bytesAt, fieldBytes, mirror]
    simp only [loadField, Nat.reduceEqDiff, ↓reduceIte, bytes]
    apply BitVec.eq_of_toNat_eq
    simp only [BitVec.toNat_setWidth]
    omega
  · have loaded : loadU16 order (bytesAt (fieldBytes order 2 value)) 0 = value.setWidth 16 := by
      have narrowed : (value.setWidth 16 >>> 8).setWidth 8 = (value >>> 8).setWidth 8 ∧
          (value.setWidth 16).setWidth 8 = value.setWidth 8 := by
        constructor <;>
        · apply BitVec.eq_of_getLsbD_eq
          intro place bound
          interval_cases place <;> simp
      rw [← smlGetU16_wordBytes (value.setWidth 16), narrowed.1, narrowed.2]
      cases order <;> simp [loadU16, bytesAt, fieldBytes, mirror, List.range_succ]
    simp only [loadField, Nat.reduceEqDiff, ↓reduceIte, loaded]
    apply BitVec.eq_of_toNat_eq
    simp only [BitVec.toNat_setWidth]
    omega
  · have loaded : loadU32 order (bytesAt (fieldBytes order 4 value)) 0 = value := by
      conv => rhs; rw [← smlGetU32_wordBytes value]
      cases order <;> simp [loadU32, bytesAt, fieldBytes, mirror, List.range_succ]
    simp only [loadField, ↓reduceIte, loaded]

theorem loadFields_nativeBytes (order : ByteOrder) {layout : Layout} (plain : layout.Plain)
    {values : List (BitVec 32)} (fits : Fits layout values) :
    loadFields order layout (bytesAt (nativeBytes order layout values)) = values := by
  induction fits with
  | nil => rfl
  | @cons size value layout values fit fits ih =>
      have front : ∀ place < size,
          bytesAt (fieldBytes order size value ++ nativeBytes order layout values) place =
            bytesAt (fieldBytes order size value) place :=
        fun place inside => bytesAt_append_left (by rw [length_fieldBytes]; exact inside)
      have here := loadField_congr order (plain size List.mem_cons_self) front
      have onward : (fun place =>
          bytesAt (fieldBytes order size value ++ nativeBytes order layout values) (size + place)) =
          bytesAt (nativeBytes order layout values) := by
        funext place
        have shifted := bytesAt_append_right (fieldBytes order size value)
          (nativeBytes order layout values) place
        rwa [length_fieldBytes] at shifted
      simp only [nativeBytes, loadFields]
      rw [here, loadField_fieldBytes order (plain size List.mem_cons_self) fit, onward,
        ih fun other member => plain other (List.mem_cons_of_mem _ member)]

/-- What was encoded, with anything after it, decodes to the values encoded. -/
theorem loadFields_decode (order : ByteOrder) {layout : Layout} (plain : layout.Plain)
    (short : layout.sum < 2 ^ 16) {values : List (BitVec 32)} (fits : Fits layout values)
    (wire blank : Memory)
    (encoded : ∀ place < layout.sum, wire place = bytesAt
      (encodedBytes order layout (bytesAt (nativeBytes order layout values))) place) :
    loadFields order layout (smlDecode order layout wire blank).1 = values := by
  have decoded : ∀ place < layout.sum, (smlDecode order layout wire blank).1 place =
      bytesAt (nativeBytes order layout values) place := by
    intro place inside
    rw [← smlDecode_smlEncode order layout plain short (bytesAt (nativeBytes order layout values))
      (fun _ => 0) blank place inside]
    refine congrFun (smlDecode_congr order layout plain short _ _ blank fun index bound => ?_) place
    rw [encoded index bound]
    simp [bytesAt, encodedBytes, bound]
  rw [loadFields_congr order plain decoded, loadFields_nativeBytes order plain fits]

end GpsClock.Sml
