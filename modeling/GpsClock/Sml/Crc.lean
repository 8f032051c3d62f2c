import GpsClock.Lib.BitSerial

/-! # The link's checksum

`sml_crc` (CRC-16/IBM-3740) works a nibble at a time from a table of sixteen
words. It is the bit-serial remainder for the polynomial 0x1021
(`GpsClock.Sml.smlCrc_eq_feedBits`), so the checksum of a message followed by its
own checksum is zero (`GpsClock.Sml.smlCrc_append_eq_zero_iff`) and the checksum
is linear over exclusive or (`GpsClock.Sml.smlCrc_xor`).
-/

namespace GpsClock

/-- An octet: `uint8_t`. -/
abbrev Byte := BitVec 8

/-- A sixteen-bit word: `uint16_t`. -/
abbrev Word := BitVec 16

namespace Sml

/-- `SML_CRC_INIT`. -/
def smlCrcInit : Word := 0xFFFF

/-- `crc_nibbles`. -/
def crcNibbles : List Word :=
  [0x0000, 0x1021, 0x2042, 0x3063, 0x4084, 0x50A5, 0x60C6, 0x70E7,
    0x8108, 0x9129, 0xA14A, 0xB16B, 0xC18C, 0xD1AD, 0xE1CE, 0xF1EF]

/-- One of the two table steps `sml_crc` takes for each byte. -/
def crcNibble (crc : Word) : Word :=
  (crc <<< 4) ^^^ crcNibbles.getD (crc >>> 12).toNat 0

/-- The body of `sml_crc`'s loop. -/
def crcByte (crc : Word) (byte : Byte) : Word :=
  crcNibble (crcNibble (crc ^^^ (byte.setWidth 16 <<< 8)))

/-- `sml_crc` over the first `length` bytes of `data`, here the whole list. -/
def smlCrc (crc : Word) (data : List Byte) : Word :=
  data.foldl crcByte crc

@[simp] theorem smlCrc_nil (crc : Word) : smlCrc crc [] = crc := rfl

@[simp] theorem smlCrc_cons (crc : Word) (byte : Byte) (data : List Byte) :
    smlCrc crc (byte :: data) = smlCrc (crcByte crc byte) data := rfl

theorem smlCrc_append (crc : Word) (first second : List Byte) :
    smlCrc crc (first ++ second) = smlCrc (smlCrc crc first) second :=
  List.foldl_append ..

/-! ## The bit-serial remainder -/

open BitSerial

/-- The polynomial x^16 + x^12 + x^5 + 1, its leading term implied. -/
def crcPoly : Word := 0x1021

theorem crcPoly_odd : crcPoly.getLsbD 0 = true := by decide

/-- A byte's bits, most significant first. -/
def byteBits (byte : Byte) : List Bool :=
  [byte.getLsbD 7, byte.getLsbD 6, byte.getLsbD 5, byte.getLsbD 4,
    byte.getLsbD 3, byte.getLsbD 2, byte.getLsbD 1, byte.getLsbD 0]

/-- A message's bits in the order they are checked. -/
def bitsOf (data : List Byte) : List Bool :=
  data.flatMap byteBits

@[simp] theorem length_byteBits (byte : Byte) : (byteBits byte).length = 8 := rfl

@[simp] theorem bitsOf_nil : bitsOf [] = [] := rfl

@[simp] theorem bitsOf_cons (byte : Byte) (data : List Byte) :
    bitsOf (byte :: data) = byteBits byte ++ bitsOf data := rfl

theorem bitsOf_append (first second : List Byte) :
    bitsOf (first ++ second) = bitsOf first ++ bitsOf second :=
  List.flatMap_append ..

@[simp] theorem length_bitsOf (data : List Byte) : (bitsOf data).length = 8 * data.length := by
  induction data with
  | nil => rfl
  | cons byte data ih =>
      rw [bitsOf_cons, List.length_append, length_byteBits, ih, List.length_cons]
      omega

/-- A value with nothing in its top nibble only moves up through four steps. -/
theorem iterate_shiftBit_low (c : Word) (low : c.toNat < 2 ^ 12) :
    (shiftBit crcPoly)^[4] c = c <<< 4 := by
  have step : ∀ value : Word, value.toNat < 2 ^ 15 → shiftBit crcPoly value = value <<< 1 := by
    intro value bound
    have clear : value.msb = false := by
      rw [BitVec.msb_eq_decide]
      exact decide_eq_false (by omega)
    simp [shiftBit, clear]
  have one : (c <<< 1).toNat = 2 * c.toNat := by
    rw [BitVec.toNat_shiftLeft, Nat.shiftLeft_eq, Nat.mod_eq_of_lt (by omega)]
    omega
  have two : (c <<< 1 <<< 1).toNat = 4 * c.toNat := by
    rw [BitVec.toNat_shiftLeft, Nat.shiftLeft_eq, Nat.mod_eq_of_lt (by omega)]
    omega
  have three : (c <<< 1 <<< 1 <<< 1).toNat = 8 * c.toNat := by
    rw [BitVec.toNat_shiftLeft, Nat.shiftLeft_eq, Nat.mod_eq_of_lt (by omega)]
    omega
  simp only [Function.iterate_succ_apply, Function.iterate_zero_apply]
  rw [step c (by omega), step (c <<< 1) (by omega), step (c <<< 1 <<< 1) (by omega),
    step (c <<< 1 <<< 1 <<< 1) (by omega)]
  simp only [← BitVec.shiftLeft_add]

/-- The table holds four zero-input steps of each nibble in the top place. -/
theorem crcNibbles_eq_iterate (nibble : Nat) (bound : nibble < 16) :
    crcNibbles.getD nibble 0 = (shiftBit crcPoly)^[4] (BitVec.ofNat 16 nibble <<< 12) := by
  interval_cases nibble <;> decide

/-- One table step is four zero-input steps of the register. -/
theorem crcNibble_eq_iterate (crc : Word) : crcNibble crc = (shiftBit crcPoly)^[4] crc := by
  have split : crc = (crc >>> 12 <<< 12) ^^^ (crc <<< 4 >>> 4) := by
    apply BitVec.eq_of_getLsbD_eq
    intro place bound
    by_cases high : 12 ≤ place
    · simp [bound, show ¬ place < 12 by omega, show 12 + (place - 12) = place by omega,
        show ¬ 4 + place < 16 by omega]
    · simp [bound, show place < 12 by omega, show 4 + place < 16 by omega]
  have top : (crc >>> 12).toNat < 16 := by
    rw [BitVec.toNat_ushiftRight, Nat.shiftRight_eq_div_pow]
    have := crc.isLt
    omega
  have low : (crc <<< 4 >>> 4).toNat < 2 ^ 12 := by
    rw [BitVec.toNat_ushiftRight, Nat.shiftRight_eq_div_pow]
    have := (crc <<< 4).isLt
    omega
  have lifted : crc <<< 4 >>> 4 <<< 4 = crc <<< 4 := by
    apply BitVec.eq_of_getLsbD_eq
    intro place bound
    by_cases small : place < 4
    · simp [small]
    · simp [small, bound, show 4 + (place - 4) = place by omega]
  conv => rhs; rw [split]
  rw [iterate_shiftBit_xor, iterate_shiftBit_low _ low, lifted, crcNibble,
    crcNibbles_eq_iterate _ top, BitVec.ofNat_toNat, BitVec.setWidth_eq, BitVec.xor_comm]

/-- A byte's bits loaded at the top of the register. -/
theorem load_byteBits (byte : Byte) : load (w := 16) (byteBits byte) = byte.setWidth 16 <<< 8 := by
  revert byte
  decide

theorem crcByte_eq_feedBits (crc : Word) (byte : Byte) :
    crcByte crc byte = feedBits crcPoly crc (byteBits byte) := by
  rw [feedBits_eq_iterate_load crcPoly crc (byteBits byte) (by simp), load_byteBits, crcByte,
    crcNibble_eq_iterate, crcNibble_eq_iterate, ← Function.iterate_add_apply]
  rfl

/-- `sml_crc` is the bit-serial remainder of the message's bits. -/
theorem smlCrc_eq_feedBits (crc : Word) (data : List Byte) :
    smlCrc crc data = feedBits crcPoly crc (bitsOf data) := by
  induction data generalizing crc with
  | nil => rfl
  | cons byte data ih =>
      rw [smlCrc_cons, ih, bitsOf_cons, feedBits_append, crcByte_eq_feedBits]

/-! ## What the checksum does with errors -/

/-- Two messages of one length added bit by bit. -/
def addBytes (first second : List Byte) : List Byte :=
  List.zipWith (· ^^^ ·) first second

theorem byteBits_xor (first second : Byte) :
    byteBits (first ^^^ second) = List.zipWith Bool.xor (byteBits first) (byteBits second) := by
  simp [byteBits]

theorem bitsOf_addBytes (first second : List Byte) (same : first.length = second.length) :
    bitsOf (addBytes first second) = List.zipWith Bool.xor (bitsOf first) (bitsOf second) := by
  induction first generalizing second with
  | nil => rfl
  | cons byte first ih =>
      cases second with
      | nil => simp at same
      | cons other second =>
          rw [addBytes, List.zipWith_cons_cons, bitsOf_cons, bitsOf_cons, bitsOf_cons,
            List.zipWith_append (by simp), byteBits_xor]
          congr 1
          exact ih second (by simpa using same)

/-- The checksum is linear over exclusive or. -/
theorem smlCrc_xor (left right : Word) (first second : List Byte)
    (same : first.length = second.length) :
    smlCrc (left ^^^ right) (addBytes first second) =
      smlCrc left first ^^^ smlCrc right second := by
  simp only [smlCrc_eq_feedBits]
  rw [bitsOf_addBytes first second same]
  exact feedBits_xor crcPoly left right _ _ (by simp [same])

/-- The two bytes of a word, as `sml_put_u16` writes them. -/
def wordBytes (value : Word) : List Byte :=
  [(value >>> 8).setWidth 8, value.setWidth 8]

theorem smlCrc_wordBytes (crc value : Word) :
    smlCrc crc (wordBytes value) = (shiftBit crcPoly)^[16] (crc ^^^ value) := by
  have loaded : load (w := 16) (bitsOf (wordBytes value)) = value := by
    apply BitVec.eq_of_getLsbD_eq
    intro place bound
    have read := getLsbD_load_get (w := 16) (bitsOf (wordBytes value)) (by simp [wordBytes])
      (15 - place) (by simp [wordBytes]; omega)
    rw [show 16 - 1 - (15 - place) = place by omega] at read
    rw [read]
    interval_cases place <;> simp [bitsOf, byteBits, wordBytes]
  rw [smlCrc_eq_feedBits, feedBits_eq_iterate_load crcPoly crc _ (by simp [wordBytes]), loaded]
  simp [wordBytes]

/-- A message passes its check exactly when the checksum over the message and
the checksum received comes to zero. -/
theorem smlCrc_append_eq_zero_iff (crc value : Word) (data : List Byte) :
    smlCrc crc (data ++ wordBytes value) = 0#16 ↔ smlCrc crc data = value := by
  rw [smlCrc_append, smlCrc_wordBytes]
  constructor
  · intro zero
    apply BitVec.xor_eq_zero_iff.mp
    apply (shiftBit_injective crcPoly crcPoly_odd).iterate 16
    rw [zero, Function.iterate_fixed (shiftBit_zero crcPoly)]
  · rintro rfl
    rw [BitVec.xor_self, Function.iterate_fixed (shiftBit_zero crcPoly)]

end Sml

end GpsClock
