import Mathlib

/-! # Numbers in bytes, the least first

A number in so many bytes, the least significant first, and the number bytes spell. As many bytes as
are written keep the number modulo what they hold (`LittleEndian.number_bytes`), and bytes put
together one after another spell what their `or` in place does (`LittleEndian.or_shiftLeft`).
-/

namespace LittleEndian

/-- The number's bytes, so many of them. -/
def bytes (value : Nat) : (size : Nat) → List (BitVec 8)
  | 0 => []
  | size + 1 => BitVec.ofNat 8 value :: bytes (value / 256) size

/-- The number bytes spell. -/
def number : List (BitVec 8) → Nat
  | [] => 0
  | byte :: bytes => byte.toNat + 256 * number bytes

@[simp] theorem length_bytes (value size : Nat) : (bytes value size).length = size := by
  induction size generalizing value with
  | zero => rfl
  | succ size ih => rw [bytes, List.length_cons, ih]

theorem number_bytes (value size : Nat) : number (bytes value size) = value % 256 ^ size := by
  induction size generalizing value with
  | zero => rw [pow_zero, Nat.mod_one, bytes, number]
  | succ size ih =>
      have powers : value % 256 ^ (size + 1) = value % 256 + 256 * (value / 256 % 256 ^ size) := by
        rw [pow_succ', Nat.mod_mul]
      rw [bytes, number, ih, BitVec.toNat_ofNat, powers]

theorem number_lt (bytes : List (BitVec 8)) : number bytes < 256 ^ bytes.length := by
  induction bytes with
  | nil => exact Nat.one_pos
  | cons byte bytes ih =>
      have small := byte.isLt
      rw [number, List.length_cons, pow_succ']
      omega

/-- A byte more is worth its place. -/
theorem number_concat (bytes : List (BitVec 8)) (byte : BitVec 8) :
    number (bytes ++ [byte]) = number bytes + 256 ^ bytes.length * byte.toNat := by
  induction bytes with
  | nil => rw [List.nil_append, number, number, number, List.length_nil]; omega
  | cons first bytes ih =>
      rw [List.cons_append, number, ih, number, List.length_cons, pow_succ', Nat.mul_add,
        Nat.mul_assoc, Nat.add_assoc]

/-- The bytes up to one more place. -/
theorem bytes_succ (value size : Nat) :
    bytes value (size + 1) = bytes value size ++ [BitVec.ofNat 8 (value / 256 ^ size)] := by
  induction size generalizing value with
  | zero => rw [bytes, bytes, bytes, pow_zero, Nat.div_one, List.nil_append]
  | succ size ih =>
      rw [bytes, ih, ← List.cons_append, bytes, Nat.div_div_eq_div_mul, pow_succ']

/-- A word that holds the bytes so far, with the next byte put in its place. -/
theorem or_shiftLeft {width : Nat} {word : BitVec width} {bytes : List (BitVec 8)}
    (holds : word.toNat = number bytes) (byte : BitVec 8) (room : 8 * (bytes.length + 1) ≤ width) :
    (word ||| (byte.setWidth width <<< (8 * bytes.length))).toNat = number (bytes ++ [byte]) := by
  have below := number_lt bytes
  have places : (256 : Nat) ^ bytes.length = 2 ^ (8 * bytes.length) := by
    rw [pow_mul]
    rfl
  have byteFits : byte.toNat < 2 ^ 8 := byte.isLt
  have shifted : byte.toNat * 2 ^ (8 * bytes.length) < 2 ^ width := by
    calc byte.toNat * 2 ^ (8 * bytes.length) < 2 ^ 8 * 2 ^ (8 * bytes.length) :=
          Nat.mul_lt_mul_of_pos_right byteFits (Nat.two_pow_pos _)
      _ = 2 ^ (8 * (bytes.length + 1)) := by rw [← pow_add]; congr 1; omega
      _ ≤ 2 ^ width := Nat.pow_le_pow_right (by decide) room
  have widened : (byte.setWidth width).toNat = byte.toNat := by
    rw [BitVec.toNat_setWidth, Nat.mod_eq_of_lt]
    exact byteFits.trans_le (Nat.pow_le_pow_right (by decide) (by omega))
  rw [BitVec.toNat_or, BitVec.toNat_shiftLeft, widened, Nat.shiftLeft_eq, Nat.mod_eq_of_lt shifted,
    holds, number_concat, places, Nat.or_comm, Nat.mul_comm byte.toNat,
    ← Nat.two_pow_add_eq_or_of_lt (places ▸ below), Nat.add_comm]

end LittleEndian
