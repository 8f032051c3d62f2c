import Mathlib

/-! # Two decimal digits in a byte

Binary-coded decimal: the tens in the upper half, the units in the lower. A number of two digits
packed is what its byte's digits read back as (`Bcd.number_pack`), and a byte whose halves are
digits is its number packed (`Bcd.pack_number`).
-/

namespace Bcd

/-- A number's two digits, packed. -/
def pack (number : Nat) : Nat := number / 10 * 16 + number % 10

/-- What a byte's two halves read as. -/
def number (byte : Nat) : Nat := byte / 16 * 10 + byte % 16

/-- Both halves are digits. -/
def Digits (byte : Nat) : Prop := byte / 16 ≤ 9 ∧ byte % 16 ≤ 9

instance (byte : Nat) : Decidable (Digits byte) :=
  inferInstanceAs (Decidable (_ ∧ _))

theorem number_pack (value : Nat) : number (pack value) = value := by
  rw [number, pack]
  omega

theorem pack_number {byte : Nat} (digits : Digits byte) : pack (number byte) = byte := by
  obtain ⟨tens, units⟩ := digits
  rw [number, pack]
  omega

theorem digits_pack {value : Nat} (few : value ≤ 99) : Digits (pack value) := by
  rw [Digits, pack]
  omega

/-- Packing keeps the order. -/
theorem pack_mono {smaller larger : Nat} (le : smaller ≤ larger) : pack smaller ≤ pack larger := by
  rw [pack, pack]
  omega

theorem number_le {byte : Nat} (digits : Digits byte) : number byte ≤ 99 := by
  obtain ⟨tens, units⟩ := digits
  rw [number]
  omega

end Bcd
