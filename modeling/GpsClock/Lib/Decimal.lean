import Mathlib

/-! # Decimal digits as text

A natural number in its decimal digits, alone or with leading zeros to a width, and the
digits at the head of a text: they read back as the number they were written for
(`Decimal.read_padded`), whatever stands after them (`Decimal.takeWhile_append`).
-/

namespace Decimal

/-- The decimal digits. -/
def digits (number : Nat) : List Char :=
  Nat.toDigits 10 number

/-- The decimal digits, with leading zeros to a width. -/
def padded (width number : Nat) : List Char :=
  List.replicate (width - (digits number).length) '0' ++ digits number

/-- The number that digits say. -/
def read (text : List Char) : Nat :=
  Nat.ofDigitChars 10 text 0

variable {number width : Nat} {text rest : List Char} {char : Char}

theorem digits_isDigit (member : char ∈ digits number) : char.isDigit = true :=
  Nat.isDigit_of_mem_toDigits (by decide) (by decide) member

theorem padded_isDigit (member : char ∈ padded width number) : char.isDigit = true := by
  rcases List.mem_append.mp member with zero | digit
  · rw [List.eq_of_mem_replicate zero]
    rfl
  · exact digits_isDigit digit

theorem digits_length_le (some : 0 < width) (small : number < 10 ^ width) :
    (digits number).length ≤ width :=
  (Nat.length_toDigits_le_iff (by decide) some).mpr small

theorem digits_ne_nil : digits number ≠ [] :=
  Nat.toDigits_ne_nil

/-- A number as long as so many digits has that many. -/
theorem digits_length (low : 10 ^ width ≤ number) (high : number < 10 ^ (width + 1)) :
    (digits number).length = width + 1 := by
  apply le_antisymm (digits_length_le (Nat.succ_pos _) high)
  rcases Nat.eq_zero_or_pos width with rfl | some
  · exact List.length_pos_iff.mpr digits_ne_nil
  · apply Nat.succ_le_of_lt
    apply Nat.lt_of_not_le
    intro few
    exact Nat.not_lt.mpr low ((Nat.length_toDigits_le_iff (by decide) some).mp few)

theorem padded_length (some : 0 < width) (small : number < 10 ^ width) :
    (padded width number).length = width := by
  rw [padded, List.length_append, List.length_replicate,
    Nat.sub_add_cancel (digits_length_le some small)]

@[simp] theorem read_digits : read (digits number) = number :=
  Nat.ofDigitChars_ten_toDigits

@[simp] theorem read_padded : read (padded width number) = number := by
  rw [read, padded, Nat.ofDigitChars_append, Nat.ofDigitChars_replicate_zero, Nat.mul_zero]
  exact read_digits

theorem read_append (text rest : List Char) :
    read (text ++ rest) = 10 ^ rest.length * read text + read rest := by
  rw [read, Nat.ofDigitChars_append, Nat.ofDigitChars_eq_ofDigitChars_zero]
  rfl

theorem read_cons (char : Char) (text : List Char) :
    read (char :: text) = 10 ^ text.length * (char.toNat - '0'.toNat) + read text := by
  have digit : read [char] = char.toNat - '0'.toNat := Nat.zero_add _
  rw [← digit, ← read_append]
  rfl

theorem read_lt (digit : ∀ char ∈ text, char.isDigit = true) : read text < 10 ^ text.length := by
  induction text with
  | nil => exact Nat.one_pos
  | cons char text ih =>
      obtain ⟨here, later⟩ := List.forall_mem_cons.mp digit
      have small : char.toNat - '0'.toNat + 1 ≤ 10 := by
        have high : char.toNat ≤ 57 := (Char.isDigit_iff_toNat.mp here).2
        change char.toNat - 48 + 1 ≤ 10
        omega
      calc read (char :: text)
          < 10 ^ text.length * (char.toNat - '0'.toNat) + 10 ^ text.length := by
            rw [read_cons]
            exact Nat.add_lt_add_left (ih later) _
        _ = 10 ^ text.length * (char.toNat - '0'.toNat + 1) := (Nat.mul_succ _ _).symm
        _ ≤ 10 ^ text.length * 10 := Nat.mul_le_mul_left _ small

/-- A number of so many digits after one that is not zero is as long. -/
theorem le_read (digit : char.isDigit = true) (nonzero : char ≠ '0') :
    10 ^ text.length ≤ read (char :: text) := by
  have positive : 0 < char.toNat - '0'.toNat := by
    have low : 48 ≤ char.toNat := (Char.isDigit_iff_toNat.mp digit).1
    have other : char.toNat ≠ '0'.toNat := fun same => nonzero (Char.toNat_inj.mp same)
    change 0 < char.toNat - 48
    change char.toNat ≠ 48 at other
    omega
  rw [read_cons]
  exact (Nat.le_mul_of_pos_right _ positive).trans (Nat.le_add_right _ _)

/-- Of two numbers of as many digits, the one with the lower first digit is the lower. -/
theorem read_lt_of_head {first second : Char} {a b : List Char} (same : a.length = b.length)
    (digits : ∀ char ∈ a, char.isDigit = true) (digit : first.isDigit = true)
    (lower : first.toNat < second.toNat) : read (first :: a) < read (second :: b) := by
  have step : first.toNat - '0'.toNat + 1 ≤ second.toNat - '0'.toNat := by
    have low : 48 ≤ first.toNat := (Char.isDigit_iff_toNat.mp digit).1
    change first.toNat - 48 + 1 ≤ second.toNat - 48
    omega
  calc read (first :: a)
      < 10 ^ a.length * (first.toNat - '0'.toNat) + 10 ^ a.length := by
        rw [read_cons]
        exact Nat.add_lt_add_left (read_lt digits) _
    _ = 10 ^ b.length * (first.toNat - '0'.toNat + 1) := by rw [same, Nat.mul_succ]
    _ ≤ 10 ^ b.length * (second.toNat - '0'.toNat) := Nat.mul_le_mul_left _ step
    _ ≤ read (second :: b) := by
        rw [read_cons]
        exact Nat.le_add_right _ _

/-- Digits, up to what follows them. -/
theorem takeWhile_append (rest : List Char) (digit : ∀ char ∈ text, char.isDigit = true)
    (ends : ∀ char ∈ rest.head?, char.isDigit = false) :
    (text ++ rest).takeWhile Char.isDigit = text ∧ (text ++ rest).dropWhile Char.isDigit = rest := by
  rw [List.takeWhile_append_of_pos digit, List.dropWhile_append_of_pos digit]
  cases rest with
  | nil => simp
  | cons char rest =>
      have other := ends char rfl
      rw [List.takeWhile_cons, List.dropWhile_cons, other]
      simp

end Decimal
