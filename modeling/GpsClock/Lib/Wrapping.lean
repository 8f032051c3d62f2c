import Mathlib

/-! # Counters that wrap

A counter of so many bits is read against the timeline it counts: what it shows of a moment
is the moment modulo its range. The difference of two readings is the time between the
moments wherever that is within its range (`Wrapping.toNat_sub`), or, read as a signed
number, within half of it either way (`Wrapping.toInt_sub`).
-/

namespace Wrapping

variable {width earlier later : Nat}

theorem sub_eq (onward : earlier ≤ later) :
    BitVec.ofNat width later - BitVec.ofNat width earlier = BitVec.ofNat width (later - earlier) := by
  obtain ⟨between, rfl⟩ := Nat.exists_eq_add_of_le onward
  rw [BitVec.ofNat_add, Nat.add_sub_cancel_left, BitVec.add_comm, BitVec.add_sub_cancel]

theorem toNat_sub (onward : earlier ≤ later) (within : later - earlier < 2 ^ width) :
    (BitVec.ofNat width later - BitVec.ofNat width earlier).toNat = later - earlier := by
  rw [sub_eq onward, BitVec.toNat_ofNat, Nat.mod_eq_of_lt within]

/-- Whichever of the two moments is the later. -/
theorem toInt_sub {left right : Nat} (low : -2 ^ width ≤ 2 * ((left : Int) - right))
    (high : 2 * ((left : Int) - right) < 2 ^ width) :
    (BitVec.ofNat width left - BitVec.ofNat width right).toInt = (left : Int) - right := by
  have size : ((2 ^ width : Nat) : Int) = 2 ^ width := by push_cast; rfl
  have whole : BitVec.ofNat width left - BitVec.ofNat width right =
      BitVec.ofInt width ((left : Int) - right) := by
    rw [Int.sub_eq_add_neg, BitVec.ofInt_add, BitVec.ofInt_neg, BitVec.ofInt_natCast,
      BitVec.ofInt_natCast, BitVec.sub_eq_add_neg]
  rw [whole, BitVec.toInt_ofInt]
  apply Int.bmod_eq_of_le
  · rw [size]
    omega
  · rw [size]
    omega

/-- As `toInt_sub`, on a timeline that runs both ways. -/
theorem toInt_ofInt_sub {left right : Int} (low : -2 ^ width ≤ 2 * (left - right))
    (high : 2 * (left - right) < 2 ^ width) :
    (BitVec.ofInt width left - BitVec.ofInt width right).toInt = left - right := by
  have size : ((2 ^ width : Nat) : Int) = 2 ^ width := by push_cast; rfl
  rw [BitVec.toInt_sub, BitVec.toInt_ofInt, BitVec.toInt_ofInt, Int.sub_bmod_bmod,
    Int.bmod_sub_bmod]
  apply Int.bmod_eq_of_le
  · rw [size]
    omega
  · rw [size]
    omega

/-- Two moments show alike exactly when whole ranges lie between them. -/
theorem ofNat_eq_iff (left right : Nat) :
    BitVec.ofNat width left = BitVec.ofNat width right ↔ left ≡ right [MOD 2 ^ width] := by
  constructor
  · intro same
    have shown := congrArg BitVec.toNat same
    rwa [BitVec.toNat_ofNat, BitVec.toNat_ofNat] at shown
  · intro same
    apply BitVec.eq_of_toNat_eq
    rwa [BitVec.toNat_ofNat, BitVec.toNat_ofNat]

end Wrapping
