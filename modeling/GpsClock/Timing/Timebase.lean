import GpsClock.Lib.Wrapping

/-! # The capture timebase

`pps_capture.c`'s stamps. The timebase is two timers of 16 bits, the upper of which counts a rollover of
the lower one cycle late. A stamp read by software and a stamp captured are both the cycle they were
taken on (`GpsClock.Timing.stamps_true`).
-/

namespace GpsClock.Timing

/-! ## The timers -/

/-- The two timers, and whether the lower has rolled over without the upper having counted it. -/
structure Cascade where
  low : BitVec 16
  high : BitVec 16
  owed : Bool

namespace Cascade

/-- One cycle. -/
def tick (cascade : Cascade) : Cascade where
  low := cascade.low + 1
  high := if cascade.owed then cascade.high + 1 else cascade.high
  owed := decide (cascade.low + 1 = 0)

/-- The timers so many cycles after they were reset. -/
def atCycle : Nat → Cascade
  | 0 => ⟨0, 0, false⟩
  | cycle + 1 => (atCycle cycle).tick

/-- The upper timer shows the rollovers up to the cycle before. -/
theorem atCycle_eq (cycle : Nat) :
    atCycle cycle =
      ⟨BitVec.ofNat 16 cycle, BitVec.ofNat 16 ((cycle - 1) / 2 ^ 16),
        decide (0 < cycle ∧ cycle % 2 ^ 16 = 0)⟩ := by
  induction cycle with
  | zero => rfl
  | succ cycle ih =>
      have low : BitVec.ofNat 16 cycle + 1 = BitVec.ofNat 16 (cycle + 1) :=
        (BitVec.ofNat_add cycle 1).symm
      rw [atCycle, ih, tick]
      dsimp only
      rw [low]
      congr 1
      · rw [Nat.add_sub_cancel]
        by_cases owed : 0 < cycle ∧ cycle % 2 ^ 16 = 0
        · have rolledOver : (cycle - 1) / 2 ^ 16 + 1 = cycle / 2 ^ 16 := by omega
          rw [if_pos (decide_eq_true owed), ← rolledOver, BitVec.ofNat_add]
          rfl
        · have level : (cycle - 1) / 2 ^ 16 = cycle / 2 ^ 16 := by omega
          rw [if_neg (mt of_decide_eq_true owed), level]
      · refine decide_eq_decide.mpr ?_
        refine (Wrapping.ofNat_eq_iff (cycle + 1) 0).trans ?_
        exact ⟨fun same => ⟨Nat.succ_pos _, same⟩, fun both => both.2⟩

end Cascade

/-! ## The stamps -/

/-- `((uint32_t)high << 16) | low`. -/
def joinHalves (high low : BitVec 16) : BitVec 32 :=
  (high.setWidth 32 <<< 16) ||| low.setWidth 32

/-- `pps_capture_timebase`, from its three reads. -/
def ppsCaptureTimebase (high low highAgain : BitVec 16) : BitVec 32 :=
  let high := if high ≠ highAgain ∧ low < 0x8000 then highAgain else high
  joinHalves high low

/-- `join_cascade`, and whether it corrected the capture. -/
def joinCascade (low high : BitVec 16) : BitVec 32 × Bool :=
  let high := if low = 0x0000 then high + 1 else high
  (joinHalves high low, decide (low = 0x0000))

/-- The timebase read by software: the upper half, the lower and the upper again, on these cycles. -/
def timebaseRead (high low highAgain : Nat) : BitVec 32 :=
  ppsCaptureTimebase (Cascade.atCycle high).high (Cascade.atCycle low).low
    (Cascade.atCycle highAgain).high

/-- Both halves latched on one cycle by a capture. -/
def timebaseCaptured (cycle : Nat) : BitVec 32 :=
  (joinCascade (Cascade.atCycle cycle).low (Cascade.atCycle cycle).high).1

theorem toNat_joinHalves (high low : BitVec 16) :
    (joinHalves high low).toNat = high.toNat * 2 ^ 16 + low.toNat := by
  have upper := high.isLt
  have lower := low.isLt
  have shifted : high.toNat <<< 16 < 2 ^ 32 := by
    rw [Nat.shiftLeft_eq]
    omega
  rw [joinHalves, BitVec.toNat_or, BitVec.toNat_shiftLeft, BitVec.toNat_setWidth,
    BitVec.toNat_setWidth, Nat.mod_eq_of_lt (upper.trans (by decide)),
    Nat.mod_eq_of_lt (lower.trans (by decide)), Nat.mod_eq_of_lt shifted,
    ← Nat.shiftLeft_add_eq_or_of_lt lower, Nat.shiftLeft_eq]

/-- The lower half with the rollovers up to its cycle is the cycle. -/
theorem joinHalves_eq {cycle rollovers : Nat} (same : rollovers = cycle / 2 ^ 16) :
    joinHalves (BitVec.ofNat 16 rollovers) (BitVec.ofNat 16 cycle) = BitVec.ofNat 32 cycle := by
  apply BitVec.eq_of_toNat_eq
  rw [toNat_joinHalves, BitVec.toNat_ofNat, BitVec.toNat_ofNat, BitVec.toNat_ofNat, same]
  omega

/-- Of the two reads of the upper half, the lower half's value picks its own. -/
theorem timebaseRead_eq {high low highAgain : Nat} (first : high ≤ low) (second : low < highAgain)
    (within : highAgain - high < 2 ^ 15) : timebaseRead high low highAgain = BitVec.ofNat 32 low := by
  have before : (high - 1) / 2 ^ 16 ≤ low / 2 ^ 16 := Nat.div_le_div_right (by omega)
  have after : low / 2 ^ 16 ≤ (highAgain - 1) / 2 ^ 16 := Nat.div_le_div_right (by omega)
  have lower : (BitVec.ofNat 16 low).toNat = low % 2 ^ 16 := BitVec.toNat_ofNat low 16
  rw [timebaseRead, ppsCaptureTimebase, Cascade.atCycle_eq, Cascade.atCycle_eq, Cascade.atCycle_eq]
  dsimp only
  by_cases moved : (high - 1) / 2 ^ 16 = (highAgain - 1) / 2 ^ 16
  · rw [moved, if_neg fun both => both.1 rfl]
    exact joinHalves_eq (by omega)
  · have once : (highAgain - 1) / 2 ^ 16 = (high - 1) / 2 ^ 16 + 1 := by omega
    have differ : BitVec.ofNat 16 ((high - 1) / 2 ^ 16) ≠ BitVec.ofNat 16 ((highAgain - 1) / 2 ^ 16) := by
      rw [once, Ne, Wrapping.ofNat_eq_iff, Nat.ModEq]
      omega
    by_cases rolledOver : low / 2 ^ 16 = (highAgain - 1) / 2 ^ 16
    · have small : BitVec.ofNat 16 low < 0x8000 := by
        rw [BitVec.lt_def, lower]
        change low % 2 ^ 16 < 2 ^ 15
        omega
      rw [if_pos ⟨differ, small⟩]
      exact joinHalves_eq rolledOver.symm
    · have large : ¬BitVec.ofNat 16 low < 0x8000 := by
        rw [BitVec.lt_def, lower]
        change ¬low % 2 ^ 16 < 2 ^ 15
        omega
      rw [if_neg fun both => large both.2]
      exact joinHalves_eq (by omega)

/-- A capture on the cycle of a rollover is given the rollover the upper half lacks. -/
theorem timebaseCaptured_eq {cycle : Nat} (rolled : 2 ^ 16 ≤ cycle) :
    timebaseCaptured cycle = BitVec.ofNat 32 cycle := by
  rw [timebaseCaptured, joinCascade, Cascade.atCycle_eq]
  dsimp only
  by_cases rolledOver : cycle % 2 ^ 16 = 0
  · have zero : BitVec.ofNat 16 cycle = 0x0000 := (Wrapping.ofNat_eq_iff cycle 0).mpr rolledOver
    have counted : BitVec.ofNat 16 ((cycle - 1) / 2 ^ 16) + 1 =
        BitVec.ofNat 16 ((cycle - 1) / 2 ^ 16 + 1) := (BitVec.ofNat_add _ 1).symm
    rw [if_pos zero, counted]
    exact joinHalves_eq (by omega)
  · have nonzero : BitVec.ofNat 16 cycle ≠ 0x0000 :=
      fun zero => rolledOver ((Wrapping.ofNat_eq_iff cycle 0).mp zero)
    rw [if_neg nonzero]
    exact joinHalves_eq (by omega)

/-- The three reads take less than 2^15 cycles, the last of them a later cycle than the one before. Then
the stamp is the cycle of the read of the lower half; the stamp of a capture after the first rollover is
its cycle; and the two differ by the cycles between them. -/
theorem stamps_true {high low highAgain cycle : Nat} (first : high ≤ low) (second : low < highAgain)
    (within : highAgain - high < 2 ^ 15) (rolled : 2 ^ 16 ≤ cycle) :
    timebaseRead high low highAgain = BitVec.ofNat 32 low ∧
      timebaseCaptured cycle = BitVec.ofNat 32 cycle ∧
      timebaseRead high low highAgain - timebaseCaptured cycle =
        BitVec.ofInt 32 ((low : Int) - cycle) := by
  rw [timebaseRead_eq first second within, timebaseCaptured_eq rolled]
  refine ⟨rfl, rfl, ?_⟩
  rw [Int.sub_eq_add_neg, BitVec.ofInt_add, BitVec.ofInt_neg, BitVec.ofInt_natCast,
    BitVec.ofInt_natCast, BitVec.sub_eq_add_neg]

/-- The reads either side of a rollover, and a capture on one. -/
theorem stamps_true_rollover :
    timebaseRead 65536 65540 65545 = BitVec.ofNat 32 65540 ∧
      timebaseCaptured 131072 = BitVec.ofNat 32 131072 ∧
      timebaseRead 65536 65540 65545 - timebaseCaptured 131072 =
        BitVec.ofInt 32 (((65540 : Nat) : Int) - (131072 : Nat)) :=
  stamps_true (by decide) (by decide) (by decide) (by decide)

end GpsClock.Timing
