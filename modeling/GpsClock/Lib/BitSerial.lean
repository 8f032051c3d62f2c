import Mathlib

/-! # Bit-serial remainders

A shift register of any width divides a message by its feedback polynomial, one
bit at a time, most significant first. The register is linear over exclusive or
(`BitSerial.feedBits_xor`), and when the polynomial has a constant term its
zero-input step loses nothing (`BitSerial.shiftBit_injective`). Fed from zero, a
message whose set bits lie in a window no longer than the register therefore
leaves a nonzero remainder (`BitSerial.feedBits_burst_ne_zero`): every burst no
longer than the register is detected, wherever it lies.
-/

namespace BitSerial

variable {w : Nat} (poly : BitVec w)

/-- One zero-input step: multiply by the indeterminate, modulo the polynomial. -/
def shiftBit (c : BitVec w) : BitVec w :=
  if c.msb then (c <<< 1) ^^^ poly else c <<< 1

/-- A message bit in the register's top place. -/
def topBit (bit : Bool) : BitVec w :=
  if bit then BitVec.twoPow w (w - 1) else 0#w

/-- One step of the register with a message bit. -/
def feed (c : BitVec w) (bit : Bool) : BitVec w :=
  shiftBit poly (c ^^^ topBit bit)

/-- The register after a message. -/
def feedBits (c : BitVec w) (bits : List Bool) : BitVec w :=
  bits.foldl (feed poly) c

/-- A message no longer than the register, held in its upper end. -/
def load : List Bool → BitVec w
  | [] => 0#w
  | bit :: bits => topBit bit ^^^ (load bits >>> 1)

@[simp] theorem feedBits_nil (c : BitVec w) : feedBits poly c [] = c := rfl

@[simp] theorem feedBits_cons (c : BitVec w) (bit : Bool) (bits : List Bool) :
    feedBits poly c (bit :: bits) = feedBits poly (feed poly c bit) bits := rfl

theorem feedBits_append (c : BitVec w) (first second : List Bool) :
    feedBits poly c (first ++ second) = feedBits poly (feedBits poly c first) second :=
  List.foldl_append ..

@[simp] theorem topBit_false : topBit (w := w) false = 0#w := rfl

theorem topBit_xor (left right : Bool) :
    topBit (w := w) (left ^^ right) = topBit left ^^^ topBit right := by
  cases left <;> cases right <;> simp [topBit]

/-! ## Linearity -/

theorem shiftBit_xor (left right : BitVec w) :
    shiftBit poly (left ^^^ right) = shiftBit poly left ^^^ shiftBit poly right := by
  unfold shiftBit
  rw [BitVec.msb_xor, BitVec.shiftLeft_xor_distrib]
  cases left.msb <;> cases right.msb <;>
    simp only [Bool.xor_false, Bool.xor_true, Bool.not_true, Bool.not_false, ↓reduceIte,
      Bool.false_eq_true]
  · rw [BitVec.xor_assoc]
  · rw [BitVec.xor_assoc, BitVec.xor_assoc, BitVec.xor_comm poly]
  · rw [BitVec.xor_assoc, ← BitVec.xor_assoc poly, BitVec.xor_comm poly, BitVec.xor_assoc,
      BitVec.xor_self, BitVec.xor_zero]

theorem feed_xor (left right : BitVec w) (leftBit rightBit : Bool) :
    feed poly (left ^^^ right) (leftBit ^^ rightBit) =
      feed poly left leftBit ^^^ feed poly right rightBit := by
  unfold feed
  rw [topBit_xor, ← shiftBit_xor]
  congr 1
  ac_rfl

/-- The register is linear in its contents and the message together. -/
theorem feedBits_xor (left right : BitVec w) (first second : List Bool)
    (same : first.length = second.length) :
    feedBits poly (left ^^^ right) (List.zipWith Bool.xor first second) =
      feedBits poly left first ^^^ feedBits poly right second := by
  induction first generalizing left right second with
  | nil =>
      cases second with
      | nil => rfl
      | cons _ _ => simp at same
  | cons bit first ih =>
      cases second with
      | nil => simp at same
      | cons other second =>
          rw [List.zipWith_cons_cons, feedBits_cons, feedBits_cons, feedBits_cons, feed_xor]
          exact ih _ _ _ (by simpa using same)

@[simp] theorem shiftBit_zero : shiftBit poly 0#w = 0#w := by
  simp [shiftBit]

theorem iterate_shiftBit_xor (count : Nat) (left right : BitVec w) :
    (shiftBit poly)^[count] (left ^^^ right) =
      (shiftBit poly)^[count] left ^^^ (shiftBit poly)^[count] right := by
  induction count generalizing left right with
  | zero => rfl
  | succ count ih => simp only [Function.iterate_succ_apply, shiftBit_xor, ih]

/-- Zeros leave only the zero-input steps. -/
theorem feedBits_replicate_false (c : BitVec w) (count : Nat) :
    feedBits poly c (List.replicate count false) = (shiftBit poly)^[count] c := by
  induction count generalizing c with
  | zero => rfl
  | succ count ih =>
      rw [List.replicate_succ, feedBits_cons, ih, Function.iterate_succ_apply, feed, topBit_false,
        BitVec.xor_zero]

/-! ## Injectivity -/

/-- With a constant term in the polynomial, only zero steps to zero: the low bit
of a step tells whether the polynomial was added. -/
theorem shiftBit_eq_zero (odd : poly.getLsbD 0 = true) {c : BitVec w}
    (stepped : shiftBit poly c = 0#w) : c = 0#w := by
  have clear : c.msb = false := by
    by_contra set
    rw [Bool.not_eq_false] at set
    have low := congrArg (fun value : BitVec w => value.getLsbD 0) stepped
    simp [shiftBit, set, odd] at low
  have moved : c <<< 1 = 0#w := by simpa [shiftBit, clear] using stepped
  apply BitVec.eq_of_getLsbD_eq
  intro place bound
  by_cases top : place = w - 1
  · subst top
    rw [← BitVec.msb_eq_getLsbD_last, clear, BitVec.getLsbD_zero]
  · have bit := congrArg (fun value : BitVec w => value.getLsbD (place + 1)) moved
    simp only [BitVec.getLsbD_shiftLeft, Nat.add_sub_cancel, BitVec.getLsbD_zero] at bit
    rw [BitVec.getLsbD_zero]
    simpa [show place + 1 < w by omega] using bit

theorem shiftBit_injective (odd : poly.getLsbD 0 = true) :
    Function.Injective (shiftBit poly) := by
  intro left right same
  have zero : shiftBit poly (left ^^^ right) = 0#w := by
    rw [shiftBit_xor, same, BitVec.xor_self]
  exact BitVec.xor_eq_zero_iff.mp (shiftBit_eq_zero poly odd zero)

/-! ## Messages no longer than the register -/

/-- Only the top places of a loaded message are occupied. -/
theorem getLsbD_load (bits : List Bool) (place : Nat) (below : place + bits.length < w) :
    (load (w := w) bits).getLsbD place = false := by
  induction bits generalizing place with
  | nil => simp [load]
  | cons bit bits ih =>
      rw [List.length_cons] at below
      have rest : (load (w := w) bits).getLsbD (1 + place) = false := ih _ (by omega)
      have top : (topBit (w := w) bit).getLsbD place = false := by
        cases bit with
        | false => simp
        | true => simp [topBit, show w - 1 ≠ place by omega]
      simp [load, rest, top]

/-- The bits of a loaded message, from the top place down. -/
theorem getLsbD_load_get (bits : List Bool) (fits : bits.length ≤ w) (index : Nat)
    (bound : index < bits.length) :
    (load (w := w) bits).getLsbD (w - 1 - index) = bits[index] := by
  induction bits generalizing index with
  | nil => simp at bound
  | cons bit bits ih =>
      rw [List.length_cons] at fits bound
      cases index with
      | zero =>
          have rest : (load (w := w) bits).getLsbD (1 + (w - 1)) = false :=
            BitVec.getLsbD_of_ge _ _ (by omega)
          cases bit <;> simp [load, topBit, rest, show w - 1 < w by omega]
      | succ index =>
          have place : 1 + (w - 1 - (index + 1)) = w - 1 - index := by omega
          have rest := ih (by omega) index (by omega)
          have top : (topBit (w := w) bit).getLsbD (w - 1 - (index + 1)) = false := by
            cases bit with
            | false => simp
            | true => simp [topBit, show w - 1 ≠ w - 1 - (index + 1) by omega]
          simp [load, top, place, rest]

/-- A bit fed later is worth the same loaded one place further down: no bit of it
has been shifted out. -/
theorem feedBits_eq_iterate_load (c : BitVec w) (bits : List Bool) (fits : bits.length ≤ w) :
    feedBits poly c bits = (shiftBit poly)^[bits.length] (c ^^^ load bits) := by
  induction bits generalizing c with
  | nil => simp [load]
  | cons bit bits ih =>
      rw [List.length_cons] at fits
      have unshift : shiftBit poly (load (w := w) bits >>> 1) = load bits := by
        have clear : (load (w := w) bits >>> 1).msb = false := by
          rw [BitVec.msb_eq_getLsbD_last, BitVec.getLsbD_ushiftRight]
          exact BitVec.getLsbD_of_ge _ _ (by omega)
        simp only [shiftBit, clear, Bool.false_eq_true, ↓reduceIte]
        apply BitVec.eq_of_getLsbD_eq
        intro place bound
        cases place with
        | zero =>
            have low : (load (w := w) bits).getLsbD 0 = false := getLsbD_load bits 0 (by omega)
            simp [low]
        | succ place => simp [bound, Nat.add_comm]
      rw [feedBits_cons, ih _ (by omega), List.length_cons, Function.iterate_succ_apply, load,
        ← BitVec.xor_assoc, shiftBit_xor, unshift]
      rfl

/-- A message no longer than the register with a set bit leaves a remainder. -/
theorem feedBits_short_ne_zero (odd : poly.getLsbD 0 = true) (bits : List Bool)
    (fits : bits.length ≤ w) (set : true ∈ bits) : feedBits poly 0#w bits ≠ 0#w := by
  rw [feedBits_eq_iterate_load poly 0#w bits fits, BitVec.zero_xor]
  intro zero
  have empty : load (w := w) bits = 0#w := by
    apply (shiftBit_injective poly odd).iterate bits.length
    rw [zero, Function.iterate_fixed (shiftBit_zero poly)]
  obtain ⟨index, bound, bit⟩ := List.mem_iff_getElem.mp set
  have loaded := getLsbD_load_get bits fits index bound
  rw [empty, BitVec.getLsbD_zero, bit] at loaded
  exact Bool.false_ne_true loaded

/-- **Burst detection.** A nonzero burst no longer than the register leaves a
nonzero remainder, whatever runs of zeros stand around it. -/
theorem feedBits_burst_ne_zero (odd : poly.getLsbD 0 = true) (before after : Nat)
    (burst : List Bool) (fits : burst.length ≤ w) (set : true ∈ burst) :
    feedBits poly 0#w
      (List.replicate before false ++ burst ++ List.replicate after false) ≠ 0#w := by
  rw [feedBits_append, feedBits_append, feedBits_replicate_false, feedBits_replicate_false,
    Function.iterate_fixed (shiftBit_zero poly)]
  intro zero
  apply feedBits_short_ne_zero poly odd burst fits set
  apply (shiftBit_injective poly odd).iterate after
  rw [zero, Function.iterate_fixed (shiftBit_zero poly)]

/-- A window of a list, with everything outside it false, splits the list. -/
theorem eq_replicate_append_window (bits : List Bool) (start span : Nat)
    (outside : ∀ index, (index < start ∨ start + span ≤ index) → bits[index]?.getD false = false) :
    ∃ before after, bits = List.replicate before false ++ (bits.drop start).take span ++
      List.replicate after false := by
  refine ⟨(bits.take start).length, (bits.drop (start + span)).length, ?_⟩
  have head : bits.take start = List.replicate (bits.take start).length false := by
    apply List.eq_replicate_iff.mpr
    refine ⟨rfl, fun bit member => ?_⟩
    obtain ⟨index, bound, rfl⟩ := List.mem_iff_getElem.mp member
    rw [List.length_take] at bound
    have clear := outside index (Or.inl (by omega))
    simpa [show index < bits.length by omega] using clear
  have tail : bits.drop (start + span) =
      List.replicate (bits.drop (start + span)).length false := by
    apply List.eq_replicate_iff.mpr
    refine ⟨rfl, fun bit member => ?_⟩
    obtain ⟨index, bound, rfl⟩ := List.mem_iff_getElem.mp member
    rw [List.length_drop] at bound
    have clear := outside (start + span + index) (Or.inr (by omega))
    simpa [show start + span + index < bits.length by omega] using clear
  rw [← head, ← tail, List.append_assoc, ← List.drop_drop, List.take_append_drop,
    List.take_append_drop]

end BitSerial
