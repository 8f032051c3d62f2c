import GpsClock.Sml.RoundTrip

/-! # Bursts on the wire

A frame whole to its last byte passes its check exactly when the checksum over all
of it, its own checksum included, comes to zero
(`GpsClock.Sml.crcMatches_iff_smlCrc_eq_zero`). By linearity the checksum over a
damaged frame is that of the damage alone, which is not zero for a burst of up to
sixteen bits; the parser therefore never returns such a frame
(`GpsClock.Sml.smlFrame_burst_rejected`).
-/

namespace GpsClock.Sml

open BitSerial

theorem wordBytes_smlGetU16 (high low : Byte) : wordBytes (smlGetU16 high low) = [high, low] := by
  rw [wordBytes, (smlGetU16_bytes high low).1, (smlGetU16_bytes high low).2]

/-- A whole frame passes its check exactly when its bytes have checksum zero. -/
theorem crcMatches_iff_smlCrc_eq_zero (bytes : List Byte)
    (whole : frameTotal bytes = bytes.length) :
    crcMatches bytes = true ↔ smlCrc smlCrcInit bytes = 0#16 := by
  obtain ⟨size, length⟩ : ∃ size, bytes.length = size + 2 := by
    refine ⟨bytes.length - 2, ?_⟩
    rw [← whole, frameTotal, smlCrcBytes]
    exact (Nat.sub_add_cancel (Nat.le_add_left _ _)).symm
  have first : size < bytes.length := by rw [length]; exact Nat.lt_add_of_pos_right Nat.two_pos
  have second : size + 1 < bytes.length := by rw [length]; exact Nat.lt_add_one _
  have split : bytes = bytes.take size ++ wordBytes (smlGetU16 bytes[size] bytes[size + 1]) := by
    have all := List.take_length (l := bytes)
    rw [length, List.take_add_one, List.take_add_one, List.getElem?_eq_getElem first,
      List.getElem?_eq_getElem second, List.append_assoc] at all
    rw [wordBytes_smlGetU16]
    exact all.symm
  have check : crcMatches bytes =
      decide (smlCrc smlCrcInit (bytes.take size) = smlGetU16 bytes[size] bytes[size + 1]) := by
    rw [crcMatches, whole, length, smlCrcBytes, Nat.add_sub_cancel, List.getD_eq_getElem _ _ first,
      List.getD_eq_getElem _ _ second]
  rw [check, decide_eq_true_eq, ← smlCrc_append_eq_zero_iff, ← split]

/-- Every frame's bytes have checksum zero. -/
theorem smlCrc_smlFrame (classId messageId : Byte) (payload : List Byte)
    (fits : payload.length ≤ smlMaxPayloadBytes) :
    smlCrc smlCrcInit (smlFrame classId messageId payload) = 0#16 :=
  (crcMatches_iff_smlCrc_eq_zero _ (frameTotal_smlFrame classId messageId payload fits)).mp
    (crcMatches_smlFrame classId messageId payload fits)

/-! ## Damage -/

theorem length_addBytes (first second : List Byte) (same : second.length = first.length) :
    (addBytes first second).length = first.length := by
  rw [addBytes, List.length_zipWith, same, Nat.min_self]

theorem addBytes_getD (first second : List Byte) (same : second.length = first.length)
    (place : Nat) :
    (addBytes first second).getD place 0 = first.getD place 0 ^^^ second.getD place 0 := by
  by_cases inside : place < first.length
  · have other : place < second.length := same ▸ inside
    have both : place < (addBytes first second).length :=
      (length_addBytes first second same).symm ▸ inside
    rw [List.getD_eq_getElem _ _ both, List.getD_eq_getElem _ _ inside,
      List.getD_eq_getElem _ _ other]
    exact List.getElem_zipWith
  · have none_ := length_addBytes first second same
    rw [List.getD_eq_default _ _ (none_ ▸ Nat.not_lt.mp inside),
      List.getD_eq_default _ _ (Nat.not_lt.mp inside),
      List.getD_eq_default _ _ (same ▸ Nat.not_lt.mp inside)]
    rfl

/-- A nonzero byte has a set bit. -/
theorem true_mem_bitsOf (data : List Byte) (byte : Byte) (member : byte ∈ data)
    (nonzero : byte ≠ 0) : true ∈ bitsOf data := by
  refine List.mem_flatMap.mpr ⟨byte, member, ?_⟩
  clear member
  revert byte
  decide

/-- A burst of up to sixteen bits has a nonzero checksum from zero. -/
theorem smlCrc_burst_ne_zero (error : List Byte) (flipped : ∃ byte ∈ error, byte ≠ 0) (start : Nat)
    (burst : ∀ index, index < start ∨ start + 16 ≤ index →
      (bitsOf error)[index]?.getD false = false) : smlCrc 0#16 error ≠ 0#16 := by
  obtain ⟨byte, member, nonzero⟩ := flipped
  have set := true_mem_bitsOf error byte member nonzero
  obtain ⟨before, after, split⟩ := eq_replicate_append_window (bitsOf error) start 16 burst
  rw [smlCrc_eq_feedBits, split]
  refine feedBits_burst_ne_zero crcPoly crcPoly_odd before after _ (List.length_take_le _ _) ?_
  rw [split] at set
  simpa using set

/-- Damage adds its own checksum. -/
theorem smlCrc_addBytes_smlFrame (classId messageId : Byte) (payload error : List Byte)
    (fits : payload.length ≤ smlMaxPayloadBytes)
    (same : error.length = (smlFrame classId messageId payload).length) :
    smlCrc smlCrcInit (addBytes (smlFrame classId messageId payload) error) =
      smlCrc 0#16 error := by
  have added := smlCrc_xor smlCrcInit 0#16 (smlFrame classId messageId payload) error same.symm
  rw [smlCrc_smlFrame classId messageId payload fits, BitVec.xor_zero, BitVec.zero_xor] at added
  exact added

/-- A whole frame that fails its check costs its first byte. -/
theorem scanBuffer_mismatch (bytes : List Byte) (first : bytes.getD 0 0 = smlMagic1)
    (second : bytes.getD 1 0 = smlMagic2) (fits : headerLength bytes ≤ smlMaxPayloadBytes)
    (whole : frameTotal bytes ≤ bytes.length) (mismatch : crcMatches bytes = false) :
    verdict bytes = .noise ∧
      ∀ consumed stats, scanBuffer consumed bytes stats =
        scanBuffer consumed bytes.tail { stats with crcErrors := stats.crcErrors + 1 }.noise := by
  have header : ¬ bytes.length < smlHeaderBytes := by
    rw [frameTotal, Nat.add_assoc] at whole
    exact Nat.not_lt.mpr (Nat.le_trans (Nat.le_add_right _ _) whole)
  cases bytes with
  | nil => exact (header (by decide)).elim
  | cons start bytes =>
      have magic : ¬ (start ≠ smlMagic1 ∨
          (2 ≤ (start :: bytes).length ∧ (start :: bytes).getD 1 0 ≠ smlMagic2)) := by
        rw [not_or, not_not, not_and, not_not]
        exact ⟨first, fun _ => second⟩
      have inside := Nat.not_lt.mpr fits
      have complete := Nat.not_lt.mpr whole
      constructor
      · simp only [verdict, magic, header, inside, complete, mismatch, ↓reduceIte,
          Bool.false_eq_true]
      · intro consumed stats
        conv => lhs; rw [scanBuffer]
        simp only [magic, header, inside, complete, mismatch, ↓reduceIte, Bool.false_eq_true,
          List.tail_cons]

/-- **Bursts are detected.** A frame damaged by a nonzero burst of up to sixteen
bits that spares both magic bytes and the length fails its check, whatever follows
it, and the parser gives up the byte it starts at. -/
theorem smlFrame_burst_rejected (classId messageId : Byte) (payload error rest : List Byte)
    (fits : payload.length ≤ smlMaxPayloadBytes)
    (same : error.length = (smlFrame classId messageId payload).length)
    (flipped : ∃ byte ∈ error, byte ≠ 0) (start : Nat)
    (burst : ∀ index, index < start ∨ start + 16 ≤ index →
      (bitsOf error)[index]?.getD false = false)
    (spared : ∀ place ∈ [0, 1, 4, 5], error.getD place 0 = 0) :
    let damaged := addBytes (smlFrame classId messageId payload) error ++ rest
    crcMatches damaged = false ∧ verdict damaged = .noise ∧
      ∀ consumed stats, scanBuffer consumed damaged stats =
        scanBuffer consumed damaged.tail
          { stats with crcErrors := stats.crcErrors + 1 }.noise := by
  intro damaged
  have length := length_addBytes _ error same
  have kept : ∀ place ∈ [0, 1, 4, 5],
      (addBytes (smlFrame classId messageId payload) error).getD place 0 =
        (smlFrame classId messageId payload).getD place 0 := fun place member => by
    rw [addBytes_getD _ error same, spared place member]
    exact BitVec.xor_zero
  have framed : smlHeaderBytes ≤ (addBytes (smlFrame classId messageId payload) error).length := by
    rw [length, ← frameTotal_smlFrame classId messageId payload fits, frameTotal, Nat.add_assoc]
    exact Nat.le_add_right _ _
  have header : headerLength (addBytes (smlFrame classId messageId payload) error) =
      payload.length := by
    rw [← headerLength_smlFrame classId messageId payload fits, headerLength, kept 4 (by decide),
      kept 5 (by decide), headerLength]
  have total : frameTotal (addBytes (smlFrame classId messageId payload) error) =
      (addBytes (smlFrame classId messageId payload) error).length := by
    rw [length, ← frameTotal_smlFrame classId messageId payload fits, frameTotal, frameTotal,
      header, headerLength_smlFrame classId messageId payload fits]
  have magic : (addBytes (smlFrame classId messageId payload) error).getD 0 0 = smlMagic1 ∧
      (addBytes (smlFrame classId messageId payload) error).getD 1 0 = smlMagic2 := by
    rw [kept 0 (by decide), kept 1 (by decide), smlFrame_eq classId messageId payload fits]
    exact ⟨rfl, rfl⟩
  have mismatch : crcMatches damaged = false := by
    rw [crcMatches_append _ rest total.le, Bool.eq_false_iff, Ne,
      crcMatches_iff_smlCrc_eq_zero _ total,
      smlCrc_addBytes_smlFrame classId messageId payload error fits same]
    exact smlCrc_burst_ne_zero error flipped start burst
  have front : ∀ place < smlHeaderBytes, damaged.getD place 0 =
      (addBytes (smlFrame classId messageId payload) error).getD place 0 := fun place inside =>
    List.getD_append _ _ _ _ (Nat.lt_of_lt_of_le inside framed)
  refine ⟨mismatch, scanBuffer_mismatch damaged ?_ ?_ ?_ ?_ mismatch⟩
  · rw [front 0 (by decide)]
    exact magic.1
  · rw [front 1 (by decide)]
    exact magic.2
  · rw [headerLength_append _ rest framed, header]
    exact fits
  · rw [frameTotal_append _ rest framed, total, List.length_append]
    exact Nat.le_add_right _ _

/-- An empty payload, one bit of its identifier flipped, a frame's start following. -/
theorem smlFrame_burst_rejected_bit :
    let damaged := addBytes (smlFrame 0x20 0x01 []) [0, 0, 0, 1, 0, 0, 0, 0] ++ [0xB5]
    crcMatches damaged = false ∧ verdict damaged = .noise ∧
      ∀ consumed stats, scanBuffer consumed damaged stats =
        scanBuffer consumed damaged.tail
          { stats with crcErrors := stats.crcErrors + 1 }.noise := by
  refine smlFrame_burst_rejected 0x20 0x01 [] [0, 0, 0, 1, 0, 0, 0, 0] [0xB5] (by decide)
    (by decide) (by decide) 24 (fun index outside => ?_) (by decide)
  have clear : ∀ place < 64, place ≠ 31 →
      (bitsOf [0, 0, 0, 1, 0, 0, 0, 0])[place]?.getD false = false := by decide
  by_cases inside : index < 64
  · exact clear index inside (by omega)
  · rw [List.getElem?_eq_none (by simpa using inside)]
    rfl

end GpsClock.Sml
