import GpsClock.Sml.Batch

/-! # The wire round trip

A frame built by `sml_frame` is complete at its last byte and not before, since a
verdict once reached stands (`GpsClock.Sml.verdict_take_smlFrame`). Pushed into a
parser whose buffer holds nothing, it is therefore returned on its last byte with
its class, identifier and payload, whatever the payload contains, and decoding
the payload by the message's layout gives the sender's struct back
(`GpsClock.Sml.smlMessage_round_trip`).
-/

namespace GpsClock.Sml

/-! ## A frame is complete at its last byte -/

theorem smlFrame_eq (classId messageId : Byte) (payload : List Byte)
    (fits : payload.length ≤ smlMaxPayloadBytes) :
    smlFrame classId messageId payload =
      smlMagic1 :: smlMagic2 :: classId :: messageId ::
        (wordBytes (BitVec.ofNat 16 payload.length) ++ payload ++
          wordBytes (smlCrc smlCrcInit (smlMagic1 :: smlMagic2 :: classId :: messageId ::
            (wordBytes (BitVec.ofNat 16 payload.length) ++ payload)))) := by
  rw [smlFrame, if_neg (Nat.not_lt.mpr fits)]
  simp

theorem length_smlFrame (classId messageId : Byte) (payload : List Byte)
    (fits : payload.length ≤ smlMaxPayloadBytes) :
    (smlFrame classId messageId payload).length = payload.length + 8 := by
  simp [smlFrame_eq classId messageId payload fits, wordBytes]

theorem headerLength_smlFrame (classId messageId : Byte) (payload : List Byte)
    (fits : payload.length ≤ smlMaxPayloadBytes) :
    headerLength (smlFrame classId messageId payload) = payload.length := by
  have small : payload.length < 2 ^ 16 := by
    rw [smlMaxPayloadBytes] at fits
    omega
  rw [smlFrame_eq classId messageId payload fits, headerLength]
  simp only [wordBytes, List.cons_append, List.nil_append, List.getD_cons_succ,
    List.getD_cons_zero]
  rw [smlGetU16_wordBytes, BitVec.toNat_ofNat, Nat.mod_eq_of_lt small]

theorem frameTotal_smlFrame (classId messageId : Byte) (payload : List Byte)
    (fits : payload.length ≤ smlMaxPayloadBytes) :
    frameTotal (smlFrame classId messageId payload) =
      (smlFrame classId messageId payload).length := by
  rw [frameTotal, headerLength_smlFrame classId messageId payload fits,
    length_smlFrame classId messageId payload fits]
  simp only [smlHeaderBytes, smlCrcBytes]
  omega

theorem crcMatches_smlFrame (classId messageId : Byte) (payload : List Byte)
    (fits : payload.length ≤ smlMaxPayloadBytes) :
    crcMatches (smlFrame classId messageId payload) = true := by
  have total : frameTotal (smlFrame classId messageId payload) - smlCrcBytes =
      (smlMagic1 :: smlMagic2 :: classId :: messageId ::
        (wordBytes (BitVec.ofNat 16 payload.length) ++ payload)).length := by
    rw [frameTotal_smlFrame classId messageId payload fits,
      length_smlFrame classId messageId payload fits]
    simp [smlCrcBytes, wordBytes]
  have split : smlFrame classId messageId payload =
      (smlMagic1 :: smlMagic2 :: classId :: messageId ::
        (wordBytes (BitVec.ofNat 16 payload.length) ++ payload)) ++
      wordBytes (smlCrc smlCrcInit (smlMagic1 :: smlMagic2 :: classId :: messageId ::
        (wordBytes (BitVec.ofNat 16 payload.length) ++ payload))) := by
    rw [smlFrame_eq classId messageId payload fits]
    simp
  rw [crcMatches, total, split]
  simp only [List.take_left, List.getD_eq_getElem?_getD, decide_eq_true_eq]
  rw [List.getElem?_append_right (Nat.le_refl _), List.getElem?_append_right (Nat.le_add_right _ 1),
    Nat.sub_self, Nat.add_sub_cancel_left]
  exact (smlGetU16_wordBytes _).symm

theorem verdict_smlFrame (classId messageId : Byte) (payload : List Byte)
    (fits : payload.length ≤ smlMaxPayloadBytes) :
    verdict (smlFrame classId messageId payload) = .complete := by
  have length := length_smlFrame classId messageId payload fits
  have header := headerLength_smlFrame classId messageId payload fits
  have total := frameTotal_smlFrame classId messageId payload fits
  have matching := crcMatches_smlFrame classId messageId payload fits
  have magic : ∃ rest, smlFrame classId messageId payload = smlMagic1 :: smlMagic2 :: rest :=
    ⟨_, smlFrame_eq classId messageId payload fits⟩
  obtain ⟨rest, shape⟩ := magic
  rw [shape] at length header total matching ⊢
  simp only [verdict, header, total, matching, length, lt_self_iff_false, ↓reduceIte]
  have room : ¬ payload.length + 8 < smlHeaderBytes := by
    unfold smlHeaderBytes
    omega
  simp [room, fits]

theorem frameOf_smlFrame (classId messageId : Byte) (payload : List Byte)
    (fits : payload.length ≤ smlMaxPayloadBytes) :
    frameOf (smlFrame classId messageId payload) =
      ⟨classId, messageId, payload.length, payload⟩ := by
  have header := headerLength_smlFrame classId messageId payload fits
  rw [frameOf, header, smlFrame_eq classId messageId payload fits]
  simp [wordBytes, smlHeaderBytes]

/-- Before its last byte a frame is only one that could still start. -/
theorem verdict_take_smlFrame (classId messageId : Byte) (payload : List Byte)
    (fits : payload.length ≤ smlMaxPayloadBytes) (count : Nat)
    (short : count < (smlFrame classId messageId payload).length) :
    verdict ((smlFrame classId messageId payload).take count) = .open_ := by
  by_contra resolved
  have whole := verdict_smlFrame classId messageId payload fits
  have total := frameTotal_smlFrame classId messageId payload fits
  have split := List.take_append_drop count (smlFrame classId messageId payload)
  have same := verdict_append ((smlFrame classId messageId payload).drop count) resolved
  rw [split, whole] at same
  have complete := verdict_complete same.symm
  have longer := frameTotal_append _ ((smlFrame classId messageId payload).drop count) complete.1
  rw [split, total] at longer
  have taken := complete.2.2
  rw [← longer, List.length_take] at taken
  omega

/-! ## Pushing it -/

/-- A parser fed some bytes, one by one: what each call returned. -/
def pushAll : SmlParser → List Byte → List (Option SmlFrame) × SmlParser
  | parser, [] => ([], parser)
  | parser, byte :: bytes =>
      let pushed := smlParserPush parser byte
      let later := pushAll pushed.2 bytes
      (pushed.1 :: later.1, later.2)

theorem pushAll_append (parser : SmlParser) (first second : List Byte) :
    pushAll parser (first ++ second) =
      ((pushAll parser first).1 ++ (pushAll (pushAll parser first).2 second).1,
        (pushAll (pushAll parser first).2 second).2) := by
  induction first generalizing parser with
  | nil => rfl
  | cons byte first ih => simp only [List.cons_append, pushAll, ih]

theorem smlParserPush_eq (parser : SmlParser) (byte : Byte) :
    smlParserPush parser byte = scanBuffer 0 (parser.unreleased ++ [byte]) parser.stats := by
  simp only [smlParserPush, release_eq, scan]

/-- Bytes that cannot start a frame leave an empty buffer empty. -/
theorem pushAll_noise (lead : List Byte) (other : ∀ byte ∈ lead, byte ≠ smlMagic1)
    (parser : SmlParser) (empty : parser.unreleased = []) :
    (pushAll parser lead).1 = List.replicate lead.length none ∧
      (pushAll parser lead).2.unreleased = [] := by
  induction lead generalizing parser with
  | nil => exact ⟨rfl, empty⟩
  | cons byte lead ih =>
      have differs := other byte List.mem_cons_self
      have dropped : smlParserPush parser byte = (none, ⟨[], 0, parser.stats.noise⟩) := by
        rw [smlParserPush_eq, empty]
        simp [scanBuffer, differs]
      have later := ih (fun next member => other next (List.mem_cons_of_mem _ member))
        ⟨[], 0, parser.stats.noise⟩ rfl
      simp only [pushAll, dropped, List.length_cons, List.replicate_succ]
      exact ⟨congrArg _ later.1, later.2⟩

/-- A scan that stops at its front byte. -/
theorem scanBuffer_open {consumed : Nat} {bytes : List Byte} {stats : SmlParserStats}
    (unresolved : verdict bytes = .open_) :
    scanBuffer consumed bytes stats = (none, ⟨bytes, consumed, stats⟩) := by
  cases bytes with
  | nil => rfl
  | cons first rest =>
      obtain ⟨_, scanned⟩ | ⟨found, _⟩ | ⟨found, _⟩ := scanBuffer_cons consumed first rest stats
      · exact scanned
      · rw [unresolved] at found
        cases found
      · rw [unresolved] at found
        cases found

theorem scanBuffer_complete {consumed : Nat} {bytes : List Byte} {stats : SmlParserStats}
    (complete : verdict bytes = .complete) :
    scanBuffer consumed bytes stats =
      (some (frameOf bytes),
        ⟨bytes, frameTotal bytes, { stats with frames := stats.frames + 1 }⟩) := by
  cases bytes with
  | nil => cases complete
  | cons first rest =>
      obtain ⟨found, _⟩ | ⟨_, scanned⟩ | ⟨found, _⟩ := scanBuffer_cons consumed first rest stats
      · rw [complete] at found
        cases found
      · exact scanned
      · rw [complete] at found
        cases found

/-- A frame's bytes up to any before its last only fill the buffer. -/
theorem pushAll_take_smlFrame (classId messageId : Byte) (payload : List Byte)
    (fits : payload.length ≤ smlMaxPayloadBytes) (parser : SmlParser)
    (empty : parser.unreleased = []) (count : Nat)
    (short : count < (smlFrame classId messageId payload).length) :
    (pushAll parser ((smlFrame classId messageId payload).take count)).1 =
        List.replicate count none ∧
      (pushAll parser ((smlFrame classId messageId payload).take count)).2.unreleased =
        (smlFrame classId messageId payload).take count := by
  induction count with
  | zero => exact ⟨rfl, empty⟩
  | succ count ih =>
      obtain ⟨results, buffered⟩ := ih (by omega)
      have unresolved := verdict_take_smlFrame classId messageId payload fits (count + 1) short
      rw [List.take_add_one, List.getElem?_eq_getElem (by omega), Option.toList_some] at unresolved ⊢
      rw [pushAll_append, results]
      simp only [pushAll, smlParserPush_eq, buffered, scanBuffer_open unresolved]
      exact ⟨List.replicate_succ'.symm, rfl⟩

/-- A frame pushed into an empty parser is returned on its last byte, and nothing
is left to return after it. -/
theorem pushAll_smlFrame (classId messageId : Byte) (payload : List Byte)
    (fits : payload.length ≤ smlMaxPayloadBytes) (parser : SmlParser)
    (empty : parser.unreleased = []) :
    (pushAll parser (smlFrame classId messageId payload)).1 =
        List.replicate (payload.length + 7) none ++
          [some ⟨classId, messageId, payload.length, payload⟩] ∧
      (smlParserNext (pushAll parser (smlFrame classId messageId payload)).2).1 = none := by
  have length := length_smlFrame classId messageId payload fits
  have split : smlFrame classId messageId payload =
      (smlFrame classId messageId payload).take (payload.length + 7) ++
        [(smlFrame classId messageId payload)[payload.length + 7]] := by
    conv => lhs; rw [← List.take_length (l := smlFrame classId messageId payload), length]
    rw [List.take_add_one, List.getElem?_eq_getElem (by omega), Option.toList_some]
  obtain ⟨results, buffered⟩ := pushAll_take_smlFrame classId messageId payload fits parser empty
    (payload.length + 7) (by omega)
  have whole := verdict_smlFrame classId messageId payload fits
  have total := frameTotal_smlFrame classId messageId payload fits
  have last : pushAll parser (smlFrame classId messageId payload) =
      (List.replicate (payload.length + 7) none ++
          [some ⟨classId, messageId, payload.length, payload⟩],
        ⟨smlFrame classId messageId payload, frameTotal (smlFrame classId messageId payload),
          { (pushAll parser ((smlFrame classId messageId payload).take
              (payload.length + 7))).2.stats with
            frames := (pushAll parser ((smlFrame classId messageId payload).take
              (payload.length + 7))).2.stats.frames + 1 }⟩) := by
    conv => lhs; rw [split]
    rw [pushAll_append, results]
    simp only [pushAll, smlParserPush_eq, buffered]
    rw [← split, scanBuffer_complete whole, frameOf_smlFrame classId messageId payload fits]
  refine ⟨by rw [last], ?_⟩
  rw [last, smlParserNext, release_eq, SmlParser.unreleased, total, List.drop_length]
  rfl

/-! ## The round trip -/

/-- Some bytes, as memory. -/
def bytesAt (bytes : List Byte) : Memory := fun index => bytes.getD index 0

/-- A message of fixed length is framed whole, its payload being the encoder's output. -/
theorem smlFrameMessage_of_mem (order : ByteOrder) (message : SmlMessage)
    (member : message ∈ messages) (fixed : message.length ≠ 0) (native buffer : Memory) :
    ∃ payload, payload.length = message.length ∧
      smlFrameMessage order message.classId message.messageId native buffer =
        smlFrame message.classId message.messageId payload ∧
      ∀ index < message.length, bytesAt payload index =
        (smlEncode order message.layout native fun place =>
          buffer (smlHeaderBytes + place)).1 index := by
  refine ⟨_, ?_, by rw [smlFrameMessage, smlMessage_of_mem message member]
                    exact if_neg fixed, fun index inside => ?_⟩
  · simp
  · simp [bytesAt, inside]

/-- Decoding reads no byte past the layout. -/
theorem smlDecode_congr (order : ByteOrder) (layout : Layout) (plain : layout.Plain)
    (short : layout.sum < 2 ^ 16) (first second native : Memory)
    (same : ∀ index < layout.sum, first index = second index) :
    (smlDecode order layout first native).1 = (smlDecode order layout second native).1 := by
  funext index
  rw [(smlDecode_apply order layout plain short _ _).2,
    (smlDecode_apply order layout plain short _ _).2]
  split
  · next inside => rw [same _ (fieldPlace_lt order layout index inside)]
  · rfl

theorem smlEncode_congr (order : ByteOrder) (layout : Layout) (plain : layout.Plain)
    (short : layout.sum < 2 ^ 16) (first second wire : Memory)
    (same : ∀ index < layout.sum, first index = second index) :
    (smlEncode order layout first wire).1 = (smlEncode order layout second wire).1 := by
  funext index
  rw [(smlEncode_apply order layout plain short _ _).2,
    (smlEncode_apply order layout plain short _ _).2]
  split
  · next inside => rw [same _ (fieldPlace_lt order layout index inside)]
  · rfl

/-- **The wire round trip.** A message of fixed length, framed and pushed into a
parser holding nothing, after any bytes that cannot start a frame, comes back on
its last byte and only there, and decodes to the sender's struct. For a layout of
plain fields shorter than the offset's range, encoding undoes decoding, and both
read and write the layout's bytes and no other. -/
theorem smlMessage_round_trip (order : ByteOrder) :
    (∀ message ∈ messages, message.length ≠ 0 →
      ∀ (native buffer blank : Memory) (lead : List Byte) (parser : SmlParser),
        (∀ byte ∈ lead, byte ≠ smlMagic1) → parser.unreleased = [] →
        ∃ received : SmlFrame,
          let frame := smlFrameMessage order message.classId message.messageId native buffer
          let pushed := pushAll parser (lead ++ frame)
          frame.length = message.length + 8 ∧
          pushed.1 = List.replicate (lead.length + (message.length + 7)) none ++ [some received] ∧
          (smlParserNext pushed.2).1 = none ∧
          received.classId = message.classId ∧ received.messageId = message.messageId ∧
          received.length = message.length ∧ received.payload.length = message.length ∧
          ∀ index < message.length,
            (smlDecode order message.layout (bytesAt received.payload) blank).1 index =
              native index) ∧
    ∀ layout : Layout, layout.Plain → layout.sum < 2 ^ 16 → ∀ wire native blank : Memory,
      (∀ index < layout.sum,
        (smlEncode order layout (smlDecode order layout wire native).1 blank).1 index =
          wire index) ∧
      (smlDecode order layout wire native).2 = layout.sum ∧
      (smlEncode order layout native blank).2 = layout.sum ∧
      (∀ index, layout.sum ≤ index →
        (smlDecode order layout wire native).1 index = native index ∧
          (smlEncode order layout native blank).1 index = blank index) ∧
      ∀ other : Memory,
        ((∀ index < layout.sum, wire index = other index) →
          (smlDecode order layout wire native).1 = (smlDecode order layout other native).1) ∧
        ((∀ index < layout.sum, native index = other index) →
          (smlEncode order layout native blank).1 = (smlEncode order layout other blank).1) := by
  constructor
  · intro message member fixed native buffer blank lead parser other empty
    obtain ⟨plain, total, fits⟩ := layout_of_mem message member
    obtain ⟨payload, length, framed, encoded⟩ :=
      smlFrameMessage_of_mem order message member fixed native buffer
    rw [← length] at fits
    obtain ⟨quiet, dropped⟩ := pushAll_noise lead other parser empty
    obtain ⟨results, settled⟩ :=
      pushAll_smlFrame message.classId message.messageId payload fits _ dropped
    refine ⟨⟨message.classId, message.messageId, payload.length, payload⟩, ?_⟩
    simp only [framed, pushAll_append, quiet, results, settled, length, true_and,
      length_smlFrame message.classId message.messageId payload fits]
    refine ⟨by rw [← List.append_assoc, List.replicate_append_replicate], fun index inside => ?_⟩
    have short : message.layout.sum < 2 ^ 16 := by omega
    rw [smlDecode_congr order message.layout plain short (bytesAt payload) _ blank
      fun place inside => encoded place (by omega)]
    exact smlDecode_smlEncode order message.layout plain short native _ blank index (by omega)
  · intro layout plain short wire native blank
    obtain ⟨decoded, decodedAt⟩ := smlDecode_apply order layout plain short wire native
    obtain ⟨encoded, encodedAt⟩ := smlEncode_apply order layout plain short native blank
    refine ⟨smlEncode_smlDecode order layout plain short wire native blank, decoded, encoded,
      fun index outside => ?_, fun other => ⟨fun same => ?_, fun same => ?_⟩⟩
    · rw [decodedAt, encodedAt, if_neg (Nat.not_lt.mpr outside), if_neg (Nat.not_lt.mpr outside)]
      exact ⟨rfl, rfl⟩
    · exact smlDecode_congr order layout plain short wire other native same
    · exact smlEncode_congr order layout plain short native other blank same

/-- The offset is a `uint16_t`: a layout longer than its range is never encoded to
its end. -/
theorem smlEncode_long_layout :
    ¬ ∀ (order : ByteOrder) (layout : Layout), layout.Plain → ∀ wire native blank : Memory,
      ∀ index < layout.sum,
        (smlEncode order layout (smlDecode order layout wire native).1 blank).1 index =
          wire index := by
  intro undone
  have plain : Layout.Plain (List.replicate (2 ^ 16 + 4) 1) :=
    fun size member => .inl (List.eq_of_mem_replicate member)
  have inside : 2 ^ 16 + 3 < (List.replicate (2 ^ 16 + 4) 1).sum := by
    rw [List.sum_replicate_nat]
    decide
  have claimed := undone .little _ plain (fun _ => 1) (fun _ => 0) (fun _ => 0) _ inside
  rw [smlEncode, (encodeField_mirrors .little _).walkFields_far _ plain 0 (by decide) _ _
    (Nat.le_refl _)] at claimed
  cases claimed

end GpsClock.Sml
