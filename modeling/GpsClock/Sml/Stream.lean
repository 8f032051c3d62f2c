import GpsClock.Sml.Burst
import GpsClock.Sml.Silence

/-! # A stream of frames and text

The ESP keeps beside the parser a mirror of its buffer (`sml_stream.cpp`). The parser
drops bytes from the front alone, as noise it counts or as a frame it returned, so the
growth of its counter says how much of the mirror is text, and a frame's length how much
is that frame. The mirror is then the parser's buffer again after every call, and the text
and the frames handed on are the bytes received, each once and in order
(`GpsClock.Sml.SmlStream.nothing_lost`).
-/

namespace GpsClock.Sml

open Framing (Heard)

/-- A call of `on_text` or of `on_frame`. -/
inductive StreamEvent
  | text (bytes : List Byte)
  | frame (frame : SmlFrame)
  deriving DecidableEq, Repr

/-- `sizeof(stream->mirror)`. -/
def smlMirrorBytes : Nat := smlMaxFrameBytes + 1

/-- The mirror is its first `count` bytes. -/
structure SmlStream where
  parser : SmlParser := smlParserInit
  mirror : List Byte := []
  noiseSeen : BitVec 32 := 0
  deriving DecidableEq, Repr

namespace SmlStream

/-- `drop`. -/
def drop (stream : SmlStream) (bytes : Nat) (text : Bool) : List StreamEvent × SmlStream :=
  let bytes := min bytes stream.mirror.length
  (if text ∧ bytes ≠ 0 then [.text (stream.mirror.take bytes)] else [],
    { stream with mirror := stream.mirror.drop bytes })

/-- `account_noise`. -/
def accountNoise (stream : SmlStream) : List StreamEvent × SmlStream :=
  let noise := stream.parser.stats.noiseBytes - stream.noiseSeen
  { stream with noiseSeen := stream.parser.stats.noiseBytes }.drop (noise.setWidth 16).toNat true

/-- `sml_stream_push`'s loop, after a call that returned `found`; a turn for each byte
buffered is enough. -/
def frames : Nat → Option SmlFrame → SmlStream → List StreamEvent × SmlStream
  | _, none, stream => ([], stream)
  | 0, some _, stream => ([], stream)
  | turns + 1, some frame, stream =>
      let (_, stream) := stream.drop (smlHeaderBytes + frame.length + smlCrcBytes) false
      let (found, parser) := smlParserNext stream.parser
      let (text, stream) := { stream with parser := parser }.accountNoise
      let (events, final) := frames turns found stream
      (.frame frame :: text ++ events, final)

/-- `sml_stream_push`. -/
def push (stream : SmlStream) (byte : Byte) : List StreamEvent × SmlStream :=
  let stream :=
    if stream.mirror.length < smlMirrorBytes then
      { stream with mirror := stream.mirror ++ [byte] }
    else stream
  let (found, parser) := smlParserPush stream.parser byte
  let (text, stream) := { stream with parser := parser }.accountNoise
  let (events, final) := stream.frames (parser.count + 1) found
  (text ++ events, final)

/-- `sml_stream_timeout`. -/
def timeout (stream : SmlStream) : List StreamEvent × SmlStream :=
  let (dropped, parser) := smlParserTimeout stream.parser
  if dropped then { stream with parser := parser }.accountNoise
  else ([], { stream with parser := parser })

def hear (stream : SmlStream) : Heard Byte → List StreamEvent × SmlStream
  | .byte byte => stream.push byte
  | .silence => stream.timeout

def hearAll : SmlStream → List (Heard Byte) → List StreamEvent × SmlStream
  | stream, [] => ([], stream)
  | stream, heard :: later =>
      let (events, next) := stream.hear heard
      let (more, final) := hearAll next later
      (events ++ more, final)

end SmlStream

/-! ## A frame's bytes -/

/-- A frame as it is sent: header, payload and checksum. -/
def SmlFrame.wire (frame : SmlFrame) : List Byte :=
  smlFrame frame.classId frame.messageId frame.payload

def StreamEvent.bytes : StreamEvent → List Byte
  | .text bytes => bytes
  | .frame sent => sent.wire

/-- The bytes handed on as text. -/
def StreamEvent.textBytes : StreamEvent → List Byte
  | .text bytes => bytes
  | .frame _ => []

/-- What the checks of a complete frame found. -/
theorem verdict_complete_checks {bytes : List Byte} (complete : verdict bytes = .complete) :
    bytes.getD 0 0 = smlMagic1 ∧ bytes.getD 1 0 = smlMagic2 ∧ crcMatches bytes = true := by
  have header := (verdict_complete complete).1
  cases bytes with
  | nil => cases complete
  | cons first rest =>
      have two : 2 ≤ (first :: rest).length := Nat.le_trans (by decide) header
      simp only [verdict] at complete
      split at complete
      · cases complete
      · next magic =>
          rw [not_or, not_and, not_not, not_not] at magic
          split at complete
          · cases complete
          · split at complete
            · cases complete
            · split at complete
              · cases complete
              · split at complete
                · next matching => exact ⟨magic.1, magic.2 two, matching⟩
                · cases complete

/-- A list of six bytes or more. -/
theorem exists_header {bytes : List Byte} (header : smlHeaderBytes ≤ bytes.length) :
    ∃ first second classId messageId high low rest,
      bytes = first :: second :: classId :: messageId :: high :: low :: rest := by
  match bytes, header with
  | first :: second :: classId :: messageId :: high :: low :: rest, _ =>
      exact ⟨first, second, classId, messageId, high, low, rest, rfl⟩

/-- A frame returned is sent as the bytes it was received as. -/
theorem wire_frameOf {bytes : List Byte} (complete : verdict bytes = .complete) :
    (frameOf bytes).wire = bytes.take (frameTotal bytes) := by
  obtain ⟨header, fits, whole⟩ := verdict_complete complete
  obtain ⟨magic, other, matching⟩ := verdict_complete_checks complete
  obtain ⟨first, second, classId, messageId, high, low, rest, rfl⟩ := exists_header header
  obtain rfl : first = smlMagic1 := magic
  obtain rfl : second = smlMagic2 := other
  obtain ⟨length, sized⟩ : ∃ length, length = (smlGetU16 high low).toNat := ⟨_, rfl⟩
  have claimed : headerLength (smlMagic1 :: smlMagic2 :: classId :: messageId :: high :: low :: rest) =
      length := sized.symm
  have total : frameTotal (smlMagic1 :: smlMagic2 :: classId :: messageId :: high :: low :: rest) =
      length + 2 + 6 := by
    rw [frameTotal, claimed, smlHeaderBytes, smlCrcBytes]
    omega
  have room : length + 2 ≤ rest.length := by
    rw [total] at whole
    simpa using whole
  have taken : (rest.take length).length = length := by
    rw [List.length_take]
    omega
  have word : wordBytes (BitVec.ofNat 16 (rest.take length).length) = [high, low] := by
    rw [taken, sized, BitVec.ofNat_toNat, BitVec.setWidth_eq, wordBytes_smlGetU16]
  have head : (smlMagic1 :: smlMagic2 :: classId :: messageId :: high :: low :: rest).take
      (length + 6) = smlMagic1 :: smlMagic2 :: classId :: messageId ::
        ([high, low] ++ rest.take length) := rfl
  have check : wordBytes (smlCrc smlCrcInit (smlMagic1 :: smlMagic2 :: classId :: messageId ::
      ([high, low] ++ rest.take length))) = [rest.getD length 0, rest.getD (length + 1) 0] := by
    have last : length + 2 + 6 - smlCrcBytes = length + 6 := by
      rw [smlCrcBytes]
      omega
    rw [crcMatches, total, decide_eq_true_eq, last, head] at matching
    rw [matching]
    exact wordBytes_smlGetU16 _ _
  have split : rest.take (length + 2) =
      rest.take length ++ [rest.getD length 0, rest.getD (length + 1) 0] := by
    rw [List.take_add_one, List.take_add_one, List.getElem?_eq_getElem (by omega),
      List.getElem?_eq_getElem (by omega), List.getD_eq_getElem _ _ (by omega),
      List.getD_eq_getElem _ _ (by omega), List.append_assoc]
    rfl
  have sent : (frameOf (smlMagic1 :: smlMagic2 :: classId :: messageId :: high :: low :: rest)).wire =
      smlFrame classId messageId (rest.take length) := by
    rw [SmlFrame.wire, frameOf, claimed]
    rfl
  rw [claimed] at fits
  rw [sent, total, smlFrame_eq _ _ _ (taken.le.trans fits), word, check, List.append_assoc, ← split]
  rfl

/-! ## The mirror -/

/-- The call of `on_text` for some dropped bytes; none for no byte. -/
def handed (dropped : List Byte) : List StreamEvent :=
  if dropped.length ≠ 0 then [.text dropped] else []

theorem handed_bytes (dropped : List Byte) : (handed dropped).flatMap StreamEvent.bytes = dropped := by
  rw [handed]
  by_cases empty : dropped.length = 0
  · rw [if_neg (not_not.mpr empty), List.length_eq_zero_iff.mp empty]
    rfl
  · rw [if_pos empty, List.flatMap_singleton, StreamEvent.bytes]

theorem handed_textBytes (dropped : List Byte) :
    (handed dropped).flatMap StreamEvent.textBytes = dropped := by
  rw [handed]
  by_cases empty : dropped.length = 0
  · rw [if_neg (not_not.mpr empty), List.length_eq_zero_iff.mp empty]
    rfl
  · rw [if_pos empty, List.flatMap_singleton, StreamEvent.textBytes]

namespace SmlStream

/-- The bytes at the mirror's front that the parser counted since are handed on. -/
theorem accountNoise_of_dropped (stream : SmlStream) {dropped held : List Byte}
    (mirror : stream.mirror = dropped ++ held) (short : dropped.length < 2 ^ 16)
    (counted : stream.parser.stats.noiseBytes =
      stream.noiseSeen + BitVec.ofNat 32 dropped.length) :
    stream.accountNoise =
      (handed dropped,
        { stream with mirror := held, noiseSeen := stream.parser.stats.noiseBytes }) := by
  have grown : ((stream.parser.stats.noiseBytes - stream.noiseSeen).setWidth 16).toNat =
      dropped.length := by
    have cancel : stream.parser.stats.noiseBytes - stream.noiseSeen =
        BitVec.ofNat 32 dropped.length := by
      rw [counted, BitVec.add_comm, BitVec.add_sub_cancel]
    rw [cancel, BitVec.toNat_setWidth, BitVec.toNat_ofNat, Nat.mod_eq_of_lt (short.trans (by decide)),
      Nat.mod_eq_of_lt short]
  have inside : min dropped.length stream.mirror.length = dropped.length := by
    rw [mirror, List.length_append]
    exact Nat.min_eq_left (Nat.le_add_right _ _)
  rw [accountNoise, grown, drop]
  dsimp only
  rw [inside, mirror, List.take_left, List.drop_left, handed]
  simp only [true_and]

/-- What some calls made of the bytes held before them. -/
structure Split (noise : BitVec 32) (bytes : List Byte)
    (result : List StreamEvent × SmlStream) : Prop where
  placed : result.1.flatMap StreamEvent.bytes ++ result.2.mirror = bytes
  counted : result.2.parser.stats.noiseBytes =
    noise + BitVec.ofNat 32 (result.1.flatMap StreamEvent.textBytes).length

/-- The mirror is the parser's buffer, nothing of which is to be released. -/
structure Aligned (stream : SmlStream) : Prop where
  mirror : stream.mirror = stream.parser.buffer
  seen : stream.noiseSeen = stream.parser.stats.noiseBytes
  kept : stream.parser.consumed = 0
  waits : verdict stream.parser.buffer = .open_

/-- Text handed on before. -/
theorem Split.text {noise : BitVec 32} {between : BitVec 32} {dropped held : List Byte}
    {result : List StreamEvent × SmlStream} (split : Split between held result)
    (counted : between = noise + BitVec.ofNat 32 dropped.length) :
    Split noise (dropped ++ held) (handed dropped ++ result.1, result.2) where
  placed := by
    rw [List.flatMap_append, handed_bytes, List.append_assoc, split.placed]
  counted := by
    rw [List.flatMap_append, handed_textBytes, split.counted, counted, List.length_append,
      BitVec.ofNat_add, BitVec.add_assoc]

/-- A frame handed on before. -/
theorem Split.frame {noise : BitVec 32} {bytes : List Byte}
    {result : List StreamEvent × SmlStream} (complete : verdict bytes = .complete)
    (split : Split noise (bytes.drop (frameTotal bytes)) result) :
    Split noise bytes (.frame (frameOf bytes) :: result.1, result.2) where
  placed := by
    rw [List.flatMap_cons, StreamEvent.bytes, wire_frameOf complete, List.append_assoc,
      split.placed, List.take_append_drop]
  counted := split.counted

/-- One turn of the loop. -/
theorem frames_turn {turns : Nat} {stream after accounted : SmlStream} {frame : SmlFrame}
    {found : Option SmlFrame} {parser : SmlParser} {text : List StreamEvent}
    (released : (stream.drop (smlHeaderBytes + frame.length + smlCrcBytes) false).2 = after)
    (called : smlParserNext after.parser = (found, parser))
    (noise : { after with parser := parser }.accountNoise = (text, accounted)) :
    frames (turns + 1) (some frame) stream =
      (.frame frame :: (text ++ (frames turns found accounted).1),
        (frames turns found accounted).2) := by
  subst released
  rw [frames]
  dsimp only
  rw [called]
  dsimp only
  rw [noise]
  rfl

/-- The loop, after a scan whose noise is handed on. -/
theorem frames_split (turns : Nat) (stream : SmlStream) (found : Option SmlFrame)
    (mirror : stream.mirror = stream.parser.buffer)
    (seen : stream.noiseSeen = stream.parser.stats.noiseBytes)
    (ended : (found = none ∧ verdict stream.parser.buffer = .open_ ∧ stream.parser.consumed = 0) ∨
      (found = some (frameOf stream.parser.buffer) ∧ verdict stream.parser.buffer = .complete ∧
        stream.parser.consumed = frameTotal stream.parser.buffer))
    (enough : stream.parser.buffer.length ≤ turns) (room : stream.parser.buffer.length < 2 ^ 16) :
    Split stream.parser.stats.noiseBytes stream.parser.buffer (frames turns found stream) ∧
      (frames turns found stream).2.Aligned := by
  induction turns generalizing stream found with
  | zero =>
      obtain ⟨rfl, open_, kept⟩ | ⟨-, complete, -⟩ := ended
      · exact ⟨⟨mirror, (BitVec.add_zero _).symm⟩, mirror, seen, kept, open_⟩
      · rw [List.length_eq_zero_iff.mp (Nat.le_zero.mp enough)] at complete
        cases complete
  | succ turns ih =>
      obtain ⟨rfl, open_, kept⟩ | ⟨rfl, complete, kept⟩ := ended
      · exact ⟨⟨mirror, (BitVec.add_zero _).symm⟩, mirror, seen, kept, open_⟩
      · have whole := (verdict_complete complete).2.2
        have some_ := frameTotal_pos stream.parser.buffer
        -- The frame leaves the mirror now, and the parser's buffer with the next call.
        have released : (stream.drop (smlHeaderBytes + (frameOf stream.parser.buffer).length +
            smlCrcBytes) false).2 = { stream with
              mirror := stream.parser.buffer.drop (frameTotal stream.parser.buffer) } := by
          change (stream.drop (frameTotal stream.parser.buffer) false).2 = _
          rw [drop, mirror, Nat.min_eq_left whole]
        have next : smlParserNext stream.parser =
            scanBuffer 0 (stream.parser.buffer.drop (frameTotal stream.parser.buffer))
              stream.parser.stats := by
          rw [smlParserNext, release_eq, scan, SmlParser.unreleased, kept]
        obtain ⟨dropped, scanned⟩ := scanBuffer_dropped 0
          (stream.parser.buffer.drop (frameTotal stream.parser.buffer)) stream.parser.stats
        rw [← next] at scanned
        cases called : smlParserNext stream.parser with
        | mk found parser =>
            rw [called] at scanned
            have lengths := congrArg List.length scanned.kept
            rw [List.length_drop, List.length_append] at lengths
            dsimp only at lengths
            obtain ⟨split, aligned⟩ := ih ⟨parser, parser.buffer, parser.stats.noiseBytes⟩ found
              rfl rfl scanned.ended (by dsimp only; omega) (by dsimp only; omega)
            have after := split.text scanned.counted
            rw [← scanned.kept] at after
            rw [frames_turn released called (accountNoise_of_dropped _ scanned.kept (by omega)
              (seen ▸ scanned.counted))]
            exact ⟨after.frame complete, aligned⟩

/-- A byte pushed. -/
theorem push_split {stream : SmlStream} (aligned : stream.Aligned) (byte : Byte) :
    Split stream.parser.stats.noiseBytes (stream.mirror ++ [byte]) (stream.push byte) ∧
      (stream.push byte).2.Aligned := by
  have short := verdict_open_length aligned.waits
  have room : stream.mirror.length < smlMirrorBytes := by
    rw [aligned.mirror]
    exact Nat.lt_succ_of_lt short
  have pushed : smlParserPush stream.parser byte =
      scanBuffer 0 (stream.mirror ++ [byte]) stream.parser.stats := by
    rw [smlParserPush, release_eq, scan, SmlParser.unreleased, aligned.kept, List.drop_zero,
      aligned.mirror]
  obtain ⟨dropped, scanned⟩ := scanBuffer_dropped 0 (stream.mirror ++ [byte]) stream.parser.stats
  rw [← pushed] at scanned
  cases called : smlParserPush stream.parser byte with
  | mk found parser =>
      rw [called] at scanned
      have lengths := congrArg List.length scanned.kept
      rw [List.length_append, List.length_append, List.length_singleton, aligned.mirror] at lengths
      unfold smlMaxFrameBytes at short
      dsimp only at lengths
      obtain ⟨split, settled⟩ := frames_split (parser.count + 1)
        ⟨parser, parser.buffer, parser.stats.noiseBytes⟩ found rfl rfl scanned.ended
        (Nat.le_succ _) (by dsimp only; omega)
      have after := split.text scanned.counted
      rw [← scanned.kept] at after
      have noise := accountNoise_of_dropped ⟨parser, stream.mirror ++ [byte], stream.noiseSeen⟩
        scanned.kept (by omega) (aligned.seen ▸ scanned.counted)
      rw [push, if_pos room]
      dsimp only
      rw [called]
      dsimp only
      rw [noise]
      exact ⟨after, settled⟩

/-- A silence hands on as text all that is held. -/
theorem timeout_split {stream : SmlStream} (aligned : stream.Aligned) :
    Split stream.parser.stats.noiseBytes stream.mirror stream.timeout ∧
      stream.timeout.2.Aligned := by
  have released : release stream.parser = stream.parser := by
    rw [release, if_neg (not_not.mpr aligned.kept)]
  by_cases empty : stream.parser.count = 0
  · have quiet : stream.timeout = ([], stream) := by
      rw [timeout, smlParserTimeout, released, if_pos empty]
      rfl
    rw [quiet]
    exact ⟨⟨rfl, (BitVec.add_zero _).symm⟩, aligned⟩
  · have short := verdict_open_length aligned.waits
    have fits : stream.mirror.length < 2 ^ 16 := by
      rw [aligned.mirror]
      exact short.trans (by decide)
    have counted : (smlParserTimeout stream.parser).2.stats.noiseBytes =
        stream.parser.stats.noiseBytes + BitVec.ofNat 32 stream.mirror.length := by
      rw [smlParserTimeout, released, if_neg empty, aligned.mirror]
      rfl
    have noise := accountNoise_of_dropped
      ⟨(smlParserTimeout stream.parser).2, stream.mirror, stream.noiseSeen⟩
      (List.append_nil _).symm fits (aligned.seen ▸ counted)
    have gone : (smlParserTimeout stream.parser).1 = true ∧
        (smlParserTimeout stream.parser).2.buffer = [] ∧
          (smlParserTimeout stream.parser).2.consumed = 0 := by
      rw [smlParserTimeout, released, if_neg empty]
      exact ⟨rfl, rfl, aligned.kept⟩
    rw [timeout]
    dsimp only
    rw [if_pos gone.1, noise]
    refine ⟨⟨?_, ?_⟩, gone.2.1.symm, rfl, gone.2.2, ?_⟩
    · rw [handed_bytes, List.append_nil]
    · rw [handed_textBytes]
      exact counted
    · dsimp only
      rw [gone.2.1]
      rfl

/-! ## Nothing lost -/

theorem hear_split {stream : SmlStream} (aligned : stream.Aligned) (heard : Heard Byte) :
    Split stream.parser.stats.noiseBytes (stream.mirror ++ heard.toBytes) (stream.hear heard) ∧
      (stream.hear heard).2.Aligned := by
  cases heard with
  | byte byte => exact push_split aligned byte
  | silence =>
      rw [Framing.Heard.toBytes, List.append_nil]
      exact timeout_split aligned

theorem hearAll_split {stream : SmlStream} (aligned : stream.Aligned) (heard : List (Heard Byte)) :
    Split stream.parser.stats.noiseBytes (stream.mirror ++ heard.flatMap Heard.toBytes)
      (stream.hearAll heard) ∧ (stream.hearAll heard).2.Aligned := by
  induction heard generalizing stream with
  | nil => exact ⟨⟨(List.append_nil _).symm, (BitVec.add_zero _).symm⟩, aligned⟩
  | cons heard later ih =>
      obtain ⟨here, settled⟩ := hear_split aligned heard
      obtain ⟨there, final⟩ := ih settled
      refine ⟨⟨?_, ?_⟩, final⟩
      · rw [List.flatMap_cons, ← List.append_assoc, ← here.placed, List.append_assoc,
          ← there.placed, ← List.append_assoc, ← List.flatMap_append]
        rfl
      · refine there.counted.trans ?_
        rw [here.counted, BitVec.add_assoc, ← BitVec.ofNat_add, ← List.length_append,
          ← List.flatMap_append]
        rfl

/-- **Nothing is lost.** After any bytes and silences, the text and the frames handed on, each
frame as it was received, followed by the mirror are the bytes pushed; the mirror is what the
parser holds and has room for the next byte; and the parser has counted as noise the bytes
handed on as text. -/
theorem nothing_lost (heard : List (Heard Byte)) :
    let result := hearAll {} heard
    result.1.flatMap StreamEvent.bytes ++ result.2.mirror = heard.flatMap Heard.toBytes ∧
      result.2.mirror = result.2.parser.unreleased ∧
      result.2.mirror.length < smlMirrorBytes ∧
      result.2.parser.stats.noiseBytes =
        BitVec.ofNat 32 (result.1.flatMap StreamEvent.textBytes).length := by
  intro result
  have fresh : Aligned {} := ⟨rfl, rfl, rfl, rfl⟩
  obtain ⟨split, aligned⟩ := hearAll_split fresh heard
  refine ⟨split.placed, ?_, ?_, split.counted.trans (BitVec.zero_add _)⟩
  · exact aligned.mirror.trans (by rw [SmlParser.unreleased, aligned.kept, List.drop_zero])
  · have short := verdict_open_length aligned.waits
    rw [← aligned.mirror] at short
    exact Nat.lt_succ_of_lt short

end SmlStream

end GpsClock.Sml
