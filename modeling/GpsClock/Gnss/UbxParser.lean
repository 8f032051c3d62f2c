import GpsClock.Lib.Framing
import GpsClock.Sml.Fields

/-! # The receiver's frames

`ubx_parser.c`: bytes are appended to a buffer as long as the longest frame and consumed
by moving an index, so that what is buffered stands anywhere in it and is moved to the
front only when an append reaches the end. Whatever the indices, and wherever the stream
falls silent, the frames dispatched and skipped are those of a parse from left to right of
the bytes not yet consumed (`GpsClock.Gnss.UbxParser.feed_refines_batch`).
-/

namespace GpsClock.Gnss

open Sml (Memory)

def ubxSyncChar1 : Byte := 0xB5

def ubxSyncChar2 : Byte := 0x62

def ubxHeaderLength : Nat := 6

def ubxFrameOverhead : Nat := 8

def ubxParserMaxPayload : Nat := 512

def ubxParserBufferBytes : Nat := 520

def ubxParserTimeoutMs : BitVec 32 := 50

/-! ## Expected messages -/

structure UbxMessageRule where
  classId : Byte
  messageId : Byte
  lengthBase : Nat
  lengthStep : Nat
  deriving DecidableEq, Repr

/-- `expected_messages`: NAV, TIM, ACK, MON and CFG. -/
def expectedMessages : List UbxMessageRule :=
  [⟨0x01, 0x02, 28, 0⟩, ⟨0x01, 0x03, 16, 0⟩, ⟨0x01, 0x21, 20, 0⟩, ⟨0x01, 0x22, 20, 0⟩,
    ⟨0x01, 0x26, 24, 0⟩, ⟨0x01, 0x61, 4, 0⟩, ⟨0x0D, 0x01, 16, 0⟩, ⟨0x0D, 0x03, 28, 0⟩,
    ⟨0x05, 0x01, 2, 0⟩, ⟨0x05, 0x00, 2, 0⟩, ⟨0x0A, 0x04, 40, 30⟩, ⟨0x06, 0x8B, 4, 1⟩]

def findRule (classId messageId : Byte) : Option UbxMessageRule :=
  expectedMessages.find? fun rule => rule.classId = classId ∧ rule.messageId = messageId

def lengthMatches (rule : UbxMessageRule) (length : Nat) : Bool :=
  if rule.lengthStep = 0 then length = rule.lengthBase
  else rule.lengthBase ≤ length ∧ (length - rule.lengthBase) % rule.lengthStep = 0

def headerIsPlausible (rule : Option UbxMessageRule) (length : Nat) : Bool :=
  length ≤ ubxParserMaxPayload &&
    match rule with
    | none => true
    | some rule => lengthMatches rule length

/-- `ubx_checksum`: the two sums of the bytes at a pointer. -/
def ubxChecksum (source : List Byte) : Byte × Byte :=
  source.foldl (fun (a, b) byte => (a + byte, b + (a + byte))) (0, 0)

/-- `decode_length`, of its two bytes. -/
def decodeLength (low high : Byte) : Nat :=
  low.toNat + 256 * high.toNat

/-! ## The parser -/

structure UbxUnexpectedMessage where
  classId : Byte := 0
  messageId : Byte := 0
  length : Nat := 0
  count : BitVec 32 := 0
  deriving DecidableEq, Repr

structure UbxParserStats where
  bytesReceived : BitVec 32 := 0
  validFrames : BitVec 32 := 0
  checksumErrors : BitVec 32 := 0
  falseSyncs : BitVec 32 := 0
  lastFalseSyncClass : Byte := 0
  lastFalseSyncId : Byte := 0
  lastFalseSyncLength : Nat := 0
  timeouts : BitVec 32 := 0
  unexpectedFrames : BitVec 32 := 0
  unexpected : List UbxUnexpectedMessage := List.replicate 4 {}
  unexpectedOther : BitVec 32 := 0
  deriving DecidableEq, Repr

/-- What is buffered and not yet consumed stands from `start` up to `stop`. -/
structure UbxParser where
  buffer : Memory := fun _ => 0
  start : Nat := 0
  stop : Nat := 0
  lastByteMs : BitVec 32 := 0
  handler : Bool := true
  stats : UbxParserStats := {}

/-- What a call did: a frame handed on, with the time it was observed, or one skipped. -/
inductive UbxOutput
  | dispatched (classId messageId : Byte) (payload : List Byte) (observedMs : BitVec 32)
  | unexpected (classId messageId : Byte) (length : Nat)
  deriving DecidableEq, Repr

/-- So many bytes at a pointer. -/
def slice (memory : Memory) (start : Nat) : Nat → List Byte
  | 0 => []
  | count + 1 => memory start :: slice memory (start + 1) count

namespace UbxParserStats

def countFalseSync (stats : UbxParserStats) (classId messageId : Byte) (length : Nat) :
    UbxParserStats :=
  { stats with
    falseSyncs := stats.falseSyncs + 1
    lastFalseSyncClass := classId
    lastFalseSyncId := messageId
    lastFalseSyncLength := length }

/-- The first entry unused or of this kind counts it, if there is one. -/
def noteUnexpected (classId messageId : Byte) (length : Nat) :
    List UbxUnexpectedMessage → Option (List UbxUnexpectedMessage)
  | [] => none
  | entry :: entries =>
      if entry.count = 0 ∨ (entry.classId = classId ∧ entry.messageId = messageId) then
        some (⟨classId, messageId, length, entry.count + 1⟩ :: entries)
      else (noteUnexpected classId messageId length entries).map (entry :: ·)

def countUnexpected (stats : UbxParserStats) (classId messageId : Byte) (length : Nat) :
    UbxParserStats :=
  let stats := { stats with unexpectedFrames := stats.unexpectedFrames + 1 }
  match noteUnexpected classId messageId length stats.unexpected with
  | some unexpected => { stats with unexpected := unexpected }
  | none => { stats with unexpectedOther := stats.unexpectedOther + 1 }

end UbxParserStats

namespace UbxParser

def bufferedBytes (parser : UbxParser) : Nat :=
  parser.stop - parser.start

def consume (parser : UbxParser) (count : Nat) : UbxParser :=
  let start := parser.start + count
  if parser.stop ≤ start then { parser with start := 0, stop := 0 }
  else { parser with start := start }

/-- `append`'s `memmove` to the front, once the end of the buffer is reached. -/
def compact (parser : UbxParser) : UbxParser :=
  if parser.stop = ubxParserBufferBytes then
    { parser with
      buffer := fun index =>
        if index < parser.bufferedBytes then parser.buffer (parser.start + index)
        else parser.buffer index
      start := 0
      stop := parser.bufferedBytes }
  else parser

def append (parser : UbxParser) (byte : Byte) : UbxParser :=
  let parser := parser.compact
  { parser with
    buffer := fun index => if index = parser.stop then byte else parser.buffer index
    stop := parser.stop + 1 }

/-- `process_frames` at a candidate whose header is buffered: what it dispatched or
skipped and the parser after it, or nothing where it returns. -/
def candidate (parser : UbxParser) (nowMs : BitVec 32) (flush : Bool) :
    Option (Option UbxOutput × UbxParser) :=
  let frame := fun offset => parser.buffer (parser.start + offset)
  let classId := frame 2
  let messageId := frame 3
  let length := decodeLength (frame 4) (frame 5)
  let rule := findRule classId messageId
  if headerIsPlausible rule length = false then
    some (none,
      { parser with stats := parser.stats.countFalseSync classId messageId length }.consume 1)
  else
    let frameLength := length + ubxFrameOverhead
    if parser.bufferedBytes < frameLength then
      if flush then some (none, parser.consume 1) else none
    else if ubxChecksum (slice parser.buffer (parser.start + 2) (length + 4)) ≠
        (frame (frameLength - 2), frame (frameLength - 1)) then
      -- A real frame of a message we expect, corrupted; or noise.
      let stats :=
        match rule with
        | some _ => { parser.stats with checksumErrors := parser.stats.checksumErrors + 1 }
        | none => parser.stats.countFalseSync classId messageId length
      some (none, { parser with stats := stats }.consume 1)
    else
      match rule with
      | none =>
          some (some (.unexpected classId messageId length),
            { parser with
              stats := parser.stats.countUnexpected classId messageId length }.consume frameLength)
      | some _ =>
          some (
            if parser.handler then
              some (.dispatched classId messageId
                (slice parser.buffer (parser.start + ubxHeaderLength) length) nowMs)
            else none,
            { parser with
              stats := { parser.stats with
                validFrames := parser.stats.validFrames + 1 } }.consume frameLength)

/-- One turn of `process_frames`' loop, over a buffer that is not empty. -/
def turn (parser : UbxParser) (nowMs : BitVec 32) (flush : Bool) :
    Option (Option UbxOutput × UbxParser) :=
  if parser.buffer parser.start ≠ ubxSyncChar1 then some (none, parser.consume 1)
  else if parser.bufferedBytes < 2 then if flush then some (none, parser.consume 1) else none
  else if parser.buffer (parser.start + 1) ≠ ubxSyncChar2 then some (none, parser.consume 1)
  else if parser.bufferedBytes < ubxHeaderLength then
    if flush then some (none, parser.consume 1) else none
  else parser.candidate nowMs flush

/-- `process_frames`' loop; as many turns as there are bytes are enough, each consuming one. -/
def processTurns (nowMs : BitVec 32) (flush : Bool) :
    Nat → UbxParser → List UbxOutput × UbxParser
  | 0, parser => ([], parser)
  | turns + 1, parser =>
      if parser.bufferedBytes = 0 then ([], parser)
      else
        match parser.turn nowMs flush with
        | none => ([], parser)
        | some (output, next) =>
            let (outputs, final) := processTurns nowMs flush turns next
            (output.toList ++ outputs, final)

def processFrames (parser : UbxParser) (nowMs : BitVec 32) (flush : Bool) :
    List UbxOutput × UbxParser :=
  processTurns nowMs flush parser.bufferedBytes parser

/-- `ubx_parser_feed`. -/
def feed (parser : UbxParser) (byte : Byte) (nowMs : BitVec 32) : List UbxOutput × UbxParser :=
  let parser :=
    { parser with
      lastByteMs := nowMs
      stats := { parser.stats with bytesReceived := parser.stats.bytesReceived + 1 } }
  (parser.append byte).processFrames nowMs false

/-- `ubx_parser_check_timeout`. -/
def checkTimeout (parser : UbxParser) (nowMs : BitVec 32) : List UbxOutput × UbxParser :=
  if 0 < parser.bufferedBytes ∧ ubxParserTimeoutMs ≤ nowMs - parser.lastByteMs then
    { parser with
      stats := { parser.stats with timeouts := parser.stats.timeouts + 1 } }.processFrames
        nowMs true
  else ([], parser)

end UbxParser

/-! ## What a stream's front is -/

/-- A whole frame: of an expected message with its payload, or of another, skipped. -/
inductive UbxFrame
  | expected (classId messageId : Byte) (payload : List Byte)
  | unexpected (classId messageId : Byte) (length : Nat)
  deriving DecidableEq, Repr

/-- A candidate after its header: a payload no longer than the longest, of a length its
message can have, and a good checksum. -/
def ubxJudgeBody (classId messageId low high : Byte) (body : List Byte) : Verdict UbxFrame :=
  let length := decodeLength low high
  if headerIsPlausible (findRule classId messageId) length = false then .reject
  else if body.length < length + 2 then .wait
  else if ubxChecksum (classId :: messageId :: low :: high :: body.take length) =
      (body.getD length 0, body.getD (length + 1) 0) then
    .frame (length + ubxFrameOverhead)
      (match findRule classId messageId with
        | some _ => .expected classId messageId (body.take length)
        | none => .unexpected classId messageId length)
  else .reject

/-- A candidate after its sync bytes. -/
def ubxJudgeHeader : List Byte → Verdict UbxFrame
  | classId :: messageId :: low :: high :: body => ubxJudgeBody classId messageId low high body
  | _ => .wait

/-- Both sync bytes, then a header. -/
def ubxJudge : List Byte → Verdict UbxFrame
  | [] => .wait
  | [sync1] => if sync1 = ubxSyncChar1 then .wait else .reject
  | sync1 :: sync2 :: candidate =>
      if sync1 = ubxSyncChar1 ∧ sync2 = ubxSyncChar2 then ubxJudgeHeader candidate
      else .reject

theorem ubxJudgeBody_fits {classId messageId low high : Byte} {body : List Byte} {length : Nat}
    {value : UbxFrame} (found : ubxJudgeBody classId messageId low high body = .frame length value) :
    length = decodeLength low high + 8 ∧ decodeLength low high + 2 ≤ body.length := by
  unfold ubxJudgeBody at found
  dsimp only at found
  split at found
  · cases found
  · split at found
    · cases found
    · next whole =>
        split at found
        · cases found
          exact ⟨rfl, Nat.not_lt.mp whole⟩
        · cases found

theorem ubxJudgeBody_append {classId messageId low high : Byte} {body : List Byte}
    (more : List Byte) (settled : ubxJudgeBody classId messageId low high body ≠ .wait) :
    ubxJudgeBody classId messageId low high (body ++ more) =
      ubxJudgeBody classId messageId low high body := by
  unfold ubxJudgeBody at settled ⊢
  dsimp only at settled ⊢
  by_cases credible : headerIsPlausible (findRule classId messageId)
      (decodeLength low high) = false
  · rw [if_pos credible, if_pos credible]
  · rw [if_neg credible] at settled ⊢
    rw [if_neg credible]
    by_cases short : body.length < decodeLength low high + 2
    · rw [if_pos short] at settled
      exact absurd rfl settled
    · have whole : ¬(body ++ more).length < decodeLength low high + 2 := by
        rw [List.length_append]
        omega
      rw [if_neg short, if_neg whole, List.take_append_of_le_length (by omega),
        List.getD_append _ _ _ _ (by omega), List.getD_append _ _ _ _ (by omega)]

/-- The framing of UBX. -/
def ubxFraming : Framing Byte UbxFrame where
  judge := ubxJudge
  empty := rfl
  fits := by
    intro bytes length value found
    match bytes with
    | [] => cases found
    | [sync1] =>
        rw [ubxJudge] at found
        split at found <;> cases found
    | sync1 :: sync2 :: candidate =>
        rw [ubxJudge] at found
        split at found
        · match candidate with
          | [] => cases found
          | [_] => cases found
          | [_, _] => cases found
          | [_, _, _] => cases found
          | classId :: messageId :: low :: high :: body =>
              obtain ⟨rfl, whole⟩ := ubxJudgeBody_fits found
              refine ⟨Nat.succ_pos _, ?_⟩
              simp only [List.length_cons]
              omega
        · cases found
  settled := by
    intro bytes more settled
    match bytes with
    | [] => exact absurd rfl settled
    | [sync1] =>
        rw [ubxJudge] at settled ⊢
        by_cases sync : sync1 = ubxSyncChar1
        · rw [if_pos sync] at settled
          exact absurd rfl settled
        · rw [if_neg sync]
          cases more with
          | nil => rw [List.append_nil, ubxJudge, if_neg sync]
          | cons sync2 more =>
              rw [List.singleton_append, ubxJudge, if_neg fun both => sync both.1]
    | sync1 :: sync2 :: candidate =>
        rw [List.cons_append, List.cons_append]
        rw [ubxJudge] at settled ⊢
        by_cases sync : sync1 = ubxSyncChar1 ∧ sync2 = ubxSyncChar2
        · rw [if_pos sync] at settled ⊢
          rw [ubxJudge, if_pos sync]
          match candidate with
          | [] => exact absurd rfl settled
          | [_] => exact absurd rfl settled
          | [_, _] => exact absurd rfl settled
          | [_, _, _] => exact absurd rfl settled
          | classId :: messageId :: low :: high :: body => exact ubxJudgeBody_append more settled
        · rw [if_neg sync, ubxJudge, if_neg sync]

/-! ## Slices of memory -/

section Slices

variable (memory : Memory) (start count : Nat)

@[simp] theorem length_slice : (slice memory start count).length = count := by
  induction count generalizing start with
  | zero => rfl
  | succ count ih => rw [slice, List.length_cons, ih]

theorem slice_getD {offset : Nat} (inside : offset < count) :
    (slice memory start count).getD offset 0 = memory (start + offset) := by
  induction count generalizing start offset with
  | zero => exact absurd inside (Nat.not_lt_zero offset)
  | succ count ih =>
      cases offset with
      | zero => rfl
      | succ offset =>
          rw [slice, List.getD_cons_succ, ih (start + 1) (Nat.lt_of_succ_lt_succ inside)]
          exact congrArg memory (Nat.succ_add_eq_add_succ start offset)

theorem slice_take {fewer : Nat} (within : fewer ≤ count) :
    (slice memory start count).take fewer = slice memory start fewer := by
  induction count generalizing start fewer with
  | zero =>
      rw [Nat.le_zero.mp within]
      rfl
  | succ count ih =>
      cases fewer with
      | zero => rfl
      | succ fewer => rw [slice, List.take_succ_cons, ih _ (Nat.le_of_succ_le_succ within), slice]

theorem slice_drop (dropped : Nat) :
    (slice memory start count).drop dropped = slice memory (start + dropped) (count - dropped) := by
  induction dropped generalizing start count with
  | zero => rfl
  | succ dropped ih =>
      cases count with
      | zero =>
          rw [Nat.zero_sub]
          rfl
      | succ count =>
          rw [slice, List.drop_succ_cons, ih, Nat.succ_add_eq_add_succ, Nat.succ_sub_succ]

theorem slice_succ : slice memory start (count + 1) =
    slice memory start count ++ [memory (start + count)] := by
  induction count generalizing start with
  | zero => rfl
  | succ count ih =>
      rw [slice, ih, Nat.succ_add_eq_add_succ]
      rfl

variable {memory start count}

theorem slice_congr {other : Memory} {from_ : Nat}
    (same : ∀ offset < count, memory (start + offset) = other (from_ + offset)) :
    slice memory start count = slice other from_ count := by
  induction count with
  | zero => rfl
  | succ count ih =>
      rw [slice_succ, slice_succ, same count (Nat.lt_succ_self count),
        ih fun offset inside => same offset (Nat.lt_succ_of_lt inside)]

end Slices

/-! ## One turn -/

/-- What is done with a whole frame. -/
def UbxFrame.output (observedMs : BitVec 32) : UbxFrame → UbxOutput
  | .expected classId messageId payload => .dispatched classId messageId payload observedMs
  | .unexpected classId messageId length => .unexpected classId messageId length

/-- An output without the time it was observed at. -/
def UbxOutput.frame : UbxOutput → UbxFrame
  | .dispatched classId messageId payload _ => .expected classId messageId payload
  | .unexpected classId messageId length => .unexpected classId messageId length

theorem UbxFrame.frame_output {observedMs : BitVec 32} (value : UbxFrame) :
    (value.output observedMs).frame = value := by
  cases value <;> rfl

namespace UbxParser

/-- The bytes buffered and not yet consumed. -/
def window (parser : UbxParser) : List Byte :=
  slice parser.buffer parser.start parser.bufferedBytes

variable {parser : UbxParser} {nowMs : BitVec 32} {flush : Bool}

theorem window_consume (parser : UbxParser) (count : Nat) :
    (parser.consume count).window = parser.window.drop count := by
  rw [window, window, slice_drop, consume, bufferedBytes, bufferedBytes]
  split
  · next whole =>
      rw [Nat.sub_eq_zero_of_le (show parser.stop - parser.start ≤ count by omega)]
      rfl
  · rw [Nat.sub_add_eq]

/-- A turn against what stands at the front of the buffer. -/
inductive Turned (parser : UbxParser) (nowMs : BitVec 32) :
    Verdict UbxFrame → Option (Option UbxOutput × UbxParser) → Prop
  | wait : Turned parser nowMs .wait none
  | reject (stats : UbxParserStats) :
      Turned parser nowMs .reject (some (none, { parser with stats := stats }.consume 1))
  | frame (stats : UbxParserStats) (length : Nat) (value : UbxFrame) :
      Turned parser nowMs (.frame length value)
        (some (some (value.output nowMs), { parser with stats := stats }.consume length))

/-- Where a candidate may still be completed it is kept, or given up by a flush. -/
theorem turned_wait (waits : ubxJudge parser.window = .wait) (some_ : parser.window ≠ []) :
    Turned parser nowMs (ubxFraming.verdict flush parser.window)
      (if flush then some (none, parser.consume 1) else none) := by
  cases flush with
  | true =>
      have judged : ubxFraming.judge parser.window = .wait := waits
      rw [Framing.verdict_flush judged some_]
      exact .reject parser.stats
  | false =>
      rw [Framing.verdict_waiting]
      change Turned parser nowMs (ubxJudge parser.window) _
      rw [waits]
      exact .wait

theorem turned_reject (stats : UbxParserStats) (rejects : ubxJudge parser.window = .reject) :
    Turned parser nowMs (ubxFraming.verdict flush parser.window)
      (some (none, { parser with stats := stats }.consume 1)) := by
  have judged : ubxFraming.judge parser.window ≠ .wait := rejects.trans_ne nofun
  rw [Framing.verdict_of_judge flush judged]
  change Turned parser nowMs (ubxJudge parser.window) _
  rw [rejects]
  exact .reject stats

theorem turned_frame (stats : UbxParserStats) {length : Nat} {value : UbxFrame}
    (whole : ubxJudge parser.window = .frame length value) :
    Turned parser nowMs (ubxFraming.verdict flush parser.window)
      (some (some (value.output nowMs), { parser with stats := stats }.consume length)) := by
  have judged : ubxFraming.judge parser.window ≠ .wait := whole.trans_ne nofun
  rw [Framing.verdict_of_judge flush judged]
  change Turned parser nowMs (ubxJudge parser.window) _
  rw [whole]
  exact .frame stats length value

theorem ubxJudgeHeader_short {candidate : List Byte} (short : candidate.length < 4) :
    ubxJudgeHeader candidate = .wait := by
  match candidate with
  | [] => rfl
  | [_] => rfl
  | [_, _] => rfl
  | [_, _, _] => rfl
  | _ :: _ :: _ :: _ :: body => exact absurd short (by simp only [List.length_cons]; omega)

theorem candidate_turned {count : Nat} (available : parser.bufferedBytes = count + 6)
    (header : ubxJudge parser.window =
      ubxJudgeBody (parser.buffer (parser.start + 2)) (parser.buffer (parser.start + 3))
        (parser.buffer (parser.start + 4)) (parser.buffer (parser.start + 5))
        (slice parser.buffer (parser.start + 6) count))
    (some_ : parser.window ≠ []) (handler : parser.handler = true) :
    Turned parser nowMs (ubxFraming.verdict flush parser.window)
      (parser.candidate nowMs flush) := by
  rw [ubxJudgeBody] at header
  rw [candidate]
  dsimp only at header ⊢
  generalize decodeLength (parser.buffer (parser.start + 4)) (parser.buffer (parser.start + 5)) =
    length at header ⊢
  by_cases credible : headerIsPlausible (findRule (parser.buffer (parser.start + 2))
      (parser.buffer (parser.start + 3))) length = false
  · rw [if_pos credible] at header ⊢
    exact turned_reject _ header
  · rw [if_neg credible] at header ⊢
    rw [length_slice] at header
    by_cases short : count < length + 2
    · have part : parser.bufferedBytes < length + ubxFrameOverhead := by
        rw [ubxFrameOverhead]
        omega
      rw [if_pos short] at header
      rw [if_pos part]
      exact turned_wait header some_
    · have whole : ¬parser.bufferedBytes < length + ubxFrameOverhead := by
        rw [ubxFrameOverhead]
        omega
      rw [if_neg short, slice_take _ _ _ (by omega), slice_getD _ _ _ (by omega),
        slice_getD _ _ _ (by omega)] at header
      rw [if_neg whole]
      have last : parser.start + (length + ubxFrameOverhead - 1) =
          parser.start + 6 + (length + 1) := by
        rw [ubxFrameOverhead]
        omega
      have lastButOne : parser.start + (length + ubxFrameOverhead - 2) =
          parser.start + 6 + length := by
        rw [ubxFrameOverhead]
        omega
      have same : ubxChecksum (slice parser.buffer (parser.start + 2) (length + 4)) =
            (parser.buffer (parser.start + (length + ubxFrameOverhead - 2)),
              parser.buffer (parser.start + (length + ubxFrameOverhead - 1))) ↔
          ubxChecksum (parser.buffer (parser.start + 2) :: parser.buffer (parser.start + 3) ::
              parser.buffer (parser.start + 4) :: parser.buffer (parser.start + 5) ::
                slice parser.buffer (parser.start + 6) length) =
            (parser.buffer (parser.start + 6 + length),
              parser.buffer (parser.start + 6 + (length + 1))) := by
        rw [last, lastButOne, slice, slice, slice, slice]
      by_cases good : ubxChecksum (slice parser.buffer (parser.start + 2) (length + 4)) =
          (parser.buffer (parser.start + (length + ubxFrameOverhead - 2)),
            parser.buffer (parser.start + (length + ubxFrameOverhead - 1)))
      · rw [if_pos (same.mp good)] at header
        rw [if_neg (not_not.mpr good)]
        cases rule : findRule (parser.buffer (parser.start + 2))
            (parser.buffer (parser.start + 3)) with
        | none =>
            rw [rule] at header
            exact turned_frame _ header
        | some found =>
            rw [rule] at header
            rw [if_pos handler]
            exact turned_frame _ header
      · rw [if_neg fun checked => good (same.mpr checked)] at header
        rw [if_pos good]
        exact turned_reject _ header

theorem turn_turned (nowMs : BitVec 32) (flush : Bool) (some_ : parser.bufferedBytes ≠ 0) (handler : parser.handler = true) :
    Turned parser nowMs (ubxFraming.verdict flush parser.window) (parser.turn nowMs flush) := by
  obtain ⟨rest, available⟩ := Nat.exists_eq_succ_of_ne_zero some_
  have front : parser.window = parser.buffer parser.start ::
      slice parser.buffer (parser.start + 1) rest := by
    rw [window, available, slice]
  have nonempty : parser.window ≠ [] := front.trans_ne (List.cons_ne_nil _ _)
  rw [turn]
  by_cases sync1 : parser.buffer parser.start = ubxSyncChar1
  · rw [if_neg (not_not.mpr sync1)]
    cases rest with
    | zero =>
        rw [if_pos (show parser.bufferedBytes < 2 by omega)]
        refine turned_wait ?_ nonempty
        rw [front, slice, ubxJudge, if_pos sync1]
    | succ rest =>
        rw [slice] at front
        rw [if_neg (show ¬parser.bufferedBytes < 2 by omega)]
        by_cases sync2 : parser.buffer (parser.start + 1) = ubxSyncChar2
        · rw [if_neg (not_not.mpr sync2)]
          have header : ubxJudge parser.window =
              ubxJudgeHeader (slice parser.buffer (parser.start + 1 + 1) rest) := by
            rw [front, ubxJudge, if_pos ⟨sync1, sync2⟩]
          by_cases short : rest < 4
          · rw [if_pos (show parser.bufferedBytes < ubxHeaderLength by rw [ubxHeaderLength]; omega)]
            refine turned_wait ?_ nonempty
            rw [header, ubxJudgeHeader_short (by rwa [length_slice])]
          · obtain ⟨count, rfl⟩ := Nat.exists_eq_add_of_le' (Nat.not_lt.mp short)
            rw [if_neg (show ¬parser.bufferedBytes < ubxHeaderLength by rw [ubxHeaderLength]; omega)]
            rw [slice, slice, slice, slice, ubxJudgeHeader] at header
            exact candidate_turned (by omega) header nonempty handler
        · rw [if_pos sync2]
          refine turned_reject parser.stats ?_
          rw [front, ubxJudge, if_neg fun both => sync2 both.2]
  · rw [if_pos sync1]
    refine turned_reject parser.stats ?_
    rw [front]
    cases rest with
    | zero => rw [slice, ubxJudge, if_neg sync1]
    | succ rest => rw [slice, ubxJudge, if_neg fun both => sync1 both.1]

/-! ## A call -/

theorem bufferedBytes_consume (parser : UbxParser) (count : Nat) :
    (parser.consume count).bufferedBytes = parser.bufferedBytes - count := by
  rw [consume, bufferedBytes, bufferedBytes]
  split
  · next whole => exact (Nat.sub_eq_zero_of_le (by omega)).symm
  · exact Nat.sub_add_eq _ _ _

/-- Consuming moves the indices towards each other or to the front, and no byte. -/
structure Consumed (parser final : UbxParser) : Prop where
  ordered : final.start ≤ final.stop
  within : final.stop ≤ parser.stop
  buffer : final.buffer = parser.buffer
  lastByteMs : final.lastByteMs = parser.lastByteMs
  handler : final.handler = parser.handler

theorem Consumed.refl (ordered : parser.start ≤ parser.stop) : Consumed parser parser :=
  ⟨ordered, Nat.le_refl _, rfl, rfl, rfl⟩

theorem consumed_consume (parser : UbxParser) (stats : UbxParserStats) (count : Nat) :
    Consumed parser ({ parser with stats := stats }.consume count) := by
  rw [consume]
  split
  · exact ⟨Nat.le_refl 0, Nat.zero_le _, rfl, rfl, rfl⟩
  · next some => exact ⟨Nat.le_of_lt (Nat.not_le.mp some), Nat.le_refl _, rfl, rfl, rfl⟩

theorem Consumed.trans {middle final : UbxParser} (first : Consumed parser middle)
    (second : Consumed middle final) : Consumed parser final :=
  ⟨second.ordered, Nat.le_trans second.within first.within, second.buffer.trans first.buffer,
    second.lastByteMs.trans first.lastByteMs, second.handler.trans first.handler⟩

/-- What a call found in a window, against its parse. -/
structure Found (parser : UbxParser) (nowMs : BitVec 32) (parsed : Parsed Byte UbxFrame)
    (result : List UbxOutput × UbxParser) : Prop where
  outputs : result.1 = parsed.frames.map (UbxFrame.output nowMs)
  window : result.2.window = parsed.rest
  consumed : Consumed parser result.2

theorem processTurns_found (turns : Nat) (enough : parser.bufferedBytes ≤ turns)
    (ordered : parser.start ≤ parser.stop) (handler : parser.handler = true) :
    Found parser nowMs (ubxFraming.parse flush parser.window)
      (processTurns nowMs flush turns parser) := by
  induction turns generalizing parser with
  | zero =>
      have none : parser.window = [] := by rw [window, Nat.le_zero.mp enough, slice]
      rw [none, Framing.parse_nil]
      exact ⟨rfl, none, .refl ordered⟩
  | succ turns ih =>
      rw [processTurns]
      by_cases empty : parser.bufferedBytes = 0
      · have none : parser.window = [] := by rw [window, empty, slice]
        rw [if_pos empty, none, Framing.parse_nil]
        exact ⟨rfl, none, .refl ordered⟩
      · rw [if_neg empty]
        have turned := turn_turned nowMs flush empty handler
        generalize judged : ubxFraming.verdict flush parser.window = verdict at turned
        generalize did : parser.turn nowMs flush = result at turned
        cases turned with
        | wait =>
            rw [Framing.parse_wait judged]
            exact ⟨rfl, rfl, .refl ordered⟩
        | reject stats =>
            have consumed := consumed_consume parser stats 1
            have shorter := bufferedBytes_consume { parser with stats := stats } 1
            have rest := window_consume { parser with stats := stats } 1
            have found := ih (by rw [shorter]; exact Nat.sub_le_of_le_add enough)
              consumed.ordered (consumed.handler.trans handler)
            rw [rest, List.drop_one] at found
            rw [Framing.parse_reject judged]
            exact ⟨found.outputs, found.window, consumed.trans found.consumed⟩
        | frame stats length value =>
            have whole := Framing.verdict_frame judged
            have some_ := (ubxFraming.fits whole).1
            have consumed := consumed_consume parser stats length
            have shorter := bufferedBytes_consume { parser with stats := stats } length
            have rest := window_consume { parser with stats := stats } length
            have found := ih (by
                rw [shorter]
                exact Nat.sub_le_of_le_add (Nat.le_trans enough (Nat.add_le_add_left some_ _)))
              consumed.ordered (consumed.handler.trans handler)
            rw [rest] at found
            rw [Framing.parse_frame whole]
            exact ⟨congrArg (value.output nowMs :: ·) found.outputs, found.window,
              consumed.trans found.consumed⟩

theorem processFrames_found (nowMs : BitVec 32) (flush : Bool)
    (ordered : parser.start ≤ parser.stop) (handler : parser.handler = true) :
    Found parser nowMs (ubxFraming.parse flush parser.window)
      (parser.processFrames nowMs flush) :=
  processTurns_found _ (Nat.le_refl _) ordered handler

/-! ## Appending -/

theorem compact_window (parser : UbxParser) : parser.compact.window = parser.window := by
  rw [compact]
  split
  · rw [window, window]
    refine slice_congr fun offset inside => ?_
    dsimp only at inside ⊢
    rw [Nat.zero_add, if_pos (show offset < parser.bufferedBytes from inside)]
  · rfl

theorem compact_ordered (ordered : parser.start ≤ parser.stop) :
    parser.compact.start ≤ parser.compact.stop := by
  rw [compact]
  split
  · exact Nat.zero_le _
  · exact ordered

theorem append_window (ordered : parser.start ≤ parser.stop) (byte : Byte) :
    (parser.append byte).window = parser.window ++ [byte] := by
  have moved := compact_ordered ordered
  have next : (parser.append byte).bufferedBytes = parser.compact.bufferedBytes + 1 := by
    rw [append, bufferedBytes, bufferedBytes]
    exact Nat.succ_sub moved
  rw [window, next, slice_succ, ← compact_window parser, window]
  congr 1
  · refine slice_congr fun offset inside => ?_
    have before : parser.compact.start + offset ≠ parser.compact.stop := by
      rw [bufferedBytes] at inside
      omega
    exact if_neg before
  · have last : parser.compact.start + parser.compact.bufferedBytes = parser.compact.stop :=
      Nat.add_sub_cancel' moved
    exact congrArg ([·]) (if_pos last)

/-- A candidate that could still be completed is shorter than the buffer. -/
theorem ubxJudge_wait_length {bytes : List Byte} (waits : ubxJudge bytes = .wait) :
    bytes.length < ubxParserBufferBytes := by
  match bytes with
  | [] => decide
  | [_] => exact show 1 < 520 by decide
  | sync1 :: sync2 :: candidate =>
      rw [ubxJudge] at waits
      split at waits
      · match candidate with
        | [] => exact show 2 < 520 by decide
        | [_] => exact show 3 < 520 by decide
        | [_, _] => exact show 4 < 520 by decide
        | [_, _, _] => exact show 5 < 520 by decide
        | classId :: messageId :: low :: high :: body =>
            rw [ubxJudgeHeader, ubxJudgeBody] at waits
            split at waits
            · cases waits
            · next credible =>
                split at waits
                · next short =>
                    have long : decodeLength low high ≤ 512 := by
                      rw [Bool.not_eq_false] at credible
                      unfold headerIsPlausible at credible
                      rw [Bool.and_eq_true] at credible
                      exact of_decide_eq_true credible.1
                    simp only [List.length_cons, ubxParserBufferBytes]
                    omega
                · split at waits <;> cases waits
      · cases waits

/-! ## Streams -/

/-- A parser between two calls: no more is buffered than could still become a frame. -/
structure Held (parser : UbxParser) : Prop where
  ordered : parser.start ≤ parser.stop
  bounded : parser.stop ≤ ubxParserBufferBytes
  handler : parser.handler = true
  waits : ubxJudge parser.window = .wait

/-- The byte appended next is written inside the buffer. -/
theorem Held.room (held : Held parser) : parser.compact.stop < ubxParserBufferBytes := by
  rw [compact]
  split
  · have short := ubxJudge_wait_length held.waits
    rwa [window, length_slice] at short
  · next some => exact Nat.lt_of_le_of_ne held.bounded some

/-- What a call did, against the parse of what it found. -/
structure Received (nowMs lastByteMs : BitVec 32) (parsed : Parsed Byte UbxFrame)
    (result : List UbxOutput × UbxParser) : Prop where
  outputs : result.1 = parsed.frames.map (UbxFrame.output nowMs)
  window : result.2.window = parsed.rest
  held : result.2.Held
  lastByteMs : result.2.lastByteMs = lastByteMs

theorem Received.frames {lastByteMs : BitVec 32} {parsed : Parsed Byte UbxFrame}
    {result : List UbxOutput × UbxParser} (received : Received nowMs lastByteMs parsed result) :
    result.1.map UbxOutput.frame = parsed.frames := by
  rw [received.outputs, List.map_map]
  exact List.map_id'' UbxFrame.frame_output _

theorem feed_received (held : Held parser) (byte : Byte) (nowMs : BitVec 32) :
    Received nowMs nowMs (ubxFraming.receive parser.window (.byte byte))
      (parser.feed byte nowMs) := by
  let noted : UbxParser :=
    { parser with
      lastByteMs := nowMs
      stats := { parser.stats with bytesReceived := parser.stats.bytesReceived + 1 } }
  have ordered : noted.start ≤ noted.stop := held.ordered
  have before : noted.Held := ⟨held.ordered, held.bounded, held.handler, held.waits⟩
  have room : (noted.append byte).stop ≤ ubxParserBufferBytes := before.room
  have moved : (noted.append byte).start ≤ (noted.append byte).stop :=
    Nat.le_succ_of_le (compact_ordered ordered)
  have same : (noted.append byte).handler = parser.handler ∧
      (noted.append byte).lastByteMs = nowMs := by
    rw [append, compact]
    split <;> exact ⟨rfl, rfl⟩
  have found := processFrames_found nowMs false moved
    (same.1.trans held.handler)
  rw [append_window ordered] at found
  have waits := ubxFraming.judge_rest (noted.window ++ [byte])
  rw [← found.window] at waits
  exact
    { outputs := found.outputs
      window := found.window
      held := ⟨found.consumed.ordered, Nat.le_trans found.consumed.within room,
        found.consumed.handler.trans (same.1.trans held.handler), waits⟩
      lastByteMs := found.consumed.lastByteMs.trans same.2 }

theorem flush_received (held : Held parser) :
    Received nowMs parser.lastByteMs (ubxFraming.receive parser.window .silence)
      ({ parser with
        stats := { parser.stats with timeouts := parser.stats.timeouts + 1 } }.processFrames
          nowMs true) := by
  let noted : UbxParser :=
    { parser with stats := { parser.stats with timeouts := parser.stats.timeouts + 1 } }
  have found : Found noted nowMs (ubxFraming.parse true noted.window)
      (noted.processFrames nowMs true) :=
    processFrames_found nowMs true held.ordered held.handler
  have empty := found.window.trans (Framing.flush_rest noted.window)
  exact
    { outputs := found.outputs
      window := found.window
      held := ⟨found.consumed.ordered, Nat.le_trans found.consumed.within held.bounded,
        found.consumed.handler.trans held.handler, by rw [empty]; rfl⟩
      lastByteMs := found.consumed.lastByteMs }

/-- A timeout with nothing buffered is as good as a flush. -/
theorem checkTimeout_received (held : Held parser)
    (quiet : ubxParserTimeoutMs ≤ nowMs - parser.lastByteMs) :
    Received nowMs parser.lastByteMs (ubxFraming.receive parser.window .silence)
      (parser.checkTimeout nowMs) := by
  rw [checkTimeout]
  by_cases some : 0 < parser.bufferedBytes
  · rw [if_pos ⟨some, quiet⟩]
    exact flush_received held
  · have none : parser.window = [] := by
      rw [window, Nat.eq_zero_of_not_pos some]
      rfl
    rw [if_neg fun both => some both.1, none, Framing.receive, Framing.parse_nil]
    exact ⟨rfl, none, held, rfl⟩

theorem checkTimeout_early (quiet : ¬ubxParserTimeoutMs ≤ nowMs - parser.lastByteMs) :
    parser.checkTimeout nowMs = ([], parser) := by
  rw [checkTimeout, if_neg fun both => quiet both.2]

inductive UbxCall
  | feed (byte : Byte) (nowMs : BitVec 32)
  | checkTimeout (nowMs : BitVec 32)
  deriving DecidableEq, Repr

def call (parser : UbxParser) : UbxCall → List UbxOutput × UbxParser
  | .feed byte nowMs => parser.feed byte nowMs
  | .checkTimeout nowMs => parser.checkTimeout nowMs

/-- What the calls did one after another, and the parser after them. -/
def run (parser : UbxParser) : List UbxCall → List UbxOutput × UbxParser
  | [] => ([], parser)
  | first :: later =>
      let (outputs, next) := parser.call first
      let (more, final) := next.run later
      (outputs ++ more, final)

/-- The stream a parser hears: the bytes fed to it, and a silence where its timeout has
passed since the last of them. -/
def heard (lastByteMs : BitVec 32) : List UbxCall → List (Framing.Heard Byte)
  | [] => []
  | .feed byte nowMs :: later => .byte byte :: heard nowMs later
  | .checkTimeout nowMs :: later =>
      if ubxParserTimeoutMs ≤ nowMs - lastByteMs then .silence :: heard lastByteMs later
      else heard lastByteMs later

theorem run_stream (held : Held parser) (calls : List UbxCall) :
    (parser.run calls).1.map UbxOutput.frame =
        (ubxFraming.stream parser.window (heard parser.lastByteMs calls)).frames ∧
      (parser.run calls).2.window =
        (ubxFraming.stream parser.window (heard parser.lastByteMs calls)).rest ∧
      Held (parser.run calls).2 := by
  induction calls generalizing parser with
  | nil => exact ⟨rfl, rfl, held⟩
  | cons first later ih =>
      cases first with
      | feed byte nowMs =>
          have received := feed_received held byte nowMs
          obtain ⟨outputs, window, final⟩ := ih received.held
          rw [received.window, received.lastByteMs] at outputs window
          refine ⟨?_, window, final⟩
          rw [heard, Framing.stream, Parsed.frames_after, ← outputs]
          exact (List.map_append).trans (congrArg (· ++ _) received.frames)
      | checkTimeout nowMs =>
          by_cases quiet : ubxParserTimeoutMs ≤ nowMs - parser.lastByteMs
          · have received := checkTimeout_received held quiet
            obtain ⟨outputs, window, final⟩ := ih received.held
            rw [received.window, received.lastByteMs] at outputs window
            rw [heard, if_pos quiet]
            refine ⟨?_, window, final⟩
            rw [Framing.stream, Parsed.frames_after, ← outputs]
            exact (List.map_append).trans (congrArg (· ++ _) received.frames)
          · have same : parser.call (.checkTimeout nowMs) = ([], parser) := checkTimeout_early quiet
            rw [run, same, heard, if_neg quiet]
            exact ih held

/-- The bytes fed by some calls. -/
def fed : List UbxCall → List Byte
  | [] => []
  | .feed byte _ :: later => byte :: fed later
  | .checkTimeout _ :: later => fed later

theorem heard_bytes (lastByteMs : BitVec 32) (calls : List UbxCall) :
    (heard lastByteMs calls).flatMap Framing.Heard.toBytes = fed calls := by
  induction calls generalizing lastByteMs with
  | nil => rfl
  | cons first later ih =>
      cases first with
      | feed byte nowMs =>
          rw [heard, List.flatMap_cons, ih, fed]
          rfl
      | checkTimeout nowMs =>
          rw [heard, fed]
          split
          · rw [List.flatMap_cons, ih]
            rfl
          · exact ih lastByteMs

/-- Where the bytes stand in the buffer makes no difference to a call. -/
theorem call_window {other : UbxParser} (held : Held parser) (same : other.Held)
    (window : parser.window = other.window) (lastByteMs : parser.lastByteMs = other.lastByteMs)
    (made : UbxCall) :
    (parser.call made).1 = (other.call made).1 ∧
      (parser.call made).2.window = (other.call made).2.window := by
  cases made with
  | feed byte nowMs =>
      have first := feed_received held byte nowMs
      have second := feed_received same byte nowMs
      rw [window] at first
      exact ⟨first.outputs.trans second.outputs.symm, first.window.trans second.window.symm⟩
  | checkTimeout nowMs =>
      by_cases quiet : ubxParserTimeoutMs ≤ nowMs - parser.lastByteMs
      · have first := checkTimeout_received held quiet
        have second := checkTimeout_received same (lastByteMs ▸ quiet)
        rw [window] at first
        exact ⟨first.outputs.trans second.outputs.symm, first.window.trans second.window.symm⟩
      · have early := checkTimeout_early quiet
        have quietToo : ¬ubxParserTimeoutMs ≤ nowMs - other.lastByteMs := lastByteMs ▸ quiet
        have late := checkTimeout_early quietToo
        exact ⟨(congrArg Prod.fst early).trans (congrArg Prod.fst late).symm,
          (congrArg (·.2.window) early).trans (window.trans (congrArg (·.2.window) late).symm)⟩

/-- **The parser refines a parse from left to right.** Whatever is fed and wherever
timeouts are checked, the frames dispatched and skipped, in their order, are those of each
stretch between two silences parsed at once, and what is buffered is what that parse
leaves over; every byte fed is in one piece of it or buffered. The indices stay in order
and in the buffer, and the next byte has room. A timeout that has passed leaves nothing,
and a parser with the same bytes at other indices goes on alike. -/
theorem feed_refines_batch (calls : List UbxCall) :
    let parsed := ubxFraming.batch [] (heard 0 calls)
    let final := (({} : UbxParser).run calls).2
    (({} : UbxParser).run calls).1.map UbxOutput.frame = parsed.frames ∧
      final.window = parsed.rest ∧
      parsed.pieces.flatMap Piece.bytes ++ final.window = fed calls ∧
      (final.start ≤ final.stop ∧ final.stop ≤ ubxParserBufferBytes ∧
        final.compact.stop < ubxParserBufferBytes) ∧
      (∀ nowMs, ubxParserTimeoutMs ≤ nowMs - final.lastByteMs →
        (final.checkTimeout nowMs).2.window = []) ∧
      ∀ other : UbxParser, other.Held → final.window = other.window →
        final.lastByteMs = other.lastByteMs → ∀ made,
          (final.call made).1 = (other.call made).1 ∧
            (final.call made).2.window = (other.call made).2.window := by
  have started : ({} : UbxParser).Held := ⟨Nat.le_refl 0, Nat.zero_le _, rfl, rfl⟩
  obtain ⟨outputs, window, held⟩ := run_stream started calls
  have batch := ubxFraming.stream_eq_batch [] (heard 0 calls)
  have bytes := ubxFraming.stream_bytes [] (heard 0 calls)
  rw [Framing.parse_nil, Parsed.after_nil] at batch
  rw [batch, List.nil_append, heard_bytes] at bytes
  change _ = (ubxFraming.stream [] (heard 0 calls)).frames at outputs
  change _ = (ubxFraming.stream [] (heard 0 calls)).rest at window
  rw [batch] at outputs window
  refine ⟨outputs, window, ?_, ⟨held.ordered, held.bounded, held.room⟩, fun nowMs quiet => ?_,
    fun other same => call_window held same⟩
  · rw [window]
    exact bytes
  · rw [(checkTimeout_received held quiet).window]
    exact Framing.flush_rest _

end UbxParser

end GpsClock.Gnss
