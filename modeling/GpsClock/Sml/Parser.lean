import GpsClock.Sml.Fields

/-! # Frames and the receiving parser

`sml_frame` wraps a payload as `B5 73 CLASS ID LEN_H LEN_L PAYLOAD CRC_H CRC_L`.
The parser keeps the bytes received since the last it gave up, drops one at a
time from the front until a frame could start there, and returns a frame once it
is complete and its checksum holds. A returned frame stays in the buffer until
the next call releases it.

The buffer is the list of its first `count` bytes, so dropping from the front is
the source's `memmove`.
-/

namespace GpsClock.Sml

def smlMagic1 : Byte := 0xB5

def smlMagic2 : Byte := 0x73

def smlHeaderBytes : Nat := 6

def smlCrcBytes : Nat := 2

def smlMaxPayloadBytes : Nat := 240

def smlMaxFrameBytes : Nat := 248

/-! ## Sending -/

/-- `sml_frame`: the frame's bytes, none for a payload too long. -/
def smlFrame (classId messageId : Byte) (payload : List Byte) : List Byte :=
  if payload.length > smlMaxPayloadBytes then []
  else
    let head := [smlMagic1, smlMagic2, classId, messageId] ++
      wordBytes (BitVec.ofNat 16 payload.length) ++ payload
    head ++ wordBytes (smlCrc smlCrcInit head)

/-- `sml_frame_message`, into a buffer holding `frame`. -/
def smlFrameMessage (order : ByteOrder) (classId messageId : Byte) (native frame : Memory) :
    List Byte :=
  match smlMessage classId messageId with
  | none => []
  | some message =>
      if message.length = 0 then []
      else
        let wire := (smlEncode order message.layout native fun index =>
          frame (smlHeaderBytes + index)).1
        smlFrame classId messageId ((List.range message.length).map wire)

/-! ## Receiving -/

/-- A frame as handed to the caller. -/
structure SmlFrame where
  classId : Byte
  messageId : Byte
  length : Nat
  payload : List Byte
  deriving DecidableEq, Repr

structure SmlParserStats where
  frames : BitVec 32 := 0
  noiseBytes : BitVec 32 := 0
  crcErrors : BitVec 32 := 0
  lengthErrors : BitVec 32 := 0
  timeouts : BitVec 32 := 0
  deriving DecidableEq, Repr

structure SmlParser where
  buffer : List Byte := []
  /-- The frame last returned, released on the next call. -/
  consumed : Nat := 0
  stats : SmlParserStats := {}
  deriving DecidableEq, Repr

/-- `parser->count`. -/
def SmlParser.count (parser : SmlParser) : Nat := parser.buffer.length

/-- `sml_parser_init`. -/
def smlParserInit : SmlParser := {}

/-- `drop`. -/
def SmlParser.drop (parser : SmlParser) (bytes : Nat) : SmlParser :=
  { parser with buffer := parser.buffer.drop bytes }

def SmlParserStats.noise (stats : SmlParserStats) : SmlParserStats :=
  { stats with noiseBytes := stats.noiseBytes + 1 }

/-- The length field of a buffered header. -/
def headerLength (buffer : List Byte) : Nat :=
  (smlGetU16 (buffer.getD 4 0) (buffer.getD 5 0)).toNat

/-- The frame's length by its header. -/
def frameTotal (buffer : List Byte) : Nat :=
  smlHeaderBytes + headerLength buffer + smlCrcBytes

/-- `scan`'s comparison of the checksum received with the one computed. -/
def crcMatches (buffer : List Byte) : Bool :=
  let total := frameTotal buffer
  smlCrc smlCrcInit (buffer.take (total - smlCrcBytes)) =
    smlGetU16 (buffer.getD (total - smlCrcBytes) 0) (buffer.getD (total - smlCrcBytes + 1) 0)

/-- The frame `scan` returns from the front of the buffer. -/
def frameOf (buffer : List Byte) : SmlFrame where
  classId := buffer.getD 2 0
  messageId := buffer.getD 3 0
  length := headerLength buffer
  payload := (buffer.drop smlHeaderBytes).take (headerLength buffer)

/-- `scan`'s loop over the buffer: the frame found, what is left buffered, what
`consumed` becomes and the counters. -/
def scanBuffer (consumed : Nat) : List Byte → SmlParserStats → Option SmlFrame × SmlParser
  | [], stats => (none, ⟨[], consumed, stats⟩)
  | first :: rest, stats =>
      let buffer := first :: rest
      if first ≠ smlMagic1 ∨ (2 ≤ buffer.length ∧ buffer.getD 1 0 ≠ smlMagic2) then
        scanBuffer consumed rest stats.noise
      else if buffer.length < smlHeaderBytes then (none, ⟨buffer, consumed, stats⟩)
      else if headerLength buffer > smlMaxPayloadBytes then
        scanBuffer consumed rest
          { stats with lengthErrors := stats.lengthErrors + 1 }.noise
      else if buffer.length < frameTotal buffer then (none, ⟨buffer, consumed, stats⟩)
      else if crcMatches buffer then
        (some (frameOf buffer),
          ⟨buffer, frameTotal buffer, { stats with frames := stats.frames + 1 }⟩)
      else scanBuffer consumed rest { stats with crcErrors := stats.crcErrors + 1 }.noise

def scan (parser : SmlParser) : Option SmlFrame × SmlParser :=
  scanBuffer parser.consumed parser.buffer parser.stats

/-- `release`. -/
def release (parser : SmlParser) : SmlParser :=
  if parser.consumed ≠ 0 then { parser.drop parser.consumed with consumed := 0 } else parser

/-- The frame returned, if the call returned true. -/
def smlParserPush (parser : SmlParser) (byte : Byte) : Option SmlFrame × SmlParser :=
  let released := release parser
  scan { released with buffer := released.buffer ++ [byte] }

def smlParserNext (parser : SmlParser) : Option SmlFrame × SmlParser :=
  scan (release parser)

def smlParserTimeout (parser : SmlParser) : Bool × SmlParser :=
  let released := release parser
  if released.count = 0 then (false, released)
  else
    (true,
      { released with
        buffer := []
        stats :=
          { released.stats with
            timeouts := released.stats.timeouts + 1
            noiseBytes := released.stats.noiseBytes + BitVec.ofNat 32 released.count } })

/-! ## What stands at the front of the buffer -/

/-- What the checks say about a frame starting at the front of some bytes: one
stands there whole, one could still start there, or none can. -/
inductive Verdict
  | complete
  | open_
  | noise
  deriving DecidableEq, Repr

/-- Both magic bytes, a length in range and a matching checksum, each judged once
its bytes are there. -/
def verdict (bytes : List Byte) : Verdict :=
  match bytes with
  | [] => .open_
  | first :: _ =>
      if first ≠ smlMagic1 ∨ (2 ≤ bytes.length ∧ bytes.getD 1 0 ≠ smlMagic2) then .noise
      else if bytes.length < smlHeaderBytes then .open_
      else if headerLength bytes > smlMaxPayloadBytes then .noise
      else if bytes.length < frameTotal bytes then .open_
      else if crcMatches bytes then .complete
      else .noise

@[simp] theorem verdict_nil : verdict [] = .open_ := rfl

theorem headerLength_append (bytes more : List Byte) (header : smlHeaderBytes ≤ bytes.length) :
    headerLength (bytes ++ more) = headerLength bytes := by
  rw [smlHeaderBytes] at header
  simp only [headerLength, List.getD_eq_getElem?_getD]
  rw [List.getElem?_append_left (by omega), List.getElem?_append_left (by omega)]

theorem frameTotal_append (bytes more : List Byte) (header : smlHeaderBytes ≤ bytes.length) :
    frameTotal (bytes ++ more) = frameTotal bytes := by
  rw [frameTotal, headerLength_append bytes more header, frameTotal]

theorem crcMatches_append (bytes more : List Byte) (whole : frameTotal bytes ≤ bytes.length) :
    crcMatches (bytes ++ more) = crcMatches bytes := by
  have header : smlHeaderBytes ≤ bytes.length := by
    unfold frameTotal at whole
    omega
  have split : frameTotal bytes - smlCrcBytes + 2 = frameTotal bytes := by
    unfold frameTotal smlCrcBytes
    omega
  simp only [crcMatches, frameTotal_append bytes more header, List.getD_eq_getElem?_getD]
  rw [List.take_append_of_le_length (by omega), List.getElem?_append_left (by omega),
    List.getElem?_append_left (by omega)]

theorem frameOf_append (bytes more : List Byte) (whole : frameTotal bytes ≤ bytes.length) :
    frameOf (bytes ++ more) = frameOf bytes := by
  have header : smlHeaderBytes ≤ bytes.length := by
    unfold frameTotal at whole
    omega
  have payload : headerLength bytes ≤ (bytes.drop smlHeaderBytes).length := by
    rw [List.length_drop]
    unfold frameTotal at whole
    omega
  unfold frameOf
  rw [headerLength_append bytes more header, List.drop_append_of_le_length header,
    List.take_append_of_le_length payload]
  rw [smlHeaderBytes] at header
  simp only [List.getD_eq_getElem?_getD]
  rw [List.getElem?_append_left (by omega), List.getElem?_append_left (by omega)]

/-- A complete frame is there to its last byte. -/
theorem verdict_complete {bytes : List Byte} (complete : verdict bytes = .complete) :
    smlHeaderBytes ≤ bytes.length ∧ headerLength bytes ≤ smlMaxPayloadBytes ∧
      frameTotal bytes ≤ bytes.length := by
  cases bytes with
  | nil => cases complete
  | cons first rest =>
      simp only [verdict] at complete
      split at complete
      · cases complete
      · split at complete
        · cases complete
        · split at complete
          · cases complete
          · split at complete
            · cases complete
            · refine ⟨?_, ?_, ?_⟩ <;> omega

/-- Bytes that could still start a frame are fewer than the longest frame. -/
theorem verdict_open_length {bytes : List Byte} (unresolved : verdict bytes = .open_) :
    bytes.length < smlMaxFrameBytes := by
  cases bytes with
  | nil => decide
  | cons first rest =>
      simp only [verdict] at unresolved
      split at unresolved
      · cases unresolved
      · split at unresolved
        · next short => exact Nat.lt_trans short (by decide)
        · split at unresolved
          · cases unresolved
          · split at unresolved
            · next partial_ =>
                unfold frameTotal smlHeaderBytes smlCrcBytes at partial_
                unfold smlMaxPayloadBytes at *
                unfold smlMaxFrameBytes
                omega
            · split at unresolved <;> cases unresolved

/-- More bytes never change a verdict that has been reached. -/
theorem verdict_append {bytes : List Byte} (more : List Byte)
    (resolved : verdict bytes ≠ .open_) : verdict (bytes ++ more) = verdict bytes := by
  cases bytes with
  | nil => exact (resolved rfl).elim
  | cons first rest =>
      have longer : (first :: rest).length ≤ (first :: (rest ++ more)).length := by simp
      simp only [verdict, List.cons_append] at resolved ⊢
      by_cases magic : first ≠ smlMagic1 ∨
          (2 ≤ (first :: rest).length ∧ (first :: rest).getD 1 0 ≠ smlMagic2)
      · have later : first ≠ smlMagic1 ∨ (2 ≤ (first :: (rest ++ more)).length ∧
            (first :: (rest ++ more)).getD 1 0 ≠ smlMagic2) := by
          refine magic.imp_right fun second => ⟨Nat.le_trans second.1 longer, ?_⟩
          cases rest with
          | nil => simp at second
          | cons next rest => simpa using second.2
        rw [if_pos magic, if_pos later]
      · rw [if_neg magic] at resolved ⊢
        by_cases short : (first :: rest).length < smlHeaderBytes
        · rw [if_pos short] at resolved
          exact (resolved rfl).elim
        · have header : smlHeaderBytes ≤ (first :: rest).length := by omega
          have sameLength := headerLength_append (first :: rest) more header
          have sameTotal := frameTotal_append (first :: rest) more header
          have later : ¬ (first ≠ smlMagic1 ∨ (2 ≤ (first :: (rest ++ more)).length ∧
              (first :: (rest ++ more)).getD 1 0 ≠ smlMagic2)) := by
            cases rest with
            | nil => exact (short (by simp [smlHeaderBytes])).elim
            | cons next rest =>
                rw [not_or, not_and] at magic ⊢
                exact ⟨magic.1, fun _ => by simpa using magic.2 (by simp)⟩
          rw [List.cons_append] at sameLength sameTotal
          have headerLater := Nat.not_lt.mpr (Nat.le_trans header longer)
          rw [if_neg later, if_neg headerLater, sameLength, sameTotal]
          rw [if_neg short] at resolved ⊢
          by_cases long : headerLength (first :: rest) > smlMaxPayloadBytes
          · rw [if_pos long, if_pos long]
          · rw [if_neg long] at resolved
            rw [if_neg long, if_neg long]
            by_cases part : (first :: rest).length < frameTotal (first :: rest)
            · rw [if_pos part] at resolved
              exact (resolved rfl).elim
            · have whole := Nat.not_lt.mp part
              have sameCrc := crcMatches_append (first :: rest) more whole
              rw [List.cons_append] at sameCrc
              have partLater := Nat.not_lt.mpr (Nat.le_trans whole longer)
              simp only [part, partLater, ↓reduceIte, sameCrc]

end GpsClock.Sml
