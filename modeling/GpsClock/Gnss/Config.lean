import GpsClock.Gnss.UbxParser
import GpsClock.Lib.LittleEndian

/-! # The receiver's configuration

`ubx_encode.c`'s builder puts keys and values into a message pair by pair, and poisons it when one
does not go in; `ubx_decode.c`'s reader takes them out of a payload one after another. What was added
is what is read back, a poisoned message is never finished, and the reader stops within any payload
(`GpsClock.Gnss.values_read_back`).
-/

namespace GpsClock.Gnss

open Sml (Memory)

/-- `UBX_CFG_KEY_VALUE_SIZE`: 0 for an invalid size code. -/
def ubxCfgKeyValueSize (key : BitVec 32) : Nat :=
  match ((key >>> 28) &&& 7).toNat with
  | 1 => 1
  | 2 => 1
  | 3 => 2
  | 4 => 4
  | 5 => 8
  | _ => 0

def ubxHeaderOffsetClass : Nat := 2

def ubxClassCfg : Byte := 0x06

def ubxIdCfgValset : Byte := 0x8A

def ubxCfgValHeaderLength : Nat := 4

def ubxCfgValMaxKeys : Nat := 64

def ubxCfgMessageCapacity : Nat := 256

/-! ## The builder -/

structure UbxCfgMessage where
  frame : Memory := fun _ => 0
  frameLength : Nat := 0
  payloadLength : Nat := 0
  messageId : Byte := 0
  keyCount : Nat := 0
  overflowed : Bool := false

/-- `write_header`. -/
def writeHeader (frame : Memory) (classId messageId : Byte) (payloadLength : Nat) : Memory :=
  let frame := Function.update (Function.update frame 0 ubxSyncChar1) 1 ubxSyncChar2
  let frame := Function.update (Function.update frame 2 classId) 3 messageId
  Function.update (Function.update frame 4 (BitVec.ofNat 8 payloadLength)) 5
    (BitVec.ofNat 8 (payloadLength / 256))

/-- `write_checksum`, once the header is in place. -/
def writeChecksum (frame : Memory) (payloadLength : Nat) : Memory :=
  let covered := payloadLength + ubxHeaderLength - ubxHeaderOffsetClass
  let sums := ubxChecksum (slice frame ubxHeaderOffsetClass covered)
  Function.update (Function.update frame (ubxHeaderLength + payloadLength) sums.1)
    (ubxHeaderLength + payloadLength + 1) sums.2

/-- `cfg_append`'s loop. -/
def putLittleEndian (memory : Memory) (cursor : Nat) (value : BitVec 32) : (size : Nat) → Memory
  | 0 => memory
  | index + 1 =>
      Function.update (putLittleEndian memory cursor value index) (cursor + index)
        ((value >>> (8 * index)).setWidth 8)

namespace UbxCfgMessage

/-- `cfg_begin`. -/
def cfgBegin (messageId layer : Byte) : UbxCfgMessage where
  -- The version, 0, and the layers; the position stays zero.
  frame := Function.update (Function.update (fun _ => 0) ubxHeaderLength 0) (ubxHeaderLength + 1) layer
  messageId := messageId
  payloadLength := ubxCfgValHeaderLength

/-- `cfg_append`. -/
def cfgAppend (message : UbxCfgMessage) (value : BitVec 32) (size : Nat) : Bool × UbxCfgMessage :=
  if message.overflowed ∨
      ubxCfgMessageCapacity < message.payloadLength + size + ubxFrameOverhead then
    (false, { message with overflowed := true })
  else
    (true,
      { message with
        frame := putLittleEndian message.frame (ubxHeaderLength + message.payloadLength) value size
        payloadLength := message.payloadLength + size })

/-- `cfg_append_key`. -/
def cfgAppendKey (message : UbxCfgMessage) (key : BitVec 32) : Bool × UbxCfgMessage :=
  if ubxCfgValMaxKeys ≤ message.keyCount then (false, { message with overflowed := true })
  else
    match message.cfgAppend key 4 with
    | (false, message) => (false, message)
    | (true, message) => (true, { message with keyCount := message.keyCount + 1 })

/-- `ubx_encode_valset_begin`. -/
def valsetBegin (layers : Byte) : UbxCfgMessage :=
  cfgBegin ubxIdCfgValset layers

/-- `ubx_encode_valset_add`. -/
def valsetAdd (message : UbxCfgMessage) (key value : BitVec 32) : Bool × UbxCfgMessage :=
  let size := ubxCfgKeyValueSize key
  if message.messageId ≠ ubxIdCfgValset then (false, message)
  else if size = 0 ∨ 4 < size then (false, { message with overflowed := true })
  -- Space for both, so that a pair is never split.
  else if ubxCfgMessageCapacity < message.payloadLength + 4 + size + ubxFrameOverhead then
    (false, { message with overflowed := true })
  else
    match message.cfgAppendKey key with
    | (false, message) => (false, message)
    | (true, message) => message.cfgAppend value size

/-- `ubx_encode_cfg_finish`. -/
def cfgFinish (message : UbxCfgMessage) : Bool × UbxCfgMessage :=
  if message.overflowed ∨ message.keyCount = 0 then (false, message)
  else
    (true,
      { message with
        frame :=
          writeChecksum (writeHeader message.frame ubxClassCfg message.messageId message.payloadLength)
            message.payloadLength
        frameLength := message.payloadLength + ubxFrameOverhead })

/-- The payload, in its place in the frame. -/
def payload (message : UbxCfgMessage) : List Byte :=
  slice message.frame ubxHeaderLength message.payloadLength

/-- Pairs added one after another, each with what its call returned. -/
def addAll (message : UbxCfgMessage) : List (BitVec 32 × BitVec 32) → List Bool × UbxCfgMessage
  | [] => ([], message)
  | (key, value) :: pairs =>
      let added := message.valsetAdd key value
      let later := added.2.addAll pairs
      (added.1 :: later.1, later.2)

end UbxCfgMessage

/-! ## The reader -/

/-- The cursor and the end as places in the payload. -/
structure UbxCfgValueReader where
  cursor : Nat
  stop : Nat
  layer : Byte
  position : BitVec 16
  deriving DecidableEq, Repr

structure UbxCfgValue where
  key : BitVec 32
  value : BitVec 32
  size : Nat
  deriving DecidableEq, Repr

inductive UbxCfgReadResult
  | readItem (item : UbxCfgValue)
  | readEnd
  | readMalformed
  deriving DecidableEq, Repr

/-- Bytes from a place on, the least significant first; nothing past the payload's end. -/
def readLittleEndian (payload : List Byte) (cursor : Nat) : (count : Nat) → Option (BitVec 32)
  | 0 => some 0
  | index + 1 =>
      match readLittleEndian payload cursor index, payload[cursor + index]? with
      | some value, some byte => some (value ||| (byte.setWidth 32 <<< (8 * index)))
      | _, _ => none

/-- `read_u16`. -/
def readU16 (payload : List Byte) (cursor : Nat) : Option (BitVec 16) :=
  match payload[cursor]?, payload[cursor + 1]? with
  | some low, some high => some (low.setWidth 16 ||| (high.setWidth 16 <<< 8))
  | _, _ => none

/-- `read_u32`. -/
def readU32 (payload : List Byte) (cursor : Nat) : Option (BitVec 32) :=
  readLittleEndian payload cursor 4

/-- `ubx_decode_valget_open`. -/
def valgetOpen (payload : List Byte) : Option UbxCfgValueReader :=
  if payload.length < ubxCfgValHeaderLength then none
  else
    match payload[1]?, readU16 payload 2 with
    | some layer, some position =>
        some
          { cursor := ubxCfgValHeaderLength
            stop := payload.length
            layer := layer
            position := position }
    | _, _ => none

/-- `ubx_decode_valget_next`: nothing where it would read past the payload's end. -/
def valgetNext (payload : List Byte) (reader : UbxCfgValueReader) :
    Option (UbxCfgReadResult × UbxCfgValueReader) :=
  if reader.cursor = reader.stop then some (.readEnd, reader)
  else if reader.stop - reader.cursor < 4 then some (.readMalformed, reader)
  else
    match readU32 payload reader.cursor with
    | none => none
    | some key =>
        let size := ubxCfgKeyValueSize key
        if size = 0 ∨ reader.stop - reader.cursor < 4 + size then some (.readMalformed, reader)
        else
          match readLittleEndian payload (reader.cursor + 4) (min size 4) with
          | none => none
          | some value =>
              some (.readItem ⟨key, value, size⟩, { reader with cursor := reader.cursor + 4 + size })

/-- The values read by so many calls, and what ended them if anything did. -/
def readValues (payload : List Byte) :
    (calls : Nat) → UbxCfgValueReader → Option (List UbxCfgValue × Option UbxCfgReadResult)
  | 0, _ => some ([], none)
  | calls + 1, reader =>
      match valgetNext payload reader with
      | none => none
      | some (.readItem item, reader) =>
          match readValues payload calls reader with
          | none => none
          | some (items, ended) => some (item :: items, ended)
      | some (ended, _) => some ([], some ended)

/-! ## Reading at a place -/

/-- As many bytes as there are, up to a word, are read as the number they spell. -/
theorem readLittleEndian_eq {payload : List Byte} {cursor count : Nat} (few : count ≤ 4)
    (inside : cursor + count ≤ payload.length) :
    ∃ word, readLittleEndian payload cursor count = some word ∧
      word.toNat = LittleEndian.number ((payload.drop cursor).take count) := by
  induction count with
  | zero => exact ⟨0, rfl, rfl⟩
  | succ index ih =>
      obtain ⟨word, read, spelt⟩ := ih (Nat.le_of_succ_le few) (Nat.le_of_succ_le inside)
      have here : payload[cursor + index]? = some payload[cursor + index] :=
        List.getElem?_eq_getElem _
      have length : ((payload.drop cursor).take index).length = index := by
        rw [List.length_take, List.length_drop]
        omega
      have next : (payload.drop cursor).take (index + 1) =
          (payload.drop cursor).take index ++ [payload[cursor + index]] := by
        rw [List.take_add_one, List.getElem?_drop, here]
        rfl
      refine ⟨word ||| (payload[cursor + index].setWidth 32 <<< (8 * index)), ?_, ?_⟩
      · rw [readLittleEndian, read, here]
      · rw [next]
        have placed := LittleEndian.or_shiftLeft spelt payload[cursor + index]
          (by rw [length]; omega)
        rwa [length] at placed

/-- A reader within its payload. -/
structure UbxCfgValueReader.Within (reader : UbxCfgValueReader) (payload : List Byte) : Prop where
  stop : reader.stop = payload.length
  cursor : reader.cursor ≤ payload.length

/-- A size code's sizes. -/
theorem ubxCfgKeyValueSize_le (key : BitVec 32) : ubxCfgKeyValueSize key ≤ 8 := by
  unfold ubxCfgKeyValueSize
  split <;> decide

/-- A call reads nothing past the end, and an item moves the reader on by five bytes at least. -/
theorem valgetNext_within {payload : List Byte} {reader : UbxCfgValueReader}
    (within : reader.Within payload) :
    ∃ result next, valgetNext payload reader = some (result, next) ∧
      ∀ item, result = .readItem item → next.Within payload ∧ reader.cursor + 5 ≤ next.cursor := by
  obtain ⟨stop, cursor⟩ := within
  rw [valgetNext]
  split
  · exact ⟨_, _, rfl, fun _ wrong => by cases wrong⟩
  · split
    · exact ⟨_, _, rfl, fun _ wrong => by cases wrong⟩
    · next room =>
        obtain ⟨key, read, -⟩ :=
          readLittleEndian_eq le_rfl (by omega : reader.cursor + 4 ≤ payload.length)
        rw [readU32, read]
        dsimp only
        split
        · exact ⟨_, _, rfl, fun _ wrong => by cases wrong⟩
        · next sized =>
            obtain ⟨value, readValue, -⟩ := readLittleEndian_eq (Nat.min_le_right _ 4)
              (by omega : reader.cursor + 4 + min (ubxCfgKeyValueSize key) 4 ≤ payload.length)
            rw [readValue]
            refine ⟨_, _, rfl, fun _ _ => ⟨⟨stop, ?_⟩, ?_⟩⟩
            · dsimp only
              omega
            · dsimp only
              omega

/-- Reading ends, by the end or by what is malformed, after an item for every five bytes at most. -/
theorem readValues_ends {payload : List Byte} {reader : UbxCfgValueReader}
    (within : reader.Within payload) {calls : Nat}
    (enough : payload.length - reader.cursor < 5 * calls) :
    ∃ items ended, readValues payload calls reader = some (items, some ended) ∧
      (ended = .readEnd ∨ ended = .readMalformed) ∧
      5 * items.length ≤ payload.length - reader.cursor := by
  induction calls generalizing reader with
  | zero => exact absurd enough (Nat.not_lt_zero _)
  | succ calls ih =>
      obtain ⟨result, next, called, moved⟩ := valgetNext_within within
      rw [readValues, called]
      cases result with
      | readItem item =>
          obtain ⟨withinNext, ahead⟩ := moved item rfl
          have bound := withinNext.cursor
          obtain ⟨items, ended, read, stops, few⟩ := @ih next withinNext (by omega)
          dsimp only
          rw [read]
          refine ⟨item :: items, ended, rfl, stops, ?_⟩
          rw [List.length_cons]
          omega
      | readEnd => exact ⟨[], .readEnd, rfl, .inl rfl, Nat.zero_le _⟩
      | readMalformed => exact ⟨[], .readMalformed, rfl, .inr rfl, Nat.zero_le _⟩

/-- A payload opens when it has its header, at the first byte after it. -/
theorem valgetOpen_spec (payload : List Byte) :
    (valgetOpen payload = none ↔ payload.length < 4) ∧
      ∀ reader, valgetOpen payload = some reader → reader.Within payload ∧ reader.cursor = 4 := by
  rw [valgetOpen, ubxCfgValHeaderLength]
  by_cases short : payload.length < 4
  · rw [if_pos short]
    exact ⟨iff_of_true rfl short, fun _ wrong => by cases wrong⟩
  · have layer : payload[1]? = some payload[1] := List.getElem?_eq_getElem _
    have low : payload[2]? = some payload[2] := List.getElem?_eq_getElem _
    have high : payload[2 + 1]? = some payload[3] := List.getElem?_eq_getElem _
    rw [if_neg short, readU16, layer, low, high]
    refine ⟨iff_of_false (by simp) short, ?_⟩
    rintro reader opened
    obtain rfl := Option.some.inj opened
    exact ⟨⟨rfl, Nat.le_of_not_lt short⟩, rfl⟩

/-! ## Reading back a pair -/

/-- A key and its value in a payload. -/
def pairBytes (pair : BitVec 32 × BitVec 32) : List Byte :=
  LittleEndian.bytes pair.1.toNat 4 ++ LittleEndian.bytes pair.2.toNat (ubxCfgKeyValueSize pair.1)

/-- A key with its value truncated to the key's size. -/
def truncated (pair : BitVec 32 × BitVec 32) : UbxCfgValue where
  key := pair.1
  value := BitVec.ofNat 32 (pair.2.toNat % 2 ^ (8 * ubxCfgKeyValueSize pair.1))
  size := ubxCfgKeyValueSize pair.1

/-- The sizes a message takes. -/
def Supported (pair : BitVec 32 × BitVec 32) : Prop :=
  0 < ubxCfgKeyValueSize pair.1 ∧ ubxCfgKeyValueSize pair.1 ≤ 4

/-- Bytes written at a place are read as the number they were written for, as far as they go. -/
theorem readLittleEndian_bytes {payload rest : List Byte} {cursor size : Nat} {value : BitVec 32}
    (few : size ≤ 4) (inside : cursor ≤ payload.length)
    (ahead : payload.drop cursor = LittleEndian.bytes value.toNat size ++ rest) :
    readLittleEndian payload cursor size = some (BitVec.ofNat 32 (value.toNat % 2 ^ (8 * size))) ∧
      cursor + size ≤ payload.length ∧ payload.drop (cursor + size) = rest := by
  have length := congrArg List.length ahead
  rw [List.length_drop, List.length_append, LittleEndian.length_bytes] at length
  have room : cursor + size ≤ payload.length := by omega
  obtain ⟨word, read, spelt⟩ := readLittleEndian_eq few room
  have written := LittleEndian.length_bytes value.toNat size
  rw [ahead, List.take_left' written, LittleEndian.number_bytes] at spelt
  have powers : (256 : Nat) ^ size = 2 ^ (8 * size) := by
    rw [pow_mul]
    rfl
  refine ⟨?_, room, ?_⟩
  · rw [read, ← powers, ← spelt, BitVec.ofNat_toNat, BitVec.setWidth_eq]
  · rw [← List.drop_drop, ahead, List.drop_left' written]

/-- The next call reads a pair as its key and its value truncated, and moves past it. -/
theorem valgetNext_pair {payload rest : List Byte} {reader : UbxCfgValueReader}
    {pair : BitVec 32 × BitVec 32} (supported : Supported pair) (within : reader.Within payload)
    (ahead : payload.drop reader.cursor = pairBytes pair ++ rest) :
    ∃ next, valgetNext payload reader = some (.readItem (truncated pair), next) ∧
      next.Within payload ∧ payload.drop next.cursor = rest := by
  obtain ⟨key, value⟩ := pair
  obtain ⟨some_, most⟩ := supported
  obtain ⟨stop, cursor⟩ := within
  dsimp only at some_ most
  rw [pairBytes, List.append_assoc] at ahead
  obtain ⟨keyRead, keyRoom, afterKey⟩ := readLittleEndian_bytes le_rfl cursor ahead
  obtain ⟨valueRead, room, after⟩ := readLittleEndian_bytes most keyRoom afterKey
  have whole : BitVec.ofNat 32 (key.toNat % 2 ^ (8 * 4)) = key := by
    rw [Nat.mod_eq_of_lt key.isLt, BitVec.ofNat_toNat, BitVec.setWidth_eq]
  rw [whole] at keyRead
  refine ⟨{ reader with cursor := reader.cursor + 4 + ubxCfgKeyValueSize key }, ?_,
    ⟨stop, room⟩, after⟩
  rw [valgetNext, if_neg (by omega), if_neg (by omega), readU32, keyRead]
  dsimp only
  rw [if_neg (by omega), Nat.min_eq_left most, valueRead]
  rfl

/-- Pairs are read one after another, and then the end. -/
theorem readValues_pairs {payload : List Byte} {pairs : List (BitVec 32 × BitVec 32)}
    (supported : ∀ pair ∈ pairs, Supported pair) {reader : UbxCfgValueReader}
    (within : reader.Within payload)
    (ahead : payload.drop reader.cursor = pairs.flatMap pairBytes) :
    readValues payload (pairs.length + 1) reader =
      some (pairs.map truncated, some .readEnd) := by
  induction pairs generalizing reader with
  | nil =>
      have finished : reader.cursor = reader.stop := by
        have length := congrArg List.length ahead
        rw [List.length_drop, List.flatMap_nil, List.length_nil] at length
        have bound := within.cursor
        rw [within.stop]
        omega
      rw [List.length_nil, readValues, valgetNext, if_pos finished]
      rfl
  | cons pair pairs ih =>
      obtain ⟨here, later⟩ := List.forall_mem_cons.mp supported
      rw [List.flatMap_cons] at ahead
      obtain ⟨next, called, withinNext, rest⟩ := valgetNext_pair here within ahead
      rw [List.length_cons, readValues, called]
      dsimp only
      rw [ih later withinNext rest]
      rfl

/-! ## Writing a pair -/

/-- Memory written from a place on is unchanged before it. -/
theorem putLittleEndian_before (memory : Memory) {cursor : Nat} (value : BitVec 32) (size : Nat)
    {place : Nat} (before : place < cursor) :
    putLittleEndian memory cursor value size place = memory place := by
  induction size with
  | zero => rfl
  | succ index ih =>
      rw [putLittleEndian, Function.update_of_ne (by omega), ih]

theorem slice_putLittleEndian (memory : Memory) (cursor : Nat) (value : BitVec 32) (size : Nat) :
    slice (putLittleEndian memory cursor value size) cursor size =
      LittleEndian.bytes value.toNat size := by
  induction size with
  | zero => rfl
  | succ index ih =>
      have byte : (value >>> (8 * index)).setWidth 8 =
          BitVec.ofNat 8 (value.toNat / 256 ^ index) := by
        have powers : (256 : Nat) ^ index = 2 ^ (8 * index) := by
          rw [pow_mul]
          rfl
        apply BitVec.eq_of_toNat_eq
        rw [BitVec.toNat_setWidth, BitVec.toNat_ushiftRight, Nat.shiftRight_eq_div_pow,
          BitVec.toNat_ofNat, powers]
      have before : slice (putLittleEndian memory cursor value (index + 1)) cursor index =
          slice (putLittleEndian memory cursor value index) cursor index := by
        apply slice_congr
        intro offset inside
        rw [putLittleEndian, Function.update_of_ne (by omega)]
      rw [slice_succ, before, ih, LittleEndian.bytes_succ, putLittleEndian, Function.update_self,
        byte]

theorem slice_append (memory : Memory) (start count more : Nat) :
    slice memory start (count + more) = slice memory start count ++ slice memory (start + count) more := by
  have front := slice_take memory start (count + more) (Nat.le_add_right count more)
  have back := slice_drop memory start (count + more) count
  rw [Nat.add_sub_cancel_left] at back
  rw [← front, ← back, List.take_append_drop]

/-! ## The frame around it -/

theorem writeHeader_payload (frame : Memory) (classId messageId : Byte) (payloadLength : Nat)
    {place : Nat} (after : 6 ≤ place) :
    writeHeader frame classId messageId payloadLength place = frame place := by
  rw [writeHeader, Function.update_of_ne (by omega), Function.update_of_ne (by omega),
    Function.update_of_ne (by omega), Function.update_of_ne (by omega),
    Function.update_of_ne (by omega), Function.update_of_ne (by omega)]

theorem writeHeader_length (frame : Memory) (classId messageId : Byte) {payloadLength : Nat}
    (fits : payloadLength < 2 ^ 16) :
    decodeLength (writeHeader frame classId messageId payloadLength 4)
      (writeHeader frame classId messageId payloadLength 5) = payloadLength := by
  have low : writeHeader frame classId messageId payloadLength 4 = BitVec.ofNat 8 payloadLength := rfl
  have high : writeHeader frame classId messageId payloadLength 5 =
      BitVec.ofNat 8 (payloadLength / 256) := rfl
  rw [decodeLength, low, high, BitVec.toNat_ofNat, BitVec.toNat_ofNat]
  omega

theorem writeChecksum_before (frame : Memory) {payloadLength place : Nat}
    (before : place < 6 + payloadLength) : writeChecksum frame payloadLength place = frame place := by
  rw [writeChecksum, ubxHeaderLength, Function.update_of_ne (by omega), Function.update_of_ne (by omega)]

theorem writeChecksum_sums (frame : Memory) (payloadLength : Nat) :
    ubxChecksum (slice (writeChecksum frame payloadLength) ubxHeaderOffsetClass (payloadLength + 4)) =
      (writeChecksum frame payloadLength (payloadLength + 8 - 2),
        writeChecksum frame payloadLength (payloadLength + 8 - 1)) := by
  have covered : slice (writeChecksum frame payloadLength) ubxHeaderOffsetClass (payloadLength + 4) =
      slice frame ubxHeaderOffsetClass (payloadLength + 4) := by
    apply slice_congr
    intro offset inside
    rw [ubxHeaderOffsetClass]
    exact writeChecksum_before frame (by omega)
  have first : payloadLength + 8 - 2 = 6 + payloadLength := by omega
  have second : payloadLength + 8 - 1 = 6 + payloadLength + 1 := by omega
  have length : payloadLength + 6 - ubxHeaderOffsetClass = payloadLength + 4 := rfl
  rw [covered, first, second, writeChecksum, ubxHeaderLength, length, Function.update_self, Function.update_of_ne (by omega), Function.update_self]

namespace UbxCfgMessage

/-- A message whose payload is its header and whole pairs, as many as it counts, and fits. -/
structure Built (message : UbxCfgMessage) (layers : Byte)
    (pairs : List (BitVec 32 × BitVec 32)) : Prop where
  messageId : message.messageId = ubxIdCfgValset
  payload : message.payload = [0, layers, 0, 0] ++ pairs.flatMap pairBytes
  fits : message.payloadLength + ubxFrameOverhead ≤ ubxCfgMessageCapacity
  keyCount : message.keyCount = pairs.length
  supported : ∀ pair ∈ pairs, Supported pair

variable {message : UbxCfgMessage} {layers : Byte} {pairs : List (BitVec 32 × BitVec 32)}

theorem built_begin (layers : Byte) : (valsetBegin layers).Built layers [] where
  messageId := rfl
  payload := rfl
  fits := (by decide : 4 + 8 ≤ 256)
  keyCount := rfl
  supported := fun _ member => absurd member List.not_mem_nil

/-- A poisoned message holds what it held. -/
theorem Built.poisoned (built : message.Built layers pairs) :
    { message with overflowed := true }.Built layers pairs :=
  ⟨built.messageId, built.payload, built.fits, built.keyCount, built.supported⟩

/-- What is appended where there is room stands after the payload. -/
theorem cfgAppend_room (value : BitVec 32) {size : Nat} (clean : message.overflowed = false)
    (room : message.payloadLength + size + ubxFrameOverhead ≤ ubxCfgMessageCapacity) :
    ∃ appended, message.cfgAppend value size = (true, appended) ∧
      appended.payload = message.payload ++ LittleEndian.bytes value.toNat size ∧
      appended.payloadLength = message.payloadLength + size ∧
      appended.messageId = message.messageId ∧ appended.keyCount = message.keyCount ∧
      appended.overflowed = false := by
  have allowed : ¬(message.overflowed = true ∨
      ubxCfgMessageCapacity < message.payloadLength + size + ubxFrameOverhead) := by
    rw [clean, not_or]
    exact ⟨Bool.false_ne_true, Nat.not_lt.mpr room⟩
  rw [cfgAppend, if_neg allowed]
  refine ⟨_, rfl, ?_, rfl, rfl, rfl, clean⟩
  rw [payload, payload, slice_append, slice_putLittleEndian]
  congr 1
  apply slice_congr
  intro offset inside
  exact putLittleEndian_before _ _ _ (by omega)

/-- What one call does: the pair is in the payload whole, or the message is poisoned and holds what it
held. A poisoned message takes no more. -/
theorem valsetAdd_spec (built : message.Built layers pairs) (key value : BitVec 32) :
    let added := message.valsetAdd key value
    (added.1 = true → message.overflowed = false ∧ added.2.overflowed = false ∧
        added.2.Built layers (pairs ++ [(key, value)])) ∧
      (added.1 = false → added.2.overflowed = true ∧ added.2.Built layers pairs) := by
  have refused : ∀ {outcome : Bool × UbxCfgMessage},
      outcome = (false, { message with overflowed := true }) →
      (outcome.1 = true → message.overflowed = false ∧ outcome.2.overflowed = false ∧
        outcome.2.Built layers (pairs ++ [(key, value)])) ∧
      (outcome.1 = false → outcome.2.overflowed = true ∧ outcome.2.Built layers pairs) := by
    rintro outcome rfl
    exact ⟨fun wrong => absurd wrong Bool.false_ne_true, fun _ => ⟨rfl, built.poisoned⟩⟩
  dsimp only
  rw [valsetAdd, if_neg (not_not.mpr built.messageId)]
  by_cases unsupported : ubxCfgKeyValueSize key = 0 ∨ 4 < ubxCfgKeyValueSize key
  · rw [if_pos unsupported]
    exact refused rfl
  rw [if_neg unsupported]
  by_cases full : ubxCfgMessageCapacity <
      message.payloadLength + 4 + ubxCfgKeyValueSize key + ubxFrameOverhead
  · rw [if_pos full]
    exact refused rfl
  rw [if_neg full, cfgAppendKey]
  by_cases keys : ubxCfgValMaxKeys ≤ message.keyCount
  · rw [if_pos keys]
    exact refused rfl
  rw [if_neg keys]
  rcases Bool.eq_false_or_eq_true message.overflowed with poisoned | clean
  · rw [cfgAppend, if_pos (.inl poisoned)]
    exact refused rfl
  · obtain ⟨keyed, appended, keyPayload, keyLength, keyId, keyCount, keyClean⟩ :=
      cfgAppend_room key clean (by omega : message.payloadLength + 4 + ubxFrameOverhead ≤ _)
    rw [appended]
    dsimp only
    obtain ⟨valued, appendedValue, payload, length, messageId, count, stillClean⟩ :=
      @cfgAppend_room { keyed with keyCount := keyed.keyCount + 1 } value (ubxCfgKeyValueSize key)
        keyClean (by rw [keyLength]; omega)
    rw [appendedValue]
    refine ⟨fun _ => ⟨clean, stillClean, ?_⟩, fun wrong => absurd wrong.symm Bool.false_ne_true⟩
    refine ⟨messageId.trans (keyId.trans built.messageId), ?_, ?_, ?_, ?_⟩
    · change valued.payload = keyed.payload ++ _ at payload
      rw [payload, keyPayload, built.payload, List.flatMap_append, List.flatMap_singleton, pairBytes]
      simp only [List.append_assoc]
    · rw [length]
      dsimp only
      rw [keyLength]
      omega
    · rw [count, List.length_append, ← built.keyCount, ← keyCount]
      rfl
    · intro pair member
      rcases List.mem_append.mp member with before | last
      · exact built.supported pair before
      obtain rfl := List.mem_singleton.mp last
      exact ⟨Nat.pos_of_ne_zero fun none_ => unsupported (.inl none_),
        Nat.le_of_not_lt fun large => unsupported (.inr large)⟩

/-- The pairs whose calls returned true. -/
def accepted (message : UbxCfgMessage) (pairs : List (BitVec 32 × BitVec 32)) :
    List (BitVec 32 × BitVec 32) :=
  ((pairs.zip (message.addAll pairs).1).filter Prod.snd).map Prod.fst

/-- After any calls the payload holds whole pairs, those accepted; and once one call has failed the
message is poisoned and every later one fails. -/
theorem addAll_spec (built : message.Built layers pairs) (more : List (BitVec 32 × BitVec 32)) :
    (message.addAll more).2.Built layers (pairs ++ message.accepted more) ∧
      (message.overflowed = true ∨ false ∈ (message.addAll more).1 ↔
        (message.addAll more).2.overflowed = true) ∧
      (message.addAll more).1.length = more.length := by
  induction more generalizing message pairs with
  | nil =>
      refine ⟨?_, ?_, rfl⟩
      · rw [accepted, List.zip_nil_left, List.filter_nil, List.map_nil, List.append_nil]
        exact built
      · exact or_iff_left List.not_mem_nil
  | cons pair more ih =>
      obtain ⟨key, value⟩ := pair
      obtain ⟨taken, failed⟩ := valsetAdd_spec built key value
      have results : (message.addAll ((key, value) :: more)).1 =
          (message.valsetAdd key value).1 :: ((message.valsetAdd key value).2.addAll more).1 := rfl
      have after : (message.addAll ((key, value) :: more)).2 =
          ((message.valsetAdd key value).2.addAll more).2 := rfl
      rw [accepted, results, after, List.zip_cons_cons, List.mem_cons, List.length_cons]
      cases ok : (message.valsetAdd key value).1
      · obtain ⟨poisoned, kept⟩ := failed ok
        obtain ⟨whole, fails, length⟩ := ih kept
        refine ⟨?_, iff_of_true (.inr (.inl rfl)) (fails.mp (.inl poisoned)), congrArg _ length⟩
        rw [List.filter_cons_of_neg Bool.false_ne_true]
        exact whole
      · obtain ⟨clean, stillClean, grown⟩ := taken ok
        obtain ⟨whole, fails, length⟩ := ih grown
        refine ⟨?_, ?_, congrArg _ length⟩
        · rw [List.filter_cons_of_pos rfl, List.map_cons, List.append_cons]
          exact whole
        · rw [← fails, clean, stillClean]
          simp

/-- The frame's checksum is that of its class, identifiers, length and payload, and its length is the
one in its header. -/
def Verifies (message : UbxCfgMessage) : Prop :=
  let length := decodeLength (message.frame 4) (message.frame 5)
  message.frameLength = length + ubxFrameOverhead ∧
    ubxChecksum (slice message.frame ubxHeaderOffsetClass (length + 4)) =
      (message.frame (message.frameLength - 2), message.frame (message.frameLength - 1))

instance (message : UbxCfgMessage) : Decidable message.Verifies :=
  inferInstanceAs (Decidable (_ ∧ _))

/-- A message is finished when it has keys and is not poisoned: its payload as it was, in a frame that
verifies. -/
theorem cfgFinish_spec (built : message.Built layers pairs) :
    ((message.cfgFinish).1 = true ↔ message.overflowed = false ∧ pairs ≠ []) ∧
      ((message.cfgFinish).1 = true →
        (message.cfgFinish).2.payload = message.payload ∧ (message.cfgFinish).2.Verifies) := by
  have empty : message.keyCount = 0 ↔ pairs = [] := by
    rw [built.keyCount, List.length_eq_zero_iff]
  have fits := built.fits
  rw [ubxFrameOverhead, ubxCfgMessageCapacity] at fits
  rw [cfgFinish]
  by_cases refused : message.overflowed = true ∨ message.keyCount = 0
  · rw [if_pos refused]
    refine ⟨iff_of_false Bool.false_ne_true ?_, fun wrong => absurd wrong Bool.false_ne_true⟩
    rintro ⟨clean, some_⟩
    rcases refused with poisoned | none_
    · exact absurd (poisoned.symm.trans clean) (by decide)
    · exact some_ (empty.mp none_)
  · rw [if_neg refused]
    rw [not_or, Bool.not_eq_true, empty] at refused
    refine ⟨iff_of_true rfl refused, fun _ => ⟨?_, ?_⟩⟩
    · apply slice_congr
      intro offset inside
      have before : 6 + offset < 6 + message.payloadLength := Nat.add_lt_add_left inside 6
      exact (writeChecksum_before _ before).trans
        (writeHeader_payload _ _ _ _ (Nat.le_add_right 6 offset))
    · have length := writeHeader_length message.frame ubxClassCfg message.messageId
        (by omega : message.payloadLength < 2 ^ 16)
      have header := writeChecksum_before
        (writeHeader message.frame ubxClassCfg message.messageId message.payloadLength)
        (by omega : 4 < 6 + message.payloadLength)
      have header' := writeChecksum_before
        (writeHeader message.frame ubxClassCfg message.messageId message.payloadLength)
        (by omega : 5 < 6 + message.payloadLength)
      rw [Verifies]
      dsimp only
      rw [header, header', length, ubxFrameOverhead]
      exact ⟨rfl, writeChecksum_sums _ _⟩

end UbxCfgMessage

/-! ## What was added is read back -/

/-- What was added by calls that all succeeded, at least one of them, is finished with a checksum that
verifies and read back in order, each value truncated to its key's size, and then the end. If a call
fails nothing is finished. The payload is whole pairs whatever happened. Reading any payload stops
within it after at most an item for every five bytes. -/
theorem values_read_back (layers : Byte) (pairs : List (BitVec 32 × BitVec 32)) :
    let start := UbxCfgMessage.valsetBegin layers
    let added := start.addAll pairs
    let finished := added.2.cfgFinish
    ((∀ ok ∈ added.1, ok = true) → pairs ≠ [] →
        finished.1 = true ∧ finished.2.Verifies ∧
          ∃ reader, valgetOpen finished.2.payload = some reader ∧
            readValues finished.2.payload (pairs.length + 1) reader =
              some (pairs.map truncated, some .readEnd)) ∧
      (false ∈ added.1 → finished.1 = false) ∧
      added.2.payload = [0, layers, 0, 0] ++ (start.accepted pairs).flatMap pairBytes ∧
      ∀ payload reader, valgetOpen payload = some reader →
        ∃ items ended,
          readValues payload ((payload.length - 4) / 5 + 1) reader = some (items, some ended) ∧
            (ended = .readEnd ∨ ended = .readMalformed) ∧ 5 * items.length ≤ payload.length - 4 := by
  dsimp only
  obtain ⟨built, fails, length⟩ :=
    UbxCfgMessage.addAll_spec (UbxCfgMessage.built_begin layers) pairs
  rw [List.nil_append] at built
  obtain ⟨finishes, finished⟩ := UbxCfgMessage.cfgFinish_spec built
  refine ⟨?_, ?_, built.payload, ?_⟩
  · intro all some_
    have everything : (UbxCfgMessage.valsetBegin layers).accepted pairs = pairs := by
      rw [UbxCfgMessage.accepted, List.filter_eq_self.mpr]
      · exact List.map_fst_zip (Nat.le_of_eq length.symm)
      · intro pair member
        exact all _ (List.of_mem_zip member).2
    rw [everything] at built finishes
    have clean : (UbxCfgMessage.addAll (UbxCfgMessage.valsetBegin layers) pairs).2.overflowed =
        false := by
      rw [← Bool.not_eq_true, ← fails]
      rintro (poisoned | failed)
      · exact absurd poisoned Bool.false_ne_true
      · exact absurd (all false failed) Bool.false_ne_true
    have ok := finishes.mpr ⟨clean, some_⟩
    obtain ⟨payload, verifies⟩ := finished ok
    rw [built.payload] at payload
    refine ⟨ok, verifies, ?_⟩
    obtain ⟨opens, opened⟩ := valgetOpen_spec
      (UbxCfgMessage.addAll (UbxCfgMessage.valsetBegin layers) pairs).2.cfgFinish.2.payload
    obtain ⟨reader, read⟩ : ∃ reader, valgetOpen
        (UbxCfgMessage.addAll (UbxCfgMessage.valsetBegin layers) pairs).2.cfgFinish.2.payload =
          some reader := by
      rw [← Option.ne_none_iff_exists', Ne, opens, payload, List.length_append]
      exact Nat.not_lt.mpr (Nat.le_add_right 4 _)
    obtain ⟨within, cursor⟩ := opened reader read
    refine ⟨reader, read, readValues_pairs built.supported within ?_⟩
    rw [cursor, payload]
    rfl
  · intro failed
    rw [← Bool.not_eq_true, finishes]
    rintro ⟨clean, -⟩
    exact absurd ((fails.mp (.inr failed)).symm.trans clean) (by decide)
  · intro payload reader opened
    obtain ⟨within, cursor⟩ := (valgetOpen_spec payload).2 reader opened
    rw [← cursor]
    exact readValues_ends within (by omega)

/-- No calls have all succeeded, and a message without keys is not finished. -/
theorem empty_unfinished :
    (∀ ok ∈ ((UbxCfgMessage.valsetBegin 1).addAll []).1, ok = true) ∧
      ((UbxCfgMessage.valsetBegin 1).addAll []).2.cfgFinish.1 = false := by
  decide

end GpsClock.Gnss
