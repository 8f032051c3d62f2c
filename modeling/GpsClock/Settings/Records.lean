import GpsClock.Settings.Values
import GpsClock.Sml.Native
import GpsClock.Store.Scan

/-! # The settings' records

What `settings.c` writes to the store and reads back at start-up: the settings
record, which wraps a STAT-SETTINGS payload as the link encodes it, the
oscillator's and the RTC's. Each reads back as what was encoded, and over a store
that keeps the record last accepted, settings that are not dirty are the settings
a restart brings back (`GpsClock.Settings.settings_survive_restart`).
-/

namespace GpsClock.Settings

open Sml
open Store (StoreResult)

def settingsRecordVersion : Word := 1

def settingsRecordBytes : Nat := 42

def settingsOscillatorVersion : Word := 1

def settingsOscillatorBytes : Nat := 12

def settingsOscillatorLimitQ16 : Int := 4000 * 2 ^ 16

def settingsRtcVersion : Word := 1

def settingsRtcBytes : Nat := 28

def settingsRtcAnchor : Word := 0x0001

def settingsRtcAligned : Word := 0x0002

def settingsRtcRate : Word := 0x0004

def settingsRtcWrite : Word := 0x0008

def settingsRtcWriteAligned : Word := 0x0010

/-- The bytes `sml_put_u32` writes. -/
def longBytes (value : BitVec 32) : List Byte :=
  [(value >>> 24).setWidth 8, (value >>> 16).setWidth 8, (value >>> 8).setWidth 8,
    value.setWidth 8]

/-- `sml_get_u16` of a record's bytes. -/
def getU16 (record : List Byte) (place : Nat) : Word :=
  smlGetU16 (bytesAt record place) (bytesAt record (place + 1))

/-- `sml_get_u32` of a record's bytes. -/
def getU32 (record : List Byte) (place : Nat) : BitVec 32 :=
  smlGetU32 (bytesAt record place) (bytesAt record (place + 1)) (bytesAt record (place + 2))
    (bytesAt record (place + 3))

/-- `store_read` of a store that is a map: the record held of a type, if there is room
for it. -/
def storeRead (held : Option (List Byte)) (capacity : Nat) : Option (List Byte) :=
  held.filter fun record => record.length ≤ capacity

/-! ## The settings record -/

/-- The fields of `SML_STAT_SETTINGS_PAYLOAD`. -/
def statFields (flags reserved : Word) (revision : BitVec 32) (body : SmlSettingsBody) :
    List (BitVec 32) :=
  [flags.setWidth 32, reserved.setWidth 32, revision, body.schemaVersion.setWidth 32,
    body.flags.setWidth 32, body.baseOffsetS, body.dstOffsetS, body.calibrationFoscHz,
    body.alarmOffsetS, body.deltaEpochUtc, body.brightness.setWidth 32,
    body.selectedDisplay.setWidth 32, body.reserved.setWidth 32]

/-- The settings of a payload's fields. -/
def bodyOfFields (fields : List (BitVec 32)) : SmlSettingsBody where
  schemaVersion := (fields.getD 3 0).setWidth 16
  flags := (fields.getD 4 0).setWidth 16
  baseOffsetS := fields.getD 5 0
  dstOffsetS := fields.getD 6 0
  calibrationFoscHz := fields.getD 7 0
  alarmOffsetS := fields.getD 8 0
  deltaEpochUtc := fields.getD 9 0
  brightness := (fields.getD 10 0).setWidth 16
  selectedDisplay := (fields.getD 11 0).setWidth 8
  reserved := (fields.getD 12 0).setWidth 8

/-- The revision of a payload's fields. -/
def revisionOfFields (fields : List (BitVec 32)) : BitVec 32 := fields.getD 2 0

/-- The record's payload, as `sml_encode` writes it. -/
def encodedStat (recordRevision : BitVec 32) (body : SmlSettingsBody) : List Byte :=
  encodedBytes .little layoutStatSettings
    (bytesAt (nativeBytes .little layoutStatSettings (statFields 0 0 recordRevision body)))

/-- `encode_record`. -/
def encodeRecord (values : Values) (recordRevision : BitVec 32) : List Byte :=
  wordBytes settingsRecordVersion ++
    (encodedStat recordRevision values.body ++ (wordBytes values.debugMask ++ [0, 0]))

/-- What `read_record` finds. -/
inductive Loaded
  | absent
  | rejected
  | record (values : Values) (recordRevision : BitVec 32)
  deriving DecidableEq, Repr

/-- `read_record`. -/
def readRecord (held : Option (List Byte)) : Loaded :=
  match storeRead held settingsRecordBytes with
  | none => .absent
  | some record =>
      if record.length ≠ settingsRecordBytes ∨ getU16 record 0 ≠ settingsRecordVersion then
        .rejected
      else
        let payload := loadFields .little layoutStatSettings
          (smlDecode .little layoutStatSettings (fun place => bytesAt record (2 + place))
            fun _ => 0).1
        if settingsCheck (bodyOfFields payload) ≠ .none then .rejected
        else
          .record
            { body := bodyOfFields payload
              debugMask := getU16 record (2 + layoutStatSettings.sum) &&& debugAll }
            (revisionOfFields payload)

/-- `settings_init`, as far as the settings record goes. -/
def settingsInit (held : Option (List Byte)) : State :=
  let defaults : Values := { body := settingsDefaults, debugMask := 0 }
  match readRecord held with
  | .record values recordRevision =>
      { running := values, stored := values, revision := recordRevision, haveRecord := true,
        saveRequested := false, saveError := .none }
  | _ =>
      { running := defaults, stored := defaults, revision := 0, haveRecord := false,
        saveRequested := false, saveError := .none }

/-! ## The oscillator record -/

/-- `encode_oscillator`. -/
def encodeOscillator (offsetQ16 epochs : BitVec 32) : List Byte :=
  wordBytes settingsOscillatorVersion ++ (wordBytes 0 ++ [offsetQ16, epochs].flatMap longBytes)

/-- `read_oscillator`. -/
def readOscillator (held : Option (List Byte)) : Option (BitVec 32 × BitVec 32) :=
  match storeRead held settingsOscillatorBytes with
  | none => none
  | some record =>
      if record.length ≠ settingsOscillatorBytes ∨ getU16 record 0 ≠ settingsOscillatorVersion then
        none
      else if -settingsOscillatorLimitQ16 ≤ (getU32 record 4).toInt ∧
          (getU32 record 4).toInt ≤ settingsOscillatorLimitQ16 then
        some (getU32 record 4, getU32 record 8)
      else none

/-! ## The RTC record -/

/-- `SourceRtcAnchor`. `offsetNs` is an `int64_t`. -/
structure SourceRtcAnchor where
  valid : Bool
  aligned : Bool
  utcSeconds : BitVec 32
  offsetNs : Int
  boundNs : BitVec 32
  deriving DecidableEq, Repr

/-- `SourceRtcKept`. -/
structure SourceRtcKept where
  anchor : SourceRtcAnchor
  rateValid : Bool
  rateQ8 : BitVec 32
  lastWriteValid : Bool
  lastWriteAligned : Bool
  lastWriteUtc : BitVec 32
  deriving DecidableEq, Repr

/-- A flag's bit if it is set. -/
def flagBit (set : Bool) (bit : Word) : Word := if set then bit else 0

/-- The record's flags. -/
def SourceRtcKept.flags (kept : SourceRtcKept) : Word :=
  flagBit kept.anchor.valid settingsRtcAnchor ||| flagBit kept.anchor.aligned settingsRtcAligned |||
    flagBit kept.rateValid settingsRtcRate ||| flagBit kept.lastWriteValid settingsRtcWrite |||
    flagBit kept.lastWriteAligned settingsRtcWriteAligned

/-- The whole seconds of an offset, rounded down: C's division rounds towards zero. -/
def wholeSeconds (offsetNs : Int) : Int :=
  if 0 ≤ offsetNs then offsetNs.tdiv 1000000000 else -(-offsetNs + 999999999).tdiv 1000000000

/-- `encode_rtc`. -/
def encodeRtc (kept : SourceRtcKept) : List Byte :=
  let seconds := wholeSeconds kept.anchor.offsetNs
  wordBytes settingsRtcVersion ++ (wordBytes kept.flags ++
    [kept.anchor.utcSeconds, BitVec.ofInt 32 seconds,
      BitVec.ofInt 32 (kept.anchor.offsetNs - seconds * 1000000000), kept.anchor.boundNs,
      kept.rateQ8, kept.lastWriteUtc].flatMap longBytes)

/-- `read_rtc`. -/
def readRtc (held : Option (List Byte)) : Option SourceRtcKept :=
  match storeRead held settingsRtcBytes with
  | none => none
  | some record =>
      let flags := getU16 record 2
      let fraction := getU32 record 12
      if record.length ≠ settingsRtcBytes ∨ getU16 record 0 ≠ settingsRtcVersion then none
      else if 1000000000 ≤ fraction.toNat then none
      else
        some
          { anchor :=
              { valid := flags &&& settingsRtcAnchor != 0
                aligned := flags &&& settingsRtcAligned != 0
                utcSeconds := getU32 record 4
                offsetNs := (getU32 record 8).toInt * 1000000000 + fraction.toNat
                boundNs := getU32 record 16 }
            rateValid := flags &&& settingsRtcRate != 0
            rateQ8 := getU32 record 20
            lastWriteValid := flags &&& settingsRtcWrite != 0
            lastWriteAligned := flags &&& settingsRtcWriteAligned != 0
            lastWriteUtc := getU32 record 24 }

/-! ## What is encoded reads back -/

theorem getU16_append_wordBytes (before after : List Byte) (value : Word) :
    getU16 (before ++ (wordBytes value ++ after)) before.length = value := by
  have low := bytesAt_append_right before (wordBytes value ++ after) 0
  have high := bytesAt_append_right before (wordBytes value ++ after) 1
  rw [Nat.add_zero] at low
  rw [getU16, low, high]
  exact smlGetU16_wordBytes value

theorem getU32_append_longBytes (before after : List Byte) (value : BitVec 32) :
    getU32 (before ++ (longBytes value ++ after)) before.length = value := by
  have first := bytesAt_append_right before (longBytes value ++ after) 0
  have second := bytesAt_append_right before (longBytes value ++ after) 1
  have third := bytesAt_append_right before (longBytes value ++ after) 2
  have fourth := bytesAt_append_right before (longBytes value ++ after) 3
  rw [Nat.add_zero] at first
  rw [getU32, first, second, third, fourth]
  exact smlGetU32_wordBytes value

/-- The words after a record's header, one every four bytes. -/
theorem getU32_append_flatMap (before : List Byte) (values : List (BitVec 32)) (index : Nat)
    (inside : index < values.length) :
    getU32 (before ++ values.flatMap longBytes) (before.length + 4 * index) = values[index] := by
  induction values generalizing before index with
  | nil => simp at inside
  | cons value values ih =>
      rw [List.flatMap_cons]
      cases index with
      | zero => exact getU32_append_longBytes before _ value
      | succ index =>
          have onward := ih (before ++ longBytes value) index (Nat.lt_of_succ_lt_succ inside)
          rw [List.append_assoc, List.length_append] at onward
          rw [show before.length + 4 * (index + 1) =
            before.length + (longBytes value).length + 4 * index from by
              rw [show (longBytes value).length = 4 from rfl]
              omega, onward]
          rfl

theorem fits_statFields (flags reserved : Word) (revision : BitVec 32) (body : SmlSettingsBody) :
    Fits layoutStatSettings (statFields flags reserved revision body) := by
  have short (value : Word) : (value.setWidth 32).toNat < 2 ^ (8 * 2) := by
    rw [BitVec.toNat_setWidth]
    omega
  have narrow (value : Byte) : (value.setWidth 32).toNat < 2 ^ (8 * 1) := by
    rw [BitVec.toNat_setWidth]
    omega
  have long (value : BitVec 32) : value.toNat < 2 ^ (8 * 4) := value.isLt
  simp only [Fits, layoutStatSettings, settingsBodyFields, statFields, List.cons_append,
    List.nil_append, List.forall₂_cons, short, narrow, long, List.Forall₂.nil, and_self]

theorem bodyOfFields_statFields (flags reserved : Word) (revision : BitVec 32)
    (body : SmlSettingsBody) :
    bodyOfFields (statFields flags reserved revision body) = body := by
  have short (value : Word) : (value.setWidth 32).setWidth 16 = value := by simp
  have narrow (value : Byte) : (value.setWidth 32).setWidth 8 = value := by simp
  simp [bodyOfFields, statFields]

theorem length_encodedStat (revision : BitVec 32) (body : SmlSettingsBody) :
    (encodedStat revision body).length = 36 := by
  simp [encodedStat, encodedBytes, layoutStatSettings, settingsBodyFields]

theorem length_encodeRecord (values : Values) (revision : BitVec 32) :
    (encodeRecord values revision).length = settingsRecordBytes := by
  simp [encodeRecord, length_encodedStat, wordBytes, settingsRecordBytes]

/-- A settings record's payload decodes to the fields encoded. -/
theorem loadFields_encodeRecord (values : Values) (revision : BitVec 32) (blank : Memory) :
    loadFields .little layoutStatSettings
      (smlDecode .little layoutStatSettings
        (fun place => bytesAt (encodeRecord values revision) (2 + place)) blank).1 =
      statFields 0 0 revision values.body := by
  refine loadFields_decode .little (by decide) (by decide)
    (fits_statFields 0 0 revision values.body) _ blank fun place inside => ?_
  have shifted := bytesAt_append_right (wordBytes settingsRecordVersion)
    (encodedStat revision values.body ++ (wordBytes values.debugMask ++ [0, 0])) place
  have within : place < (encodedStat revision values.body).length := by
    rw [length_encodedStat]
    exact inside
  exact shifted.trans (bytesAt_append_left within)

/-- A settings record reads back as the values encoded, the debug mask as far as it is
defined. -/
theorem readRecord_encodeRecord (values : Values) (revision : BitVec 32)
    (valid : settingsCheck values.body = .none) :
    readRecord (some (encodeRecord values revision)) =
      .record { values with debugMask := values.debugMask &&& debugAll } revision := by
  have length := length_encodeRecord values revision
  have version : getU16 (encodeRecord values revision) 0 = settingsRecordVersion :=
    getU16_append_wordBytes [] _ _
  have mask : getU16 (encodeRecord values revision) (2 + layoutStatSettings.sum) =
      values.debugMask := by
    have placed := getU16_append_wordBytes
      (wordBytes settingsRecordVersion ++ encodedStat revision values.body) [0, 0] values.debugMask
    rw [List.append_assoc, List.length_append, length_encodedStat] at placed
    exact placed
  have held : storeRead (some (encodeRecord values revision)) settingsRecordBytes =
      some (encodeRecord values revision) := by
    simp [storeRead, length]
  rw [readRecord, held]
  simp only [length, version, ne_eq, not_true_eq_false, or_self, ↓reduceIte,
    loadFields_encodeRecord, mask, bodyOfFields_statFields, valid]
  rfl

/-- An oscillator record within the limit reads back. -/
theorem readOscillator_encodeOscillator (offsetQ16 epochs : BitVec 32)
    (low : -settingsOscillatorLimitQ16 ≤ offsetQ16.toInt)
    (high : offsetQ16.toInt ≤ settingsOscillatorLimitQ16) :
    readOscillator (some (encodeOscillator offsetQ16 epochs)) = some (offsetQ16, epochs) := by
  have version : getU16 (encodeOscillator offsetQ16 epochs) 0 = settingsOscillatorVersion :=
    getU16_append_wordBytes [] _ _
  have fields := getU32_append_flatMap (wordBytes settingsOscillatorVersion ++ wordBytes 0)
    [offsetQ16, epochs]
  rw [List.append_assoc] at fields
  have offset : getU32 (encodeOscillator offsetQ16 epochs) 4 = offsetQ16 := fields 0 (by simp)
  have tracked : getU32 (encodeOscillator offsetQ16 epochs) 8 = epochs := fields 1 (by simp)
  have length : (encodeOscillator offsetQ16 epochs).length = settingsOscillatorBytes := rfl
  have held : storeRead (some (encodeOscillator offsetQ16 epochs)) settingsOscillatorBytes =
      some (encodeOscillator offsetQ16 epochs) := rfl
  rw [readOscillator, held]
  simp only [length, version, offset, tracked, ne_eq, not_true_eq_false, or_self, ↓reduceIte, low,
    high, and_self]

theorem wholeSeconds_eq (offsetNs : Int) : wholeSeconds offsetNs = offsetNs / 1000000000 := by
  rw [wholeSeconds]
  split
  · next up => exact Int.tdiv_eq_ediv_of_nonneg up
  · next down =>
      rw [Int.tdiv_eq_ediv_of_nonneg (by omega)]
      omega

/-- Each flag of an RTC record stands on its own. -/
theorem flags_bits (kept : SourceRtcKept) :
    (kept.flags &&& settingsRtcAnchor != 0) = kept.anchor.valid ∧
      (kept.flags &&& settingsRtcAligned != 0) = kept.anchor.aligned ∧
      (kept.flags &&& settingsRtcRate != 0) = kept.rateValid ∧
      (kept.flags &&& settingsRtcWrite != 0) = kept.lastWriteValid ∧
      (kept.flags &&& settingsRtcWriteAligned != 0) = kept.lastWriteAligned := by
  rw [SourceRtcKept.flags]
  generalize kept.anchor.valid = anchored
  generalize kept.anchor.aligned = aligned
  generalize kept.rateValid = rated
  generalize kept.lastWriteValid = written
  generalize kept.lastWriteAligned = writtenAligned
  revert anchored aligned rated written writtenAligned
  decide

/-- An RTC record whose offset is under 2^31 seconds reads back. -/
theorem readRtc_encodeRtc (kept : SourceRtcKept)
    (low : -(2 ^ 31 * 1000000000) < kept.anchor.offsetNs)
    (high : kept.anchor.offsetNs < 2 ^ 31 * 1000000000) :
    readRtc (some (encodeRtc kept)) = some kept := by
  have version : getU16 (encodeRtc kept) 0 = settingsRtcVersion := getU16_append_wordBytes [] _ _
  have flags : getU16 (encodeRtc kept) 2 = kept.flags :=
    getU16_append_wordBytes (wordBytes settingsRtcVersion) _ _
  obtain ⟨anchored, aligned, rated, written, writtenAligned⟩ := flags_bits kept
  have shape : encodeRtc kept = (wordBytes settingsRtcVersion ++ wordBytes kept.flags) ++
      [kept.anchor.utcSeconds, BitVec.ofInt 32 (kept.anchor.offsetNs / 1000000000),
        BitVec.ofInt 32 (kept.anchor.offsetNs - kept.anchor.offsetNs / 1000000000 * 1000000000),
        kept.anchor.boundNs, kept.rateQ8, kept.lastWriteUtc].flatMap longBytes := by
    simp only [encodeRtc, wholeSeconds_eq, List.append_assoc]
  have fields := getU32_append_flatMap (wordBytes settingsRtcVersion ++ wordBytes kept.flags)
    [kept.anchor.utcSeconds, BitVec.ofInt 32 (kept.anchor.offsetNs / 1000000000),
      BitVec.ofInt 32 (kept.anchor.offsetNs - kept.anchor.offsetNs / 1000000000 * 1000000000),
      kept.anchor.boundNs, kept.rateQ8, kept.lastWriteUtc]
  rw [← shape] at fields
  have utc : getU32 (encodeRtc kept) 4 = kept.anchor.utcSeconds := fields 0 (by simp)
  have seconds : (getU32 (encodeRtc kept) 8).toInt = kept.anchor.offsetNs / 1000000000 := by
    have field : getU32 (encodeRtc kept) 8 = BitVec.ofInt 32 (kept.anchor.offsetNs / 1000000000) :=
      fields 1 (by simp)
    rw [field, BitVec.toInt_ofInt, Int.bmod_eq_of_le] <;> omega
  have fraction : ((getU32 (encodeRtc kept) 12).toNat : Int) =
      kept.anchor.offsetNs % 1000000000 := by
    have field : getU32 (encodeRtc kept) 12 = BitVec.ofInt 32
        (kept.anchor.offsetNs - kept.anchor.offsetNs / 1000000000 * 1000000000) :=
      fields 2 (by simp)
    rw [field, BitVec.toNat_ofInt]
    omega
  have bound : getU32 (encodeRtc kept) 16 = kept.anchor.boundNs := fields 3 (by simp)
  have rate : getU32 (encodeRtc kept) 20 = kept.rateQ8 := fields 4 (by simp)
  have lastWrite : getU32 (encodeRtc kept) 24 = kept.lastWriteUtc := fields 5 (by simp)
  have length : (encodeRtc kept).length = settingsRtcBytes := rfl
  have held : storeRead (some (encodeRtc kept)) settingsRtcBytes = some (encodeRtc kept) := rfl
  have proper : ¬1000000000 ≤ (getU32 (encodeRtc kept) 12).toNat := by omega
  have whole : kept.anchor.offsetNs / 1000000000 * 1000000000 +
      kept.anchor.offsetNs % 1000000000 = kept.anchor.offsetNs := by omega
  rw [readRtc, held]
  simp only [length, version, flags, utc, seconds, fraction, bound, rate, lastWrite, proper,
    anchored, aligned, rated, written, writtenAligned, whole, ne_eq, not_true_eq_false, or_self,
    ↓reduceIte]

end GpsClock.Settings
