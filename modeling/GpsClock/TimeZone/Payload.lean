import GpsClock.Settings.Values
import GpsClock.Sml.Native

/-! # TZ-STATE

The payload the ESP sends and the PIC stores: the zone's state in force and up to
eight future ones. What one processor encodes, the other decodes to the same
payload (`GpsClock.TimeZone.decodeTzState_encodeTzState`).
-/

namespace GpsClock.TimeZone

open Sml

def smlTzTransitionMax : Nat := 8

def smlTzValid : Word := 0x0001

def smlTzAmbiguous : Word := 0x0002

def smlTzEntryDstActive : Byte := 0x01

def smlTzSourceNone : Byte := 0

def smlTzSourceGeoip : Byte := 2

def smlTzSourceGnss : Byte := 3

/-- `SML_TZ_ENTRY`. -/
structure SmlTzEntry where
  utcSeconds : BitVec 32 := 0
  baseOffsetS : BitVec 32 := 0
  dstOffsetS : Word := 0
  flags : Byte := 0
  reserved : Byte := 0
  deriving DecidableEq, Repr

/-- `SML_TZ_STATE_PAYLOAD`. -/
structure SmlTzState where
  flags : Word
  source : Byte
  count : Byte
  issuedUtc : BitVec 32
  horizonEndUtc : BitVec 32
  subsecondOffsetNs : BitVec 32
  current : SmlTzEntry
  next : Vector SmlTzEntry smlTzTransitionMax
  deriving DecidableEq, Repr

/-! ## On the wire -/

def SmlTzEntry.fields (entry : SmlTzEntry) : List (BitVec 32) :=
  [entry.utcSeconds, entry.baseOffsetS, entry.dstOffsetS.setWidth 32, entry.flags.setWidth 32,
    entry.reserved.setWidth 32]

def SmlTzState.fields (state : SmlTzState) : List (BitVec 32) :=
  [state.flags.setWidth 32, state.source.setWidth 32, state.count.setWidth 32, state.issuedUtc,
    state.horizonEndUtc, state.subsecondOffsetNs] ++
    (state.current.fields ++ state.next.toList.flatMap SmlTzEntry.fields)

def entryOfFields (fields : List (BitVec 32)) : SmlTzEntry where
  utcSeconds := fields.getD 0 0
  baseOffsetS := fields.getD 1 0
  dstOffsetS := (fields.getD 2 0).setWidth 16
  flags := (fields.getD 3 0).setWidth 8
  reserved := (fields.getD 4 0).setWidth 8

def stateOfFields (fields : List (BitVec 32)) : SmlTzState where
  flags := (fields.getD 0 0).setWidth 16
  source := (fields.getD 1 0).setWidth 8
  count := (fields.getD 2 0).setWidth 8
  issuedUtc := fields.getD 3 0
  horizonEndUtc := fields.getD 4 0
  subsecondOffsetNs := fields.getD 5 0
  current := entryOfFields (fields.drop 6)
  next := Vector.ofFn fun index => entryOfFields (fields.drop (11 + 5 * index))

/-- `sml_encode` of a TZ-STATE. -/
def encodeTzState (state : SmlTzState) : List Byte :=
  encodedBytes .little layoutTzState (bytesAt (nativeBytes .little layoutTzState state.fields))

/-- `sml_decode` of a TZ-STATE. -/
def decodeTzState (wire : List Byte) : SmlTzState :=
  stateOfFields (loadFields .little layoutTzState
    (smlDecode .little layoutTzState (bytesAt wire) fun _ => 0).1)

theorem fits_entry (entry : SmlTzEntry) : Fits tzEntryFields entry.fields := by
  have short (value : Word) : (value.setWidth 32).toNat < 2 ^ (8 * 2) := by
    rw [BitVec.toNat_setWidth]
    omega
  have narrow (value : Byte) : (value.setWidth 32).toNat < 2 ^ (8 * 1) := by
    rw [BitVec.toNat_setWidth]
    omega
  have long (value : BitVec 32) : value.toNat < 2 ^ (8 * 4) := value.isLt
  simp only [Fits, tzEntryFields, SmlTzEntry.fields, List.forall₂_cons, short, narrow, long,
    List.Forall₂.nil, and_self]

theorem fits_entries (entries : List SmlTzEntry) :
    Fits (List.replicate entries.length tzEntryFields).flatten
      (entries.flatMap SmlTzEntry.fields) := by
  induction entries with
  | nil => exact .nil
  | cons entry entries ih =>
      rw [List.length_cons, List.replicate_succ, List.flatten_cons, List.flatMap_cons]
      exact Fits.append (fits_entry entry) ih

theorem fits_state (state : SmlTzState) : Fits layoutTzState state.fields := by
  have short (value : Word) : (value.setWidth 32).toNat < 2 ^ (8 * 2) := by
    rw [BitVec.toNat_setWidth]
    omega
  have narrow (value : Byte) : (value.setWidth 32).toNat < 2 ^ (8 * 1) := by
    rw [BitVec.toNat_setWidth]
    omega
  have long (value : BitVec 32) : value.toNat < 2 ^ (8 * 4) := value.isLt
  have shape : layoutTzState = [2, 1, 1, 4, 4, 4] ++ (tzEntryFields ++
      (List.replicate state.next.toList.length tzEntryFields).flatten) := by
    rw [Vector.length_toList]
    rfl
  have header : Fits [2, 1, 1, 4, 4, 4] [state.flags.setWidth 32, state.source.setWidth 32,
      state.count.setWidth 32, state.issuedUtc, state.horizonEndUtc, state.subsecondOffsetNs] := by
    simp only [Fits, List.forall₂_cons, short, narrow, long, List.Forall₂.nil, and_self]
  rw [shape]
  exact Fits.append header (Fits.append (fits_entry state.current)
    (fits_entries state.next.toList))

theorem entryOfFields_fields (entry : SmlTzEntry) (after : List (BitVec 32)) :
    entryOfFields (entry.fields ++ after) = entry := by
  simp [entryOfFields, SmlTzEntry.fields]

theorem entryOfFields_flatMap (entries : List SmlTzEntry) (index : Nat)
    (inside : index < entries.length) :
    entryOfFields ((entries.flatMap SmlTzEntry.fields).drop (5 * index)) = entries[index] := by
  induction entries generalizing index with
  | nil => simp at inside
  | cons entry entries ih =>
      rw [List.flatMap_cons]
      cases index with
      | zero => exact entryOfFields_fields entry _
      | succ index =>
          have onward := ih index (Nat.lt_of_succ_lt_succ inside)
          have place : 5 * (index + 1) = entry.fields.length + 5 * index := by
            rw [show entry.fields.length = 5 from rfl]
            omega
          rw [place, ← List.drop_drop, List.drop_left, onward]
          rfl

/-- A payload's fields are those of one payload only. -/
theorem stateOfFields_fields (state : SmlTzState) : stateOfFields state.fields = state := by
  have current : entryOfFields (state.fields.drop 6) = state.current :=
    entryOfFields_fields state.current _
  have next : (Vector.ofFn fun index : Fin smlTzTransitionMax =>
      entryOfFields (state.fields.drop (11 + 5 * index))) = state.next := by
    ext1 index inside
    rw [Vector.getElem_ofFn, ← List.drop_drop]
    exact entryOfFields_flatMap state.next.toList index (by simpa using inside)
  rw [stateOfFields, current, next]
  simp [SmlTzState.fields]

/-- **TZ-STATE keeps.** What is decoded is the payload that was encoded. -/
theorem decodeTzState_encodeTzState (state : SmlTzState) :
    decodeTzState (encodeTzState state) = state := by
  have decoded := loadFields_decode .little (show layoutTzState.Plain by decide) (by decide)
    (fits_state state) (bytesAt (encodeTzState state)) (fun _ => 0) fun _ _ => rfl
  rw [decodeTzState, decoded, stateOfFields_fields]

end GpsClock.TimeZone
