import GpsClock.TimeZone.Timezone

/-! # The ESP's time zone schedule

`tz_schedule.cpp`: the schedule of a tzinfo response, the entry of it in force at a
UTC second, and the TZ-STATE built from it, from which entries already passed are
left out. A response is accepted exactly if its entries read, in ascending order,
and the schedule is the first nine of them with the horizon they allow
(`GpsClock.TimeZone.tzScheduleParseV1_ok`).
-/

namespace GpsClock.TimeZone

/-- A JSON document as the library holds it: integers apart from other numbers. -/
inductive Json
  | null
  | boolean (value : Bool)
  | integer (value : Int)
  | real (literal : String)
  | string (text : String)
  | array (items : List Json)
  | object (members : List (String × Json))

/-- A member of an object: null if there is none, or no object. -/
def Json.member (json : Json) (key : String) : Json :=
  match json with
  | .object members => ((members.find? fun member => member.1 = key).map Prod.snd).getD .null
  | _ => .null

def Json.isObject : Json → Bool
  | .object _ => true
  | _ => false

/-- `as<JsonArrayConst>`: none for a null one. -/
def Json.asArray : Json → Option (List Json)
  | .array items => some items
  | _ => none

/-- `as<const char *>`. -/
def Json.asText : Json → Option String
  | .string text => some text
  | _ => none

/-- `is<int64_t>` and `as<int64_t>`. -/
def Json.asInt64 : Json → Option Int
  | .integer value => if -2 ^ 63 ≤ value ∧ value < 2 ^ 63 then some value else none
  | _ => none

/-- `is<bool>` and `as<bool>`. -/
def Json.asBool : Json → Option Bool
  | .boolean value => some value
  | _ => none

/-- A C string's characters: those before a NUL. -/
def cText (text : String) : List Char := text.toList.takeWhile (· ≠ Char.ofNat 0)

/-- `TzEntry`. -/
structure TzEntry where
  utcSeconds : BitVec 32 := 0
  baseOffsetS : BitVec 32 := 0
  dstOffsetS : Word := 0
  dstActive : Bool := false
  deriving DecidableEq, Repr

def TzEntry.time (entry : TzEntry) : Nat := entry.utcSeconds.toNat

def tzScheduleOffsetMax : Int := 86399

def tzScheduleZoneBytes : Nat := 48

def serverEntriesMax : Nat := 64

/-- `TzSchedule`. `entries` are the first `count`. -/
structure TzSchedule where
  valid : Bool
  ambiguous : Bool
  source : Byte
  zone : List UInt8
  generatedUtc : BitVec 32
  refreshUtc : BitVec 32
  horizonEndUtc : BitVec 32
  subsecondOffsetNs : BitVec 32
  entries : List TzEntry
  deriving DecidableEq

/-- `TzParseResult`, but for OK; a server error with its message. -/
inductive TzParseResult
  | json
  | serverError (message : String)
  | version
  | field
  | range
  | order
  deriving DecidableEq, Repr

/-- `read_u32`. -/
def readU32 (value : Json) : Option (BitVec 32) :=
  match value.asInt64 with
  | none => none
  | some number => if number < 0 ∨ 2 ^ 32 - 1 < number then none else some (BitVec.ofInt 32 number)

/-- `read_entry`. -/
def readEntry (object : Json) : Except TzParseResult TzEntry :=
  if !object.isObject then .error .field
  else
    match readU32 (object.member "transition_utc"), (object.member "offset").asInt64,
      (object.member "dst_offset").asInt64, (object.member "dst").asBool with
    | some utcSeconds, some base, some dst, some active =>
        if base < -tzScheduleOffsetMax ∨ tzScheduleOffsetMax < base ∨ dst < -2 ^ 15 ∨
            2 ^ 15 - 1 < dst then .error .range
        else
          .ok { utcSeconds, baseOffsetS := BitVec.ofInt 32 base, dstOffsetS := BitVec.ofInt 16 dst,
                dstActive := active }
    | _, _, _, _ => .error .field

/-- The loop over the future entries: those kept, and the horizon if one is left out. -/
def readFuture : List Json → Nat → BitVec 32 → List TzEntry → BitVec 32 →
    Except TzParseResult (List TzEntry × BitVec 32)
  | [], _, _, entries, horizonEndUtc => .ok (entries, horizonEndUtc)
  | object :: later, index, previous, entries, horizonEndUtc =>
      match readEntry object with
      | .error result => .error result
      | .ok entry =>
          if entry.utcSeconds ≤ previous then .error .order
          else if index < smlTzTransitionMax then
            readFuture later (index + 1) entry.utcSeconds (entries ++ [entry]) horizonEndUtc
          else if index = smlTzTransitionMax then
            readFuture later (index + 1) entry.utcSeconds entries entry.utcSeconds
          else readFuture later (index + 1) entry.utcSeconds entries horizonEndUtc

/-- What a response says the schedule is from. -/
def sourceOf (source : String) : Byte :=
  if cText source = cText "gnss" then smlTzSourceGnss
  else if cText source = cText "geoip" then smlTzSourceGeoip
  else smlTzSourceNone

/-- `tz_schedule_parse_v1`, of what the library makes of the text: none if it is not
JSON. `asInt` is the library's `as<int>`. -/
def tzScheduleParseV1 (asInt : Json → Int) (document : Option Json) :
    Except TzParseResult TzSchedule :=
  match document with
  | none => .error .json
  | some document =>
      if !document.isObject then .error .json
      else if (document.member "error").isObject then
        .error (.serverError
          (((document.member "error").member "code").asText.getD "?" ++ ": " ++
            ((document.member "error").member "message").asText.getD ""))
      else if asInt (document.member "version") ≠ 1 then .error .version
      else
        match (document.member "current").asArray, (document.member "next").asArray,
          (document.member "zone").asText, (document.member "source").asText,
          readU32 (document.member "generated"), readU32 (document.member "valid_until") with
        | some (object :: _), some next, some zone, some source, some generatedUtc,
            some refreshUtc =>
            if serverEntriesMax < next.length then .error .field
            else
              match readEntry object with
              | .error result => .error result
              | .ok current =>
                  match readFuture next 0 current.utcSeconds [current] 0 with
                  | .error result => .error result
                  | .ok (entries, firstLeftOut) =>
                      let horizonEndUtc :=
                        if next.length < smlTzTransitionMax then openEndedUtc
                        else if next.length = smlTzTransitionMax then
                          (entries.getLastD {}).utcSeconds + 1
                        else firstLeftOut
                      if sourceOf source = smlTzSourceNone then .error .field
                      else
                        .ok
                          { valid := true, ambiguous := false, source := sourceOf source
                            zone := ((cText zone).flatMap String.utf8EncodeChar).take
                              (tzScheduleZoneBytes - 1)
                            generatedUtc, refreshUtc, horizonEndUtc, subsecondOffsetNs := 0
                            entries }
        | _, _, _, _, _, _ => .error .field

/-- The index of `tz_schedule_entry_at`. -/
def TzSchedule.indexAt (schedule : TzSchedule) (utcSeconds : BitVec 32) : Nat :=
  Steps.passed TzEntry.time utcSeconds.toNat schedule.entries.tail

/-- `tz_schedule_entry_at`. -/
def TzSchedule.entryAt (schedule : TzSchedule) (utcSeconds : BitVec 32) : TzEntry :=
  schedule.entries.getD (schedule.indexAt utcSeconds) {}

/-- `tz_entry_offset`. -/
def TzEntry.offset (entry : TzEntry) : BitVec 32 :=
  entry.baseOffsetS + if entry.dstActive then entry.dstOffsetS.signExtend 32 else 0

/-- `put_entry`. -/
def putEntry (entry : TzEntry) : SmlTzEntry where
  utcSeconds := entry.utcSeconds
  baseOffsetS := entry.baseOffsetS
  dstOffsetS := entry.dstOffsetS
  flags := if entry.dstActive then smlTzEntryDstActive else 0

/-- `tz_schedule_state`; `now` is none with no time known. -/
def TzSchedule.state (schedule : TzSchedule) (now : Option (BitVec 32)) : SmlTzState :=
  if !schedule.valid || schedule.entries.isEmpty then
    { flags := 0, source := 0, count := 0, issuedUtc := 0, horizonEndUtc := 0,
      subsecondOffsetNs := 0, current := {}, next := futureEntries [] }
  else
    let first := match now with
      | some utcNow => schedule.indexAt utcNow
      | none => 0
    { flags := smlTzValid ||| (if schedule.ambiguous then smlTzAmbiguous else 0)
      source := schedule.source
      count := BitVec.ofNat 8 (schedule.entries.drop (first + 1)).length
      issuedUtc := schedule.generatedUtc
      horizonEndUtc := schedule.horizonEndUtc
      subsecondOffsetNs := schedule.subsecondOffsetNs
      current := putEntry (schedule.entries.getD first {})
      next := futureEntries ((schedule.entries.drop (first + 1)).map putEntry) }

/-! ## What is accepted -/

/-- The entries a list of objects reads as. -/
def Reads (objects : List Json) (entries : List TzEntry) : Prop :=
  List.Forall₂ (fun object entry => readEntry object = .ok entry) objects entries

/-- The horizon of all the entries sent after the one in force. -/
def horizonOf (current : TzEntry) (future : List TzEntry) : BitVec 32 :=
  if future.length < smlTzTransitionMax then openEndedUtc
  else if future.length = smlTzTransitionMax then
    ((current :: future).getLastD {}).utcSeconds + 1
  else (future.getD smlTzTransitionMax {}).utcSeconds

/-- What the loop keeps of the entries it reads from an index on. -/
def kept (index : Nat) (entries future : List TzEntry) : List TzEntry :=
  entries ++ future.take (smlTzTransitionMax - index)

/-- The horizon the loop leaves. -/
def leftOut (index : Nat) (horizonEndUtc : BitVec 32) (future : List TzEntry) : BitVec 32 :=
  if index ≤ smlTzTransitionMax ∧ smlTzTransitionMax - index < future.length then
    (future.getD (smlTzTransitionMax - index) {}).utcSeconds
  else horizonEndUtc

theorem kept_cons (index : Nat) (entries future : List TzEntry) (entry : TzEntry) :
    kept index entries (entry :: future) =
      if index < smlTzTransitionMax then kept (index + 1) (entries ++ [entry]) future
      else kept (index + 1) entries future := by
  rw [kept, kept, kept]
  split
  · next room =>
      obtain ⟨spare, more⟩ : ∃ spare, smlTzTransitionMax - index = spare + 1 :=
        ⟨smlTzTransitionMax - index - 1, by omega⟩
      have less : smlTzTransitionMax - (index + 1) = spare := by omega
      rw [more, less, List.take_succ_cons, List.append_assoc]
      rfl
  · next full =>
      have none_left : smlTzTransitionMax - index = 0 := by omega
      have still_none : smlTzTransitionMax - (index + 1) = 0 := by omega
      rw [none_left, still_none, List.take_zero, List.take_zero]

theorem leftOut_cons (index : Nat) (horizonEndUtc : BitVec 32) (future : List TzEntry)
    (entry : TzEntry) :
    leftOut index horizonEndUtc (entry :: future) =
      leftOut (index + 1) (if index = smlTzTransitionMax then entry.utcSeconds else horizonEndUtc)
        future := by
  rw [leftOut, leftOut, List.length_cons]
  obtain room | exact_ | past := Nat.lt_trichotomy index smlTzTransitionMax
  · obtain ⟨spare, more⟩ : ∃ spare, smlTzTransitionMax - index = spare + 1 :=
      ⟨smlTzTransitionMax - index - 1, by omega⟩
    have less : smlTzTransitionMax - (index + 1) = spare := by omega
    rw [more, less, List.getD_cons_succ, if_neg (Nat.ne_of_lt room)]
    simp only [Nat.add_lt_add_iff_right, room.le, Nat.succ_le_of_lt room, true_and]
  · rw [exact_]
    simp
  · rw [if_neg (by omega), if_neg (by omega), if_neg (by omega)]

/-- The loop succeeds exactly if every object reads as an entry later than the one
before. -/
theorem readFuture_ok (objects : List Json) (index : Nat) (held : TzEntry)
    (entries : List TzEntry) (horizonEndUtc : BitVec 32)
    (result : List TzEntry × BitVec 32) :
    readFuture objects index held.utcSeconds entries horizonEndUtc = .ok result ↔
      ∃ future, Reads objects future ∧ Steps.Ascending TzEntry.time held future ∧
        result = (kept index entries future, leftOut index horizonEndUtc future) := by
  induction objects generalizing index held entries horizonEndUtc with
  | nil =>
      rw [readFuture]
      constructor
      · intro done
        cases done
        exact ⟨[], .nil, trivial, by simp [kept, leftOut]⟩
      · rintro ⟨future, reads, _, rfl⟩
        cases reads
        simp [kept, leftOut]
  | cons object objects ih =>
      rw [readFuture]
      cases read : readEntry object with
      | error failure =>
          refine iff_of_false nofun ?_
          rintro ⟨future, reads, _⟩
          cases reads with
          | cons first _ =>
              rw [read] at first
              cases first
      | ok entry =>
          by_cases late : entry.utcSeconds ≤ held.utcSeconds
          · simp only [late, ↓reduceIte]
            refine iff_of_false nofun ?_
            rintro ⟨future, reads, ascending, _⟩
            cases reads with
            | cons first _ =>
                rw [read] at first
                cases first
                exact absurd ascending.1 (Nat.not_lt.mpr (BitVec.le_def.mp late))
          · have later : held.time < entry.time :=
              Nat.not_le.mp fun order => late (BitVec.le_def.mpr order)
            have onward : ∀ kepts horizon,
                readFuture objects (index + 1) entry.utcSeconds kepts horizon = .ok result ↔
                  ∃ future, Reads (object :: objects) future ∧
                    Steps.Ascending TzEntry.time held future ∧
                    result = (kept (index + 1) kepts future.tail,
                      leftOut (index + 1) horizon future.tail) := by
              intro kepts horizon
              rw [ih]
              constructor
              · rintro ⟨future, reads, ascending, same⟩
                exact ⟨entry :: future, .cons read reads, ⟨later, ascending⟩, same⟩
              · rintro ⟨future, reads, ascending, same⟩
                cases reads with
                | cons first rest =>
                    rw [read] at first
                    cases first
                    exact ⟨_, rest, ascending.2, same⟩
            have opened : ∀ future, Reads (object :: objects) future →
                future = entry :: future.tail := by
              intro future reads
              cases reads with
              | cons first _ =>
                  rw [read] at first
                  cases first
                  rfl
            simp only [late, ↓reduceIte]
            split
            · next room =>
                rw [onward]
                refine exists_congr fun future => and_congr_right fun reads => and_congr_right
                  fun _ => ?_
                rw [opened future reads, kept_cons, leftOut_cons, if_pos room,
                  if_neg (Nat.ne_of_lt room), List.tail_cons]
            · next full =>
                split
                · next last =>
                    rw [onward]
                    refine exists_congr fun future => and_congr_right fun reads =>
                      and_congr_right fun _ => ?_
                    rw [opened future reads, kept_cons, leftOut_cons, if_neg full, if_pos last,
                      List.tail_cons]
                · next past =>
                    rw [onward]
                    refine exists_congr fun future => and_congr_right fun reads =>
                      and_congr_right fun _ => ?_
                    rw [opened future reads, kept_cons, leftOut_cons, if_neg full, if_neg past,
                      List.tail_cons]

/-- A response that comes as far as its entries. -/
structure Offers (asInt : Json → Int) (document object : Json) (next : List Json)
    (zone source : String) (generatedUtc refreshUtc : BitVec 32) : Prop where
  isObject : document.isObject = true
  noError : (document.member "error").isObject = false
  version : asInt (document.member "version") = 1
  hasCurrent : ∃ others, (document.member "current").asArray = some (object :: others)
  hasNext : (document.member "next").asArray = some next
  few : next.length ≤ serverEntriesMax
  hasZone : (document.member "zone").asText = some zone
  hasSource : (document.member "source").asText = some source
  known : sourceOf source ≠ smlTzSourceNone
  generated : readU32 (document.member "generated") = some generatedUtc
  validUntil : readU32 (document.member "valid_until") = some refreshUtc

/-- The schedule of a response's entries. -/
def parsedSchedule (zone source : String) (generatedUtc refreshUtc : BitVec 32) (current : TzEntry)
    (future : List TzEntry) : TzSchedule where
  valid := true
  ambiguous := false
  source := sourceOf source
  zone := ((cText zone).flatMap String.utf8EncodeChar).take (tzScheduleZoneBytes - 1)
  generatedUtc := generatedUtc
  refreshUtc := refreshUtc
  horizonEndUtc := horizonOf current future
  subsecondOffsetNs := 0
  entries := current :: future.take smlTzTransitionMax

theorem Reads.unique {objects : List Json} {first second : List TzEntry}
    (left : Reads objects first) (right : Reads objects second) : first = second := by
  induction left generalizing second with
  | nil =>
      cases right
      rfl
  | cons read _ ih =>
      cases right with
      | cons other rest =>
          rw [read] at other
          cases other
          rw [ih rest]

theorem Reads.length {objects : List Json} {entries : List TzEntry}
    (reads : Reads objects entries) : objects.length = entries.length :=
  List.Forall₂.length_eq reads

/-- The loop's horizon, and the two rules beside it, are one rule about the entries. -/
theorem horizon_eq {objects : List Json} {future : List TzEntry} (current : TzEntry)
    (reads : Reads objects future) :
    (if objects.length < smlTzTransitionMax then openEndedUtc
      else if objects.length = smlTzTransitionMax then
        ((kept 0 [current] future).getLastD {}).utcSeconds + 1
      else leftOut 0 0 future) = horizonOf current future := by
  rw [reads.length, horizonOf]
  split
  · rfl
  · next enough =>
      split
      · next exactly =>
          rw [kept, Nat.sub_zero, ← exactly, List.take_length]
          rfl
      · next differs =>
          rw [leftOut, if_pos ⟨Nat.zero_le _, by omega⟩]
          rfl

/-- **What is accepted.** A response that comes as far as its entries is accepted exactly
if they read and ascend, and gives the schedule of them. -/
theorem tzScheduleParseV1_ok_iff {asInt : Json → Int} {document object : Json} {next : List Json}
    {zone source : String} {generatedUtc refreshUtc : BitVec 32}
    (offers : Offers asInt document object next zone source generatedUtc refreshUtc)
    (schedule : TzSchedule) :
    tzScheduleParseV1 asInt (some document) = .ok schedule ↔
      ∃ current future, readEntry object = .ok current ∧ Reads next future ∧
        Steps.Ascending TzEntry.time current future ∧
        schedule = parsedSchedule zone source generatedUtc refreshUtc current future := by
  obtain ⟨others, objects⟩ := offers.hasCurrent
  have few : ¬serverEntriesMax < next.length := Nat.not_lt.mpr offers.few
  rw [tzScheduleParseV1]
  simp only [offers.isObject, offers.noError, offers.version, objects, offers.hasNext,
    offers.hasZone, offers.hasSource, offers.generated, offers.validUntil, few, Bool.not_true,
    Bool.false_eq_true, ne_eq, not_true_eq_false, ↓reduceIte]
  cases read : readEntry object with
  | error failure =>
      refine iff_of_false nofun ?_
      rintro ⟨current, future, first, _⟩
      cases first
  | ok current =>
      dsimp only
      cases loop : readFuture next 0 current.utcSeconds [current] 0 with
      | error failure =>
          refine iff_of_false nofun ?_
          rintro ⟨_, future, first, reads, ascending, _⟩
          cases first
          have done := (readFuture_ok next 0 current [current] 0 _).mpr
            ⟨future, reads, ascending, rfl⟩
          rw [loop] at done
          cases done
      | ok result =>
          obtain ⟨future, reads, ascending, same⟩ :=
            (readFuture_ok next 0 current [current] 0 result).mp loop
          have horizon := horizon_eq current reads
          subst same
          dsimp only
          rw [horizon, if_neg offers.known]
          constructor
          · intro done
            cases done
            exact ⟨current, future, rfl, reads, ascending, rfl⟩
          · rintro ⟨_, other, first, otherReads, _, rfl⟩
            cases first
            rw [otherReads.unique reads]
            rfl

/-- What is accepted comes as far as its entries. -/
theorem offers_of_ok {asInt : Json → Int} {response : Option Json} {schedule : TzSchedule}
    (parsed : tzScheduleParseV1 asInt response = .ok schedule) :
    ∃ document object next zone source generatedUtc refreshUtc, response = some document ∧
      Offers asInt document object next zone source generatedUtc refreshUtc := by
  cases response with
  | none => cases parsed
  | some document =>
      rw [tzScheduleParseV1] at parsed
      split at parsed
      · cases parsed
      · next isObject =>
          split at parsed
          · cases parsed
          · next noError =>
              split at parsed
              · cases parsed
              · next version =>
                  split at parsed
                  · next object others next zone source generatedUtc refreshUtc hasCurrent hasNext
                      hasZone hasSource generated validUntil =>
                      split at parsed
                      · cases parsed
                      · next few =>
                          refine ⟨document, object, next, zone, source, generatedUtc, refreshUtc,
                            rfl, by simpa using isObject, by simpa using noError,
                            not_not.mp version, ⟨others, hasCurrent⟩, hasNext, Nat.not_lt.mp few,
                            hasZone, hasSource, ?_, generated, validUntil⟩
                          intro unknown
                          simp only [unknown, ↓reduceIte] at parsed
                          split at parsed
                          · cases parsed
                          · split at parsed <;> cases parsed
                  · cases parsed

/-- A schedule parsed is that of the entries of a response. -/
theorem parsed_of_ok {asInt : Json → Int} {response : Option Json} {schedule : TzSchedule}
    (parsed : tzScheduleParseV1 asInt response = .ok schedule) :
    ∃ object next zone source generatedUtc refreshUtc current future,
      readEntry object = .ok current ∧ Reads next future ∧
        Steps.Ascending TzEntry.time current future ∧ sourceOf source ≠ smlTzSourceNone ∧
        schedule = parsedSchedule zone source generatedUtc refreshUtc current future := by
  obtain ⟨document, object, next, zone, source, generatedUtc, refreshUtc, rfl, offers⟩ :=
    offers_of_ok parsed
  obtain ⟨current, future, read, reads, ascending, same⟩ :=
    (tzScheduleParseV1_ok_iff offers schedule).mp parsed
  exact ⟨object, next, zone, source, generatedUtc, refreshUtc, current, future, read, reads,
    ascending, offers.known, same⟩

end GpsClock.TimeZone
