import GpsClock.TimeZone.Agreement
import GpsClock.TimeZone.Service

/-! # The service's answer is the zone

A zone as a step function of UTC, and what `zdump` and `zoneinfo` give of it. The
records of its changes give back exactly the changes of offset or DST
(`GpsClock.TimeZone.boundaryPairs_records`), the states at them add up to its offset,
and what the ESP keeps of them tracks it as far as the horizon it takes, if the
service may send as many changes as the ESP counts on
(`GpsClock.TimeZone.service_answer_is_zone`).
-/

namespace GpsClock.TimeZone

/-- A zone: its offset and DST at each UTC second, the DST amount `zoneinfo` gives, and
the times something of it changes, if only its name. -/
structure Zone where
  gmtoff : Int → Int
  isdst : Int → Bool
  dst : Int → Option Int
  Changes : Int → Prop

/-- `zoneinfo`'s view of a zone. -/
def Zone.info (zone : Zone) : ZoneInfo := { utcoffset := zone.gmtoff, dst := zone.dst }

/-- The seasonal adjustment of a change of DST. -/
def Zone.adjustment (zone : Zone) (time : Int) : Int :=
  if zone.isdst time then zone.gmtoff time - zone.gmtoff (time - 1)
  else zone.gmtoff (time - 1) - zone.gmtoff time

/-- An amount an `int16_t` holds. -/
def FitsInt16 (amount : Int) : Prop := -2 ^ 15 ≤ amount ∧ amount ≤ 2 ^ 15 - 1

structure Zone.Sound (zone : Zone) : Prop where
  steady : ∀ time, ¬zone.Changes time →
    zone.gmtoff time = zone.gmtoff (time - 1) ∧ zone.isdst time = zone.isdst (time - 1)
  apart : ∀ first second, zone.Changes first → zone.Changes second → first < second →
    first + 2 ≤ second
  offset : ∀ time, |zone.gmtoff time| < 86400
  dst_isdst : ∀ time, ∀ amount ∈ zone.dst time, amount ≠ 0 → zone.isdst time = true
  dst_small : ∀ time, ∀ amount ∈ zone.dst time, FitsInt16 amount
  adjustment_small : ∀ time, zone.Changes time → zone.isdst time ≠ zone.isdst (time - 1) →
    FitsInt16 (zone.adjustment time)

/-- `zdump`'s record of a second. -/
def Zone.record (zone : Zone) (time : Int) : ZdumpRecord where
  transitionUtc := time
  isdst := zone.isdst time
  gmtoff := zone.gmtoff time

/-- `zdump`'s records of some changes. -/
def Zone.records (zone : Zone) (times : List Int) : List ZdumpRecord :=
  times.flatMap fun time => [zone.record (time - 1), zone.record time]

/-- The changes `zdump` is to give of the time from 1970 to an end: all before it, in order,
and none after. -/
structure Zone.Dumps (zone : Zone) (stop : Int) (times : List Int) : Prop where
  ascending : times.Pairwise (· < ·)
  changes : ∀ time ∈ times, zone.Changes time ∧ 0 ≤ time ∧ time ≤ stop
  complete : ∀ time, zone.Changes time → 0 < time → time < stop → time ∈ times

/-- A change of offset or DST. -/
def Zone.shifts (zone : Zone) (time : Int) : Bool :=
  !(zone.gmtoff (time - 1) = zone.gmtoff time && zone.isdst (time - 1) = zone.isdst time)

/-- The records either side of a second's start. -/
def Zone.pairAt (zone : Zone) (time : Int) : Boundary := (zone.record (time - 1), zone.record time)

variable {zone : Zone} {stop now : Int} {times : List Int}

theorem boundaryPairs_cons (first second : ZdumpRecord) (rest : List ZdumpRecord) :
    boundaryPairs (first :: second :: rest) =
      if isBoundary (first, second) then (first, second) :: boundaryPairs (second :: rest)
      else boundaryPairs (second :: rest) := by
  rw [boundaryPairs, List.tail_cons, List.zip_cons_cons, List.filter_cons]
  rfl

theorem isBoundary_pairAt (zone : Zone) (time : Int) :
    isBoundary (zone.pairAt time) = zone.shifts time := by
  simp only [isBoundary, Zone.pairAt, Zone.record, Zone.shifts, Int.sub_add_cancel, decide_true,
    Bool.true_and]
  rfl

/-- From one change to the second before the next is no change. -/
theorem Zone.Sound.between (sound : zone.Sound) {first : Int} (one : zone.Changes first)
    (second : Int) : isBoundary (zone.record first, zone.record (second - 1)) = false := by
  by_cases next : second - 1 = first + 1
  · have unchanged : ¬zone.Changes (first + 1) := by
      intro change
      have := sound.apart first (first + 1) one change (by omega)
      omega
    obtain ⟨offset, dst⟩ := sound.steady (first + 1) unchanged
    rw [Int.add_sub_cancel] at offset dst
    simp [isBoundary, Zone.record, next, offset, dst]
  · simp [isBoundary, Zone.record, next]

/-- **The changes come back**: of the records of a zone's changes, the pairs picked out are
those of its changes of offset or DST. -/
theorem boundaryPairs_records (sound : zone.Sound) (ascending : times.Pairwise (· < ·))
    (changes : ∀ time ∈ times, zone.Changes time) :
    boundaryPairs (zone.records times) = (times.filter zone.shifts).map zone.pairAt := by
  induction times with
  | nil => rfl
  | cons time later ih =>
      obtain ⟨_, ascending⟩ := List.pairwise_cons.mp ascending
      obtain ⟨here, changes⟩ := List.forall_mem_cons.mp changes
      have onward : boundaryPairs (zone.record time :: zone.records later) =
          boundaryPairs (zone.records later) := by
        cases later with
        | nil => rfl
        | cons next later =>
            have quiet := sound.between here next
            rw [Zone.records, List.flatMap_cons, List.cons_append, boundaryPairs_cons, quiet]
            rfl
      have opened : zone.records (time :: later) =
          zone.record (time - 1) :: zone.record time :: zone.records later := rfl
      rw [opened, boundaryPairs_cons, onward, ih ascending changes, List.filter_cons]
      have shift := isBoundary_pairAt zone time
      rw [Zone.pairAt] at shift
      rw [shift]
      cases zone.shifts time <;> rfl

/-! ## The states -/

/-- The ESP's entry of a state. -/
def TimezoneState.entry (state : TimezoneState) : TzEntry where
  utcSeconds := BitVec.ofInt 32 state.transitionUtc
  baseOffsetS := BitVec.ofInt 32 state.offset
  dstOffsetS := BitVec.ofInt 16 state.dstOffset
  dstActive := state.dst

/-- A state the ESP reads. -/
structure TimezoneState.Readable (state : TimezoneState) : Prop where
  from_1970 : 0 ≤ state.transitionUtc
  before_end : state.transitionUtc ≤ 2 ^ 32 - 1
  low : -86399 ≤ state.offset
  high : state.offset ≤ 86399
  small : FitsInt16 state.dstOffset

theorem TimezoneState.Readable.readEntry {state : TimezoneState} (readable : state.Readable) :
    TimeZone.readEntry state.asDict = .ok state.entry := by
  obtain ⟨from_1970, before_end, low, high, least, most⟩ := readable
  have transition : (state.asDict.member "transition_utc") = .integer state.transitionUtc := rfl
  have offset : (state.asDict.member "offset") = .integer state.offset := rfl
  have amount : (state.asDict.member "dst_offset") = .integer state.dstOffset := rfl
  have active : (state.asDict.member "dst") = .boolean state.dst := rfl
  have within (value : Int) (low : -2 ^ 63 ≤ value) (high : value < 2 ^ 63) :
      (Json.integer value).asInt64 = some value := if_pos ⟨low, high⟩
  have utc : readU32 (.integer state.transitionUtc) =
      some (BitVec.ofInt 32 state.transitionUtc) := by
    rw [readU32, within _ (by omega) (by omega)]
    exact if_neg (by omega)
  rw [TimeZone.readEntry, transition, offset, amount, active, utc, within _ (by omega) (by omega),
    within _ (by omega) (by omega)]
  have object : (!state.asDict.isObject) = false := rfl
  have inside : ¬(state.offset < -tzScheduleOffsetMax ∨ tzScheduleOffsetMax < state.offset ∨
      state.dstOffset < -2 ^ 15 ∨ 2 ^ 15 - 1 < state.dstOffset) := by
    rw [tzScheduleOffsetMax]
    omega
  rw [object]
  exact if_neg inside

theorem TimezoneState.Readable.time {state : TimezoneState} (readable : state.Readable) :
    (state.entry.time : Int) = state.transitionUtc := by
  have low := readable.from_1970
  have high := readable.before_end
  simp only [TzEntry.time, TimezoneState.entry, BitVec.toNat_ofInt]
  omega

theorem TimezoneState.Readable.offset {state : TimezoneState} (readable : state.Readable) :
    state.entry.offset.toInt = state.offset + if state.dst then state.dstOffset else 0 := by
  cases state with
  | mk transitionUtc offset dstOffset dst =>
      obtain ⟨_, _, low, high, least, most⟩ := readable
      have base : (BitVec.ofInt 32 offset).toInt = offset := by
        rw [BitVec.toInt_ofInt, Int.bmod_eq_of_le] <;> simp only at low high <;> omega
      have amount : ((BitVec.ofInt 16 dstOffset).signExtend 32).toInt = dstOffset := by
        rw [BitVec.toInt_signExtend_of_le (by decide), BitVec.toInt_ofInt, Int.bmod_eq_of_le] <;>
          simp only at least most <;> omega
      simp only at low high least most
      cases dst with
      | false =>
          change (BitVec.ofInt 32 offset + 0#32).toInt = offset + 0
          rw [BitVec.add_zero, base, Int.add_zero]
      | true =>
          change (BitVec.ofInt 32 offset + (BitVec.ofInt 16 dstOffset).signExtend 32).toInt =
            offset + dstOffset
          rw [BitVec.toInt_add, base, amount, Int.bmod_eq_of_le] <;> omega

/-- Changes the states are worked out from. -/
def OfChanges (zone : Zone) (boundaries : List Boundary) : Prop :=
  ∀ pair ∈ boundaries, ∃ time, zone.Changes time ∧ pair = zone.pairAt time

theorem dstAdjustmentFromPair_pairAt (zone : Zone) (time : Int) :
    dstAdjustmentFromPair (zone.pairAt time) =
      if zone.isdst (time - 1) = zone.isdst time then none else some (zone.adjustment time) := by
  change (if zone.isdst (time - 1) = zone.isdst time then none
    else if zone.isdst time = true then some (zone.gmtoff time - zone.gmtoff (time - 1))
    else some (zone.gmtoff (time - 1) - zone.gmtoff time)) = _
  by_cases same : zone.isdst (time - 1) = zone.isdst time
  · rw [if_pos same, if_pos same]
  · rw [if_neg same, if_neg same, Zone.adjustment]
    split <;> rfl

/-- The DST amount recovered while DST is not in force fits its field. -/
theorem Zone.Sound.nearest_small (sound : zone.Sound) {boundaries : List Boundary}
    (changes : OfChanges zone boundaries) (epoch : Int) :
    FitsInt16 (nearest (candidates epoch boundaries)).2 := by
  obtain none_found | member := nearest_mem (candidates epoch boundaries)
  · rw [none_found]
    exact ⟨by decide, by decide⟩
  · obtain ⟨pair, held, found⟩ := List.mem_filterMap.mp member
    obtain ⟨time, change, rfl⟩ := changes pair held
    rw [dstAdjustmentFromPair_pairAt] at found
    by_cases same : zone.isdst (time - 1) = zone.isdst time
    · rw [if_pos same] at found
      cases found
    · rw [if_neg same] at found
      rw [← Option.some.inj found]
      exact sound.adjustment_small time change (Ne.symm same)

/-- A state is one the ESP reads, and adds up to the zone's offset. -/
theorem Zone.Sound.stateAt (sound : zone.Sound)
    (standard : ∀ time, ∀ amount ∈ zone.dst time, |zone.gmtoff time - amount| < 86400)
    {boundaries : List Boundary} (changes : OfChanges zone boundaries) (transitionUtc epoch : Int)
    (low : 0 ≤ transitionUtc) (high : transitionUtc ≤ 2 ^ 32 - 1) :
    let state := TimeZone.stateAt zone.info boundaries transitionUtc epoch
    state.Readable ∧ state.offset + (if state.dst then state.dstOffset else 0) =
      zone.gmtoff epoch := by
  intro state
  have offset := abs_lt.mp (sound.offset epoch)
  by_cases active : (zone.dst epoch).getD 0 = 0
  · have shape : state =
        { transitionUtc, offset := zone.gmtoff epoch,
          dstOffset := (nearest (candidates epoch boundaries)).2, dst := false } := by
      simp [state, TimeZone.stateAt, stateComponents, zoneinfoState, Zone.info, active]
    rw [shape]
    refine ⟨⟨low, high, ?_, ?_, sound.nearest_small changes epoch⟩, Int.add_zero _⟩
    · exact Int.add_one_le_of_lt offset.1
    · exact Int.le_of_lt_add_one offset.2
  · obtain ⟨amount, given⟩ : ∃ amount, zone.dst epoch = some amount := by
      cases given : zone.dst epoch with
      | none => exact absurd (by rw [given]; rfl) active
      | some amount => exact ⟨amount, rfl⟩
    have base := abs_lt.mp (standard epoch amount given)
    have shape : state =
        { transitionUtc, offset := zone.gmtoff epoch - amount, dstOffset := amount,
          dst := true } := by
      rw [given, Option.getD_some] at active
      simp [state, TimeZone.stateAt, stateComponents, zoneinfoState, Zone.info, given, active]
    rw [shape]
    refine ⟨⟨low, high, ?_, ?_, sound.dst_small epoch amount given⟩, Int.sub_add_cancel _ _⟩
    · exact Int.add_one_le_of_lt base.1
    · exact Int.le_of_lt_add_one base.2

/-! ## Tracking the zone -/

/-- A zone keeps its offset where it does not change. -/
theorem gmtoff_steady (zone : Zone) {first last : Int} (later : first ≤ last)
    (steady : ∀ time, first < time → time ≤ last → zone.gmtoff time = zone.gmtoff (time - 1)) :
    zone.gmtoff last = zone.gmtoff first := by
  induction last, later using Int.leInduction with
  | base => rfl
  | succ last later ih =>
      have step := steady (last + 1) (Int.lt_add_one_of_le later) (Int.le_refl _)
      rw [Int.add_sub_cancel] at step
      rw [step]
      exact ih fun time after by_ => steady time after (by_.trans (Int.le_of_lt (Int.lt_succ last)))

/-- Entries at the changes after a moment, one of them at each, track the zone. -/
theorem tracks_of_changes (zone : Zone) (entryOf : Int → TzEntry) (stop : Nat) (times : List Int)
    (start : Nat) (held : TzEntry) (value : held.offset.toInt = zone.gmtoff start)
    (entries : ∀ time ∈ times, ((entryOf time).time : Int) = time ∧
      (entryOf time).offset.toInt = zone.gmtoff time)
    (ascending : times.Pairwise (· < ·)) (after : ∀ time ∈ times, (start : Int) < time)
    (complete : ∀ time : Int, start < time → time < stop →
      zone.gmtoff time ≠ zone.gmtoff (time - 1) → time ∈ times) :
    Steps.Tracks TzEntry.time (fun moment => zone.gmtoff moment) (fun entry => entry.offset.toInt)
      stop start held (times.map entryOf) := by
  induction times generalizing start held with
  | nil =>
      intro moment onward before
      refine Eq.trans ?_ value.symm
      refine gmtoff_steady zone (Int.ofNat_le.mpr onward) fun time later by_ => ?_
      by_contra changed
      exact nomatch complete time later (by omega) changed
  | cons next later ih =>
      obtain ⟨⟨at_, offset⟩, entries⟩ := List.forall_mem_cons.mp entries
      obtain ⟨first, ascending⟩ := List.pairwise_cons.mp ascending
      have onward := after next List.mem_cons_self
      refine ⟨fun moment from_ reached _ => ?_, ih _ _ (by rw [offset, at_]) entries ascending
        (fun time member => by rw [at_]; exact first time member) fun time past before changed => ?_⟩
      · refine Eq.trans ?_ value.symm
        refine gmtoff_steady zone (Int.ofNat_le.mpr from_) fun time past by_ => ?_
        by_contra changed
        obtain same | member := List.mem_cons.mp (complete time past (by omega) changed)
        · omega
        · have := first time member
          omega
      · rw [at_] at past
        obtain same | member := List.mem_cons.mp (complete time (by omega) before changed)
        · omega
        · exact member

/-- Within the horizon the ESP takes, the entries it keeps are all that matter, if the
service sent as many as the ESP counts on or all there were. -/
theorem lookup_within_horizon {current : TzEntry} {all : List TzEntry} {maxTransitions : Nat}
    (ascending : Steps.Ascending TzEntry.time current all)
    (enough : smlTzTransitionMax ≤ maxTransitions ∨ all.length ≤ maxTransitions)
    (room : ∀ entry ∈ current :: all, entry.time < 2 ^ 32 - 1) (utcSeconds : BitVec 32)
    (within : utcSeconds < horizonOf current (all.take maxTransitions)) :
    Steps.lookup TzEntry.time utcSeconds.toNat current
        ((all.take maxTransitions).take smlTzTransitionMax) =
      Steps.lookup TzEntry.time utcSeconds.toNat current all := by
  rw [List.take_take]
  refine Steps.lookup_take current all _ fun next found => ?_
  obtain ⟨inside, rfl⟩ := List.getElem?_eq_some_iff.mp found
  rw [horizonOf, List.length_take] at within
  have most : smlTzTransitionMax ≤ maxTransitions := by omega
  have few : min smlTzTransitionMax maxTransitions = smlTzTransitionMax := Nat.min_eq_left most
  simp only [few] at inside ⊢
  rw [if_neg (by omega)] at within
  have before := ascending.lt_getElem smlTzTransitionMax inside
  split at within
  · next exactly =>
      have whole : maxTransitions = smlTzTransitionMax := by omega
      have final : (current :: all.take maxTransitions).getLastD {} =
          (current :: all.take smlTzTransitionMax).getLast (List.cons_ne_nil _ _) := by
        rw [whole, List.getLastD_eq_getLast?, List.getLast?_eq_some_getLast (List.cons_ne_nil _ _)]
        rfl
      have member := List.getLast_mem (List.cons_ne_nil current (all.take smlTzTransitionMax))
      have spare := room _ (List.cons_subset_cons _ (List.take_subset _ _) member)
      have earlier := before _ member
      rw [final] at within
      simp only [TzEntry.time] at spare earlier ⊢
      bv_omega
  · next more =>
      rw [List.getD_eq_getElem _ _ (by rw [List.length_take]; omega), List.getElem_take] at within
      exact BitVec.lt_def.mp within

/-- The changes of offset or DST after a moment. -/
def Zone.ahead (zone : Zone) (now : Int) (times : List Int) : List Int :=
  (times.filter zone.shifts).filter (now < ·)

/-- The state sent of a change. -/
def Zone.stateOf (zone : Zone) (times : List Int) (time : Int) : TimezoneState :=
  TimeZone.stateAt zone.info (boundaryPairs (zone.records times)) time time

/-- The state sent as the one in force. -/
def Zone.stateNow (zone : Zone) (times : List Int) (now : Int) : TimezoneState :=
  TimeZone.stateAt zone.info (boundaryPairs (zone.records times))
    (currentTransition now 0 (boundaryPairs (zone.records times))) now

theorem snapshot_eq (sound : zone.Sound) (dumps : zone.Dumps stop times) {maxTransitions : Nat}
    (some_ : 0 < maxTransitions) :
    snapshot zone.info (zone.records times) now maxTransitions =
      (zone.stateNow times now,
        ((zone.ahead now times).take maxTransitions).map (zone.stateOf times)) := by
  have pairs := boundaryPairs_records sound dumps.ascending fun time member =>
    (dumps.changes time member).1
  rw [snapshot]
  refine congrArg (Prod.mk _) ?_
  rw [futureTransitions_eq _ _ _ _ [] _ some_, List.nil_append, List.length_nil, Nat.sub_zero]
  have ahead : (boundaryPairs (zone.records times)).filter
      (fun pair => now < pair.2.transitionUtc) = (zone.ahead now times).map zone.pairAt := by
    rw [pairs, List.filter_map]
    rfl
  rw [ahead, ← List.map_take, List.map_map]
  rfl

/-- A response that says where the position was from comes as far as its entries. -/
theorem offers_buildResponse {asInt : Json → Int} (version : asInt (.integer 1) = 1)
    (zoneName : String) {source : String} (known : source = "gnss" ∨ source = "geoip") {now : Int}
    (from_1970 : 0 ≤ now) (soon : now + defaultValiditySeconds ≤ 2 ^ 32 - 1)
    (states : TimezoneState × List TimezoneState) (few : states.2.length ≤ serverEntriesMax) :
    Offers asInt (buildResponse zoneName source now states) states.1.asDict
      (states.2.map TimezoneState.asDict) zoneName source (BitVec.ofInt 32 now)
      (BitVec.ofInt 32 (now + defaultValiditySeconds)) := by
  have reads (value : Int) (low : 0 ≤ value) (high : value ≤ 2 ^ 32 - 1) :
      readU32 (.integer value) = some (BitVec.ofInt 32 value) := by
    have inside : (Json.integer value).asInt64 = some value := if_pos ⟨by omega, by omega⟩
    rw [readU32, inside]
    exact if_neg (by omega)
  have validity : defaultValiditySeconds = 604800 := rfl
  refine ⟨rfl, rfl, version, ⟨[], rfl⟩, rfl, ?_, rfl, rfl, ?_, reads now from_1970 (by omega),
    reads _ (by omega) soon⟩
  · rw [List.length_map]
    exact few
  · obtain rfl | rfl := known <;> decide

theorem reads_of_readable (states : List TimezoneState)
    (readable : ∀ state ∈ states, state.Readable) :
    Reads (states.map TimezoneState.asDict) (states.map TimezoneState.entry) := by
  induction states with
  | nil => exact .nil
  | cons state states ih =>
      obtain ⟨here, onward⟩ := List.forall_mem_cons.mp readable
      exact .cons here.readEntry (ih onward)

theorem ascending_of_changes (entryOf : Int → TzEntry) (times : List Int) (held : TzEntry)
    (at_ : ∀ time ∈ times, ((entryOf time).time : Int) = time)
    (ascending : times.Pairwise (· < ·)) (after : ∀ time ∈ times, (held.time : Int) < time) :
    Steps.Ascending TzEntry.time held (times.map entryOf) := by
  induction times generalizing held with
  | nil => trivial
  | cons next later ih =>
      obtain ⟨here, at_⟩ := List.forall_mem_cons.mp at_
      obtain ⟨first, ascending⟩ := List.pairwise_cons.mp ascending
      have onward := after next List.mem_cons_self
      refine ⟨by omega, ih _ at_ ascending fun time member => ?_⟩
      rw [here]
      exact first time member

/-- The states sent, as the ESP reads them: the one in force, and those of the changes
after it. -/
theorem snapshot_states (sound : zone.Sound)
    (standard : ∀ time, ∀ amount ∈ zone.dst time, |zone.gmtoff time - amount| < 86400)
    (dumps : zone.Dumps stop times) (from_1970 : 0 ≤ now) (later : now ≤ stop)
    (ends : stop < 2 ^ 32 - 1) :
    ((zone.stateNow times now).Readable ∧ ((zone.stateNow times now).entry.time : Int) ≤ now ∧
        (zone.stateNow times now).entry.offset.toInt = zone.gmtoff now) ∧
      ∀ time ∈ zone.ahead now times, now < time ∧ time ≤ stop ∧
        (zone.stateOf times time).Readable ∧
        ((zone.stateOf times time).entry.time : Int) = time ∧
        (zone.stateOf times time).entry.offset.toInt = zone.gmtoff time := by
  have pairs := boundaryPairs_records sound dumps.ascending fun time member =>
    (dumps.changes time member).1
  have changes : OfChanges zone (boundaryPairs (zone.records times)) := by
    rw [pairs]
    intro pair member
    obtain ⟨time, held, rfl⟩ := List.mem_map.mp member
    exact ⟨time, (dumps.changes time (List.mem_of_mem_filter held)).1, rfl⟩
  have positive : ∀ pair ∈ boundaryPairs (zone.records times), 0 ≤ pair.2.transitionUtc := by
    rw [pairs]
    intro pair member
    obtain ⟨time, held, rfl⟩ := List.mem_map.mp member
    exact (dumps.changes time (List.mem_of_mem_filter held)).2.1
  constructor
  · obtain ⟨low, high⟩ := currentTransition_spec now 0 _ (Int.le_refl 0) from_1970 positive
    obtain ⟨readable, offset⟩ := sound.stateAt standard changes _ now low (by omega)
    refine ⟨readable, ?_, readable.offset.trans offset⟩
    exact (Int.le_of_eq readable.time).trans high
  · intro time member
    obtain ⟨held, after⟩ := List.mem_filter.mp member
    have after := of_decide_eq_true after
    have by_ := (dumps.changes time (List.mem_of_mem_filter held)).2.2
    obtain ⟨readable, offset⟩ := sound.stateAt standard changes time time (by omega) (by omega)
    exact ⟨after, by_, readable, readable.time, readable.offset.trans offset⟩

/-- **The service's answer, as the ESP reads it, is the zone.** For every zone whose offset
less its DST amount is a time zone's too, and every moment and configuration with at
least as many transitions sent as the ESP counts on, or as the window holds, the
response is accepted, its first entry is in force, and up to the horizon the ESP
takes or the window's end, the ESP's offset is the zone's. -/
theorem service_answer_is_zone (sound : zone.Sound)
    (standard : ∀ time, ∀ amount ∈ zone.dst time, |zone.gmtoff time - amount| < 86400)
    {asInt : Json → Int} (version : asInt (.integer 1) = 1) (zoneName : String) {source : String}
    (known : source = "gnss" ∨ source = "geoip") (from_1970 : 0 ≤ now)
    {transitionYears maxTransitions : Nat} (years : 1 ≤ transitionYears ∧ transitionYears ≤ 20)
    (transitions : 1 ≤ maxTransitions ∧ maxTransitions ≤ 40)
    (ends : endEpoch now transitionYears < 2 ^ 32 - 1)
    (dumps : zone.Dumps (endEpoch now transitionYears) times)
    (enough : smlTzTransitionMax ≤ maxTransitions ∨
      (zone.ahead now times).length ≤ maxTransitions) :
    ∃ schedule current later,
      tzScheduleParseV1 asInt (some (buildResponse zoneName source now
          (snapshot zone.info (zone.records times) now maxTransitions))) = .ok schedule ∧
        schedule.entries = current :: later ∧ (current.time : Int) ≤ now ∧
        ∀ utcSeconds : BitVec 32, now ≤ utcSeconds.toNat → utcSeconds < schedule.horizonEndUtc →
          (utcSeconds.toNat : Int) < endEpoch now transitionYears →
          (schedule.entryAt utcSeconds).offset.toInt = zone.gmtoff utcSeconds.toNat := by
  have window : now + 31556952 ≤ endEpoch now transitionYears := by
    rw [endEpoch, secondsPerYear]
    omega
  have later : now ≤ endEpoch now transitionYears := by omega
  obtain ⟨⟨readableNow, inForce, offsetNow⟩, states⟩ :=
    snapshot_states sound standard dumps from_1970 later ends
  have sorted : (zone.ahead now times).Pairwise (· < ·) := (dumps.ascending.filter _).filter _
  have ascending := ascending_of_changes (fun time => (zone.stateOf times time).entry)
    (zone.ahead now times) (zone.stateNow times now).entry
    (fun time member => (states time member).2.2.2.1) sorted
    fun time member => Int.lt_of_le_of_lt inForce (states time member).1
  have sent : Reads ((((zone.ahead now times).take maxTransitions).map (zone.stateOf times)).map
      TimezoneState.asDict) (((zone.ahead now times).map fun time =>
        (zone.stateOf times time).entry).take maxTransitions) := by
    rw [← List.map_take, ← Function.comp_def TimezoneState.entry, ← List.map_map]
    refine reads_of_readable _ fun state member => ?_
    obtain ⟨time, held, rfl⟩ := List.mem_map.mp member
    exact (states time (List.mem_of_mem_take held)).2.2.1
  have offers := offers_buildResponse version zoneName known from_1970
    (by rw [defaultValiditySeconds]; omega)
    (zone.stateNow times now, ((zone.ahead now times).take maxTransitions).map (zone.stateOf times))
    (by rw [List.length_map, List.length_take, serverEntriesMax]; omega)
  rw [snapshot_eq sound dumps transitions.1]
  have parsed := (tzScheduleParseV1_ok_iff offers _).mpr ⟨_, _, readableNow.readEntry, sent,
    ascending.take maxTransitions, rfl⟩
  refine ⟨_, _, _, parsed, rfl, inForce, fun utcSeconds onward within before => ?_⟩
  have room : ∀ entry ∈ (zone.stateNow times now).entry ::
      (zone.ahead now times).map fun time => (zone.stateOf times time).entry,
      entry.time < 2 ^ 32 - 1 := by
    refine List.forall_mem_cons.mpr ⟨by omega, fun entry member => ?_⟩
    obtain ⟨time, held, rfl⟩ := List.mem_map.mp member
    obtain ⟨_, by_, _, at_, _⟩ := states time held
    omega
  have tracks := tracks_of_changes zone (fun time => (zone.stateOf times time).entry)
    (endEpoch now transitionYears).toNat (zone.ahead now times) now.toNat
    (zone.stateNow times now).entry (by rw [Int.toNat_of_nonneg from_1970]; exact offsetNow)
    (fun time member => (states time member).2.2.2) sorted
    (fun time member => by have := (states time member).1; omega) (by
      intro time after by_ changed
      have change : zone.Changes time := by
        by_contra steady
        exact changed (sound.steady time steady).1
      have listed := dumps.complete time change (by omega) (by omega)
      have shifts : zone.shifts time = true := by
        rw [Zone.shifts]
        simp [Ne.symm changed]
      exact List.mem_filter.mpr ⟨List.mem_filter.mpr ⟨listed, shifts⟩,
        decide_eq_true (by omega)⟩)
  have found := tracks.lookup utcSeconds.toNat (by omega) (by omega)
  rw [entryAt_of_entries rfl, lookup_within_horizon ascending (by rwa [List.length_map]) room
    utcSeconds within]
  exact found.symm

/-! ## The runs -/

/-- An hour further east at 2000 and again at 3000. -/
def stepZone : Zone where
  gmtoff time := if time < 2000 then 0 else if time < 3000 then 3600 else 7200
  isdst _ := false
  dst _ := some 0
  Changes time := time = 2000 ∨ time = 3000

/-- Two hours of DST on an offset more than a day west. -/
def farZone : Zone where
  gmtoff _ := -82800
  isdst _ := true
  dst _ := some 7200
  Changes _ := False

theorem stepZone_sound : stepZone.Sound where
  steady time unchanged := by
    simp only [stepZone, not_or] at unchanged ⊢
    refine ⟨?_, trivial⟩
    split <;> split <;> omega
  apart first second one other later := by
    simp only [stepZone] at one other
    omega
  offset time := by
    simp only [stepZone]
    split <;> [skip; split] <;> decide
  dst_isdst time amount given differs := absurd (Option.some.inj given).symm differs
  dst_small time amount given := by
    rw [← Option.some.inj given]
    exact ⟨by decide, by decide⟩
  adjustment_small _ _ differs := absurd rfl differs

theorem stepZone_standard :
    ∀ time, ∀ amount ∈ stepZone.dst time, |stepZone.gmtoff time - amount| < 86400 := by
  intro time amount given
  rw [← Option.some.inj given, Int.sub_zero]
  exact stepZone_sound.offset time

theorem stepZone_dumps : stepZone.Dumps (endEpoch 1000 1) [2000, 3000] where
  ascending := by decide
  changes time member := by
    obtain rfl | rfl : time = 2000 ∨ time = 3000 := by simpa using member
    · exact ⟨.inl rfl, by decide, by decide⟩
    · exact ⟨.inr rfl, by decide, by decide⟩
  complete time change _ _ := by simpa [stepZone] using change

theorem farZone_sound : farZone.Sound where
  steady _ _ := ⟨rfl, rfl⟩
  apart _ _ one := one.elim
  offset _ := by
    change |(-82800 : Int)| < 86400
    decide
  dst_isdst _ _ _ _ := rfl
  dst_small time amount given := by
    rw [← Option.some.inj given]
    exact ⟨by decide, by decide⟩
  adjustment_small _ change := change.elim

theorem farZone_dumps : farZone.Dumps (endEpoch 1000 1) [] where
  ascending := .nil
  changes _ member := nomatch member
  complete _ change := change.elim

theorem service_answer_is_zone_steps :
    ∃ schedule current later,
      tzScheduleParseV1 plainInt (some (buildResponse "Etc/Steps" "geoip" 1000
          (snapshot stepZone.info (stepZone.records [2000, 3000]) 1000 8))) = .ok schedule ∧
        schedule.entries = current :: later ∧ (current.time : Int) ≤ 1000 ∧
        ∀ utcSeconds : BitVec 32, (1000 : Int) ≤ utcSeconds.toNat →
          utcSeconds < schedule.horizonEndUtc →
          (utcSeconds.toNat : Int) < endEpoch 1000 1 →
          (schedule.entryAt utcSeconds).offset.toInt = stepZone.gmtoff utcSeconds.toNat :=
  service_answer_is_zone stepZone_sound stepZone_standard rfl "Etc/Steps" (.inr rfl) (by decide)
    (by decide) (by decide) (by decide) stepZone_dumps (.inl (Nat.le_refl 8))

/-- **Not every zone comes through.** A zone whose standard offset is more than a day is not
accepted; and a service that sends one transition leaves the ESP with the offset of
that one, its horizon open-ended, after the next. -/
theorem service_answer_not_zone :
    (farZone.Sound ∧ farZone.Dumps (endEpoch 1000 1) [] ∧
      tzScheduleParseV1 plainInt (some (buildResponse "Etc/Far" "geoip" 1000
        (snapshot farZone.info (farZone.records []) 1000 8))) = .error .range) ∧
    stepZone.Sound ∧ stepZone.Dumps (endEpoch 1000 1) [2000, 3000] ∧
      ∃ schedule,
        tzScheduleParseV1 plainInt (some (buildResponse "Etc/Steps" "geoip" 1000
          (snapshot stepZone.info (stepZone.records [2000, 3000]) 1000 1))) = .ok schedule ∧
        3000 < schedule.horizonEndUtc ∧ 3000 < endEpoch 1000 1 ∧
        (schedule.entryAt 3000).offset.toInt ≠ stepZone.gmtoff 3000 := by
  refine ⟨⟨farZone_sound, farZone_dumps, by decide⟩, stepZone_sound, stepZone_dumps,
    parsedSchedule "Etc/Steps" "geoip" 1000 605800 {}
      [{ utcSeconds := 2000, baseOffsetS := 3600 }], by decide, by decide, by decide, by decide⟩

end GpsClock.TimeZone
