import GpsClock.TimeZone.Schedule

/-! # The tzinfo service

`tzinfo_service.py`: a zone's changes from `zdump`, those of offset or DST picked
out, and the states at a moment and at each change after it, as the protocol has
them, an offset and a DST amount beside it. While DST is not in force its amount is
that of the nearest change that turns it on or off.
-/

namespace GpsClock.TimeZone

/-- A record of `_parse_zdump`. -/
structure ZdumpRecord where
  transitionUtc : Int
  isdst : Bool
  gmtoff : Int
  deriving DecidableEq, Repr

/-- What `zoneinfo` gives of a zone at a UTC second. -/
structure ZoneInfo where
  utcoffset : Int → Int
  dst : Int → Option Int

/-- A change: the record before it and the one after. -/
abbrev Boundary := ZdumpRecord × ZdumpRecord

/-- `TimezoneState`, and `Transition`. -/
structure TimezoneState where
  transitionUtc : Int
  offset : Int
  dstOffset : Int
  dst : Bool
  deriving DecidableEq, Repr

def protocolVersion : Int := 1

def defaultValiditySeconds : Int := 7 * 24 * 60 * 60

/-- A year of 365.2425 days, in seconds: `int(transition_years * 365.2425 * 86400)` is as
many of these, for every number of years the service takes. -/
def secondsPerYear : Int := 31556952

/-- `_zoneinfo_state`: the offset, the DST amount and whether it is in force. -/
def zoneinfoState (zone : ZoneInfo) (epoch : Int) : Int × Int × Bool :=
  let activeDstDelta := (zone.dst epoch).getD 0
  (zone.utcoffset epoch, activeDstDelta, activeDstDelta != 0)

/-- Whether two records next to each other are a change: `_boundary_pairs`. -/
def isBoundary (pair : Boundary) : Bool :=
  pair.2.transitionUtc = pair.1.transitionUtc + 1 &&
    !(pair.1.gmtoff = pair.2.gmtoff && pair.1.isdst = pair.2.isdst)

/-- `_boundary_pairs`. -/
def boundaryPairs (records : List ZdumpRecord) : List Boundary :=
  (records.zip records.tail).filter isBoundary

/-- `_dst_adjustment_from_pair`. -/
def dstAdjustmentFromPair (pair : Boundary) : Option Int :=
  if pair.1.isdst = pair.2.isdst then none
  else if pair.2.isdst then some (pair.2.gmtoff - pair.1.gmtoff)
  else some (pair.1.gmtoff - pair.2.gmtoff)

/-- The DST amounts of the changes, each with how far it is from a moment. -/
def candidates (epoch : Int) (boundaries : List Boundary) : List (Int × Int) :=
  boundaries.filterMap fun pair =>
    (dstAdjustmentFromPair pair).map fun adjustment =>
      (|pair.2.transitionUtc - epoch|, adjustment)

/-- `min` by the first of each pair, the earliest if equal. -/
def nearest : List (Int × Int) → Int × Int
  | [] => (0, 0)
  | first :: rest => rest.foldl (fun best next => if next.1 < best.1 then next else best) first

/-- `_state_components`. -/
def stateComponents (zone : ZoneInfo) (epoch : Int) (boundaries : List Boundary) :
    Int × Int × Bool :=
  let state := zoneinfoState zone epoch
  if state.2.2 then (state.1 - state.2.1, state.2.1, true)
  else (state.1, (nearest (candidates epoch boundaries)).2, false)

/-- The state at a moment, in force since another. -/
def stateAt (zone : ZoneInfo) (boundaries : List Boundary) (transitionUtc epoch : Int) :
    TimezoneState :=
  let components := stateComponents zone epoch boundaries
  { transitionUtc, offset := components.1, dstOffset := components.2.1, dst := components.2.2 }

/-- `snapshot`'s walk to the last change made by now. -/
def currentTransition (nowEpoch : Int) : Int → List Boundary → Int
  | current, [] => current
  | current, pair :: later =>
      if pair.2.transitionUtc ≤ nowEpoch then
        currentTransition nowEpoch pair.2.transitionUtc later
      else current

/-- `snapshot`'s loop over the changes to come, up to so many. -/
def futureTransitions (zone : ZoneInfo) (boundaries : List Boundary) (nowEpoch : Int)
    (maxTransitions : Nat) : List TimezoneState → List Boundary → List TimezoneState
  | future, [] => future
  | future, pair :: later =>
      if pair.2.transitionUtc ≤ nowEpoch then
        futureTransitions zone boundaries nowEpoch maxTransitions future later
      else
        let longer := future ++
          [stateAt zone boundaries pair.2.transitionUtc pair.2.transitionUtc]
        if maxTransitions ≤ longer.length then longer
        else futureTransitions zone boundaries nowEpoch maxTransitions longer later

/-- `snapshot`, of the records `zdump` gives. -/
def snapshot (zone : ZoneInfo) (records : List ZdumpRecord) (nowEpoch : Int)
    (maxTransitions : Nat) : TimezoneState × List TimezoneState :=
  let boundaries := boundaryPairs records
  (stateAt zone boundaries (currentTransition nowEpoch 0 boundaries) nowEpoch,
    futureTransitions zone boundaries nowEpoch maxTransitions [] boundaries)

/-- `snapshot`'s end of the range asked of `zdump`. -/
def endEpoch (nowEpoch : Int) (transitionYears : Nat) : Int :=
  nowEpoch + transitionYears * secondsPerYear

/-- `as_dict`. -/
def TimezoneState.asDict (state : TimezoneState) : Json :=
  .object [("dst", .boolean state.dst), ("dst_offset", .integer state.dstOffset),
    ("transition_utc", .integer state.transitionUtc), ("offset", .integer state.offset)]

/-- `build_response`. -/
def buildResponse (zoneName source : String) (nowEpoch : Int)
    (states : TimezoneState × List TimezoneState) : Json :=
  .object [("generated", .integer nowEpoch), ("current", .array [states.1.asDict]),
    ("next", .array (states.2.map TimezoneState.asDict)), ("source", .string source),
    ("valid_until", .integer (nowEpoch + defaultValiditySeconds)),
    ("version", .integer protocolVersion), ("zone", .string zoneName)]

/-! ## What the loops do -/

/-- The states to come are those of the changes after now, as many as asked for. -/
theorem futureTransitions_eq (zone : ZoneInfo) (all : List Boundary) (nowEpoch : Int)
    (maxTransitions : Nat) (future : List TimezoneState) (boundaries : List Boundary)
    (room : future.length < maxTransitions) :
    futureTransitions zone all nowEpoch maxTransitions future boundaries =
      future ++ ((boundaries.filter fun pair => nowEpoch < pair.2.transitionUtc).take
        (maxTransitions - future.length)).map fun pair =>
          stateAt zone all pair.2.transitionUtc pair.2.transitionUtc := by
  induction boundaries generalizing future with
  | nil => simp [futureTransitions]
  | cons pair later ih =>
      rw [futureTransitions]
      by_cases come : pair.2.transitionUtc ≤ nowEpoch
      · rw [if_pos come, ih future room, List.filter_cons_of_neg (by simpa using come)]
      · rw [if_neg come, List.filter_cons_of_pos (by simpa using come)]
        obtain ⟨spare, more⟩ : ∃ spare, maxTransitions - future.length = spare + 1 :=
          ⟨maxTransitions - future.length - 1, by omega⟩
        rw [more, List.take_succ_cons, List.map_cons]
        simp only [List.length_append, List.length_singleton]
        split
        · have none_left : spare = 0 := by omega
          rw [none_left, List.take_zero]
          rfl
        · rw [ih _ (by rw [List.length_append, List.length_singleton]; omega), List.append_assoc]
          have less : maxTransitions - (future ++ [stateAt zone all pair.2.transitionUtc
              pair.2.transitionUtc]).length = spare := by
            rw [List.length_append, List.length_singleton]
            omega
          rw [less]
          rfl

/-- The last change made by now is at a change or the start, and not after now. -/
theorem currentTransition_spec (nowEpoch current : Int) (boundaries : List Boundary)
    (low : 0 ≤ current) (high : current ≤ nowEpoch)
    (positive : ∀ pair ∈ boundaries, 0 ≤ pair.2.transitionUtc) :
    0 ≤ currentTransition nowEpoch current boundaries ∧
      currentTransition nowEpoch current boundaries ≤ nowEpoch := by
  induction boundaries generalizing current with
  | nil => exact ⟨low, high⟩
  | cons pair later ih =>
      obtain ⟨here, onward⟩ := List.forall_mem_cons.mp positive
      rw [currentTransition]
      split
      · next come => exact ih _ here come onward
      · exact ⟨low, high⟩

/-- The nearest DST amount is one of the candidates', or none. -/
theorem nearest_mem (pairs : List (Int × Int)) : nearest pairs = (0, 0) ∨ nearest pairs ∈ pairs := by
  cases pairs with
  | nil => exact .inl rfl
  | cons first rest =>
      refine .inr ?_
      have walk : ∀ (rest : List (Int × Int)) (best : Int × Int),
          rest.foldl (fun best next => if next.1 < best.1 then next else best) best ∈
            best :: rest := by
        intro rest
        induction rest with
        | nil => exact fun best => List.mem_singleton_self best
        | cons next rest ih =>
            intro best
            rw [List.foldl_cons]
            split
            · exact List.mem_cons_of_mem _ (ih next)
            · obtain same | member := List.mem_cons.mp (ih best)
              · rw [same]
                exact List.mem_cons_self
              · exact List.mem_cons_of_mem _ (List.mem_cons_of_mem _ member)
      exact walk rest first

end GpsClock.TimeZone
