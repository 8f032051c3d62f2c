import GpsClock.Lib.BitSet
import GpsClock.Lib.Overlap

/-! # Choosing the server to follow

`ntp_select.cpp`: each usable server says that the clock is off by its offset, give or
take its distance, and the largest set of them that can all be right is the one to choose
from. Sets of servers are kept as bits, and only the ends of the intervals are tried. The
set found is a largest there is, with the server in use if any largest has it, and the
server to follow is one of it (`GpsClock.Ntp.select_largest_agreement`).
-/

namespace GpsClock.Ntp

/-- `NTP_SELECT_MAX`. -/
abbrev ntpSelectMax : Nat := 4

/-- `NTP_VERDICT_*`. -/
inductive NtpVerdict
  | none
  | unusable
  | falseticker
  | candidate
  | selected
  deriving DecidableEq, Repr

structure NtpCandidate where
  configured : Bool
  usable : Bool
  offsetUs : Int
  distanceUs : Int
  deriving DecidableEq, Repr

/-- `selected` is `none` for -1, and a verdict past the list's end is as it was cleared. -/
structure NtpSelection where
  selected : Option Nat
  majority : Bool
  usable : Nat
  agreeing : Nat
  verdict : Nat → NtpVerdict

namespace NtpCandidate

/-- Where a candidate's interval begins. -/
def lower (candidate : NtpCandidate) : Int := candidate.offsetUs - candidate.distanceUs

/-- Where a candidate's interval ends. -/
def upper (candidate : NtpCandidate) : Int := candidate.offsetUs + candidate.distanceUs

end NtpCandidate

/-- The loop of `members`, with passes to spare. -/
def membersFrom : Nat → Nat → Nat
  | 0, _ => 0
  | passes + 1, set => if set = 0 then 0 else membersFrom passes (set &&& (set - 1)) + 1

/-- `members`. -/
def members (set : Nat) : Nat := membersFrom set set

/-- The loop of `lowest`, with passes to spare. -/
def lowestFrom : Nat → Nat → Nat
  | 0, _ => 0
  | passes + 1, set =>
      if set ≠ 0 ∧ set &&& 1 = 0 then lowestFrom passes (set >>> 1) + 1 else 0

/-- `lowest`. -/
def lowest (set : Nat) : Nat := lowestFrom set set

/-- `holding`. -/
def holding (candidates : List NtpCandidate) (point : Int) : Nat :=
  candidates.zipIdx.foldl
    (fun set entry =>
      if entry.1.usable && decide (entry.1.lower ≤ point) && decide (point ≤ entry.1.upper) then
        set ||| 1 <<< entry.2
      else set)
    0

/-- The server in use as a set, empty for -1. -/
def inUse : Option Nat → Nat
  | some current => 1 <<< current
  | none => 0

/-- `better`. -/
def better (current : Option Nat) (set best : Nat) : Bool :=
  if members set ≠ members best then decide (members best < members set)
  else if set &&& inUse current ≠ best &&& inUse current then decide (set &&& inUse current ≠ 0)
  else decide (lowest set < lowest best)

/-- A set tried, against the best so far. -/
def keepBetter (current : Option Nat) (best set : Nat) : Nat :=
  if better current set best then set else best

/-- `ntp_select`, the loop that tries both ends of every usable interval. -/
def bestSet (candidates : List NtpCandidate) (current : Option Nat) : Nat :=
  candidates.foldl
    (fun best candidate =>
      if !candidate.usable then best
      else
        keepBetter current (keepBetter current best (holding candidates candidate.lower))
          (holding candidates candidate.upper))
    0

/-- `ntp_select`, the verdict on one candidate before any is selected. -/
def judge (best : Nat) (index : Nat) (candidate : NtpCandidate) : NtpVerdict :=
  if !candidate.configured then .none
  else if !candidate.usable then .unusable
  else if best &&& 1 <<< index = 0 then .falseticker
  else .candidate

/-- `candidates[index].distance_us`. -/
def distanceAt (candidates : List NtpCandidate) (index : Nat) : Int :=
  (candidates[index]?.map NtpCandidate.distanceUs).getD 0

/-- `ntp_select`, the first of the nearest among those that agree. -/
def nearest (candidates : List NtpCandidate) (best : Nat) : Option Nat :=
  candidates.zipIdx.foldl
    (fun selected entry =>
      if judge best entry.2 entry.1 = .candidate ∧
          ∀ chosen ∈ selected, entry.1.distanceUs < distanceAt candidates chosen then
        some entry.2
      else selected)
    none

/-- `ntp_select`, keeping the server in use unless another is twice as close. Where nothing
is selected no server in use is in the set, of configured candidates. -/
def keepCurrent (candidates : List NtpCandidate) (best : Nat) (current selected : Option Nat) :
    Option Nat :=
  match current, selected with
  | some current, some chosen =>
      if current < candidates.length ∧ best &&& 1 <<< current ≠ 0 ∧
          distanceAt candidates current ≤ distanceAt candidates chosen * 2 then
        some current
      else some chosen
  | _, selected => selected

/-- `ntp_select`. -/
def ntpSelect (candidates : List NtpCandidate) (current : Option Nat) : NtpSelection :=
  let candidates := candidates.take ntpSelectMax
  let best := bestSet candidates current
  let usable := candidates.countP (·.usable)
  let selected := keepCurrent candidates best current (nearest candidates best)
  { selected := selected
    majority := decide (usable < members best * 2)
    usable := usable
    agreeing := members best
    verdict := fun index =>
      if selected = some index then .selected
      else (candidates[index]?.map (judge best index)).getD .none }

/-! ## Sets of servers -/

variable {candidates : List NtpCandidate} {current : Option Nat} {set best index : Nat}
  {point : Int}

/-- A candidate of the list, or one that is not configured past its end. -/
def candidateAt (candidates : List NtpCandidate) (index : Nat) : NtpCandidate :=
  candidates.getD index ⟨false, false, 0, 0⟩

/-- The usable servers. -/
def usableSet (candidates : List NtpCandidate) : Finset Nat :=
  (Finset.range candidates.length).filter fun index => (candidateAt candidates index).usable = true

/-- Where the intervals begin and end, by the servers' numbers. -/
def lowerAt (candidates : List NtpCandidate) (index : Nat) : Int := (candidateAt candidates index).lower

def upperAt (candidates : List NtpCandidate) (index : Nat) : Int := (candidateAt candidates index).upper

/-- The usable servers whose intervals hold a point. -/
def agreeing (candidates : List NtpCandidate) (point : Int) : Finset Nat :=
  Overlap.holding (lowerAt candidates) (upperAt candidates) (usableSet candidates) point

theorem candidateAt_eq {candidate : NtpCandidate} (entry : candidates[index]? = some candidate) :
    candidateAt candidates index = candidate := by
  rw [candidateAt, List.getD_eq_getElem?_getD, entry, Option.getD_some]

theorem exists_entry (inside : index < candidates.length) :
    candidates[index]? = some (candidateAt candidates index) := by
  rw [candidateAt, List.getD_eq_getElem _ _ inside, List.getElem?_eq_getElem inside]

theorem mem_usableSet :
    index ∈ usableSet candidates ↔
      ∃ candidate, candidates[index]? = some candidate ∧ candidate.usable = true := by
  rw [usableSet, Finset.mem_filter, Finset.mem_range]
  constructor
  · rintro ⟨inside, usable⟩
    exact ⟨_, exists_entry inside, usable⟩
  · rintro ⟨candidate, entry, usable⟩
    refine ⟨(List.getElem?_eq_some_iff.mp entry).1, ?_⟩
    rw [candidateAt_eq entry, usable]

theorem membersFrom_eq {passes : Nat} (enough : set ≤ passes) :
    membersFrom passes set = set.bitIndices.length := by
  induction passes generalizing set with
  | zero =>
      rw [Nat.le_zero.mp enough]
      rfl
  | succ passes ih =>
      rw [membersFrom]
      by_cases none : set = 0
      · rw [if_pos none, none, Nat.bitIndices_zero, List.length_nil]
      · have fewer : set &&& (set - 1) ≤ set - 1 := Nat.and_le_right
        have listed := List.length_pos_iff.mpr (BitSet.bitIndices_ne_nil none)
        rw [if_neg none, ih (by omega), BitSet.bitIndices_and_pred, List.length_tail]
        omega

/-- `members` counts. -/
theorem members_eq (set : Nat) : members set = (BitSet.elements set).card := by
  rw [members, membersFrom_eq (le_refl set), BitSet.card_elements]

theorem mem_inUse : set &&& inUse current ≠ 0 ↔ ∃ server ∈ current, server ∈ BitSet.elements set := by
  cases current with
  | none => simp [inUse]
  | some server => simp [inUse, BitSet.and_shift_ne_zero]

/-- What `better` goes by: the most members, then the server in use, then the lowest. -/
def rank (current : Option Nat) (set : Nat) : Nat ×ₗ Bool ×ₗ Natᵒᵈ :=
  toLex (members set, toLex (decide (set &&& inUse current ≠ 0), OrderDual.toDual (lowest set)))

theorem better_iff (current : Option Nat) (set best : Nat) :
    better current set best = true ↔ rank current best < rank current set := by
  rw [rank, rank, Prod.Lex.toLex_lt_toLex, Prod.Lex.toLex_lt_toLex, better]
  by_cases same : members set = members best
  · have use : set &&& inUse current = best &&& inUse current ↔
        (set &&& inUse current ≠ 0 ↔ best &&& inUse current ≠ 0) := by
      cases current with
      | none => simp [inUse]
      | some server =>
          rw [inUse, BitSet.and_shift_congr, BitSet.and_shift_ne_zero, BitSet.and_shift_ne_zero]
    rw [if_neg (not_not.mpr same)]
    by_cases alike : set &&& inUse current = best &&& inUse current
    · rw [if_neg (not_not.mpr alike), alike, same]
      simp
    · rw [if_pos alike, same]
      have differ := (not_congr use).mp alike
      by_cases has : set &&& inUse current = 0
      · have other : best &&& inUse current ≠ 0 := by
          intro none
          exact differ (by rw [has, none])
        simp [has, other]
      · have other : best &&& inUse current = 0 := by
          by_contra some
          exact differ ⟨fun _ => some, fun _ => has⟩
        simp [has, other]
  · rw [if_pos same]
    simp [Ne.symm same]

/-- `holding` is the usable servers whose intervals hold a point. -/
theorem elements_holding (candidates : List NtpCandidate) (point : Int) :
    BitSet.elements (holding candidates point) = agreeing candidates point := by
  have collected (entries : List (NtpCandidate × Nat)) (set index : Nat) :
      index ∈ BitSet.elements (entries.foldl (fun set entry =>
          if entry.1.usable && decide (entry.1.lower ≤ point) && decide (point ≤ entry.1.upper) then
            set ||| 1 <<< entry.2
          else set) set) ↔
        index ∈ BitSet.elements set ∨ ∃ candidate, (candidate, index) ∈ entries ∧
          candidate.usable = true ∧ candidate.lower ≤ point ∧ point ≤ candidate.upper := by
    induction entries generalizing set with
    | nil => simp
    | cons entry entries ih =>
        rw [List.foldl_cons, ih]
        simp only [Bool.and_eq_true, decide_eq_true_eq, List.mem_cons]
        split
        · next holds =>
            rw [BitSet.elements_or, Finset.mem_union, BitSet.elements_shift, Finset.mem_singleton]
            constructor
            · rintro ((member | rfl) | ⟨candidate, member, agrees⟩)
              · exact .inl member
              · exact .inr ⟨entry.1, .inl rfl, holds.1.1, holds.1.2, holds.2⟩
              · exact .inr ⟨candidate, .inr member, agrees⟩
            · rintro (member | ⟨candidate, rfl | member, agrees⟩)
              · exact .inl (.inl member)
              · exact .inl (.inr rfl)
              · exact .inr ⟨candidate, member, agrees⟩
        · next out =>
            constructor
            · rintro (member | ⟨candidate, member, agrees⟩)
              · exact .inl member
              · exact .inr ⟨candidate, .inr member, agrees⟩
            · rintro (member | ⟨candidate, rfl | member, agrees⟩)
              · exact .inl member
              · exact absurd ⟨⟨agrees.1, agrees.2.1⟩, agrees.2.2⟩ out
              · exact .inr ⟨candidate, member, agrees⟩
  ext index
  rw [holding, collected, BitSet.elements_zero, agreeing, Overlap.mem_holding, mem_usableSet]
  simp only [Finset.notMem_empty, false_or, List.mem_zipIdx_iff_getElem?]
  constructor
  · rintro ⟨candidate, entry, usable, below, above⟩
    refine ⟨⟨candidate, entry, usable⟩, ?_⟩
    rw [Overlap.Holds, lowerAt, upperAt, candidateAt_eq entry]
    exact ⟨below, above⟩
  · rintro ⟨⟨candidate, entry, usable⟩, holds⟩
    rw [Overlap.Holds, lowerAt, upperAt, candidateAt_eq entry] at holds
    exact ⟨candidate, entry, usable, holds⟩

/-- The sets that are tried, in order. -/
def tried (candidates all : List NtpCandidate) : List Nat :=
  candidates.flatMap fun candidate =>
    if candidate.usable then [holding all candidate.lower, holding all candidate.upper] else []

theorem bestSet_eq (candidates : List NtpCandidate) (current : Option Nat) :
    bestSet candidates current = (tried candidates candidates).foldl (keepBetter current) 0 := by
  have folded (some : List NtpCandidate) (best : Nat) :
      some.foldl (fun best candidate =>
        if !candidate.usable then best
        else keepBetter current (keepBetter current best (holding candidates candidate.lower))
          (holding candidates candidate.upper)) best =
        (tried some candidates).foldl (keepBetter current) best := by
    induction some generalizing best with
    | nil => rfl
    | cons candidate some ih =>
        rw [List.foldl_cons, ih, tried, tried, List.flatMap_cons, List.foldl_append]
        cases candidate.usable <;> rfl
  exact folded candidates 0

/-- The best set is empty or one that was tried, and ranks no lower than any tried. -/
theorem bestSet_best (candidates : List NtpCandidate) (current : Option Nat) :
    (bestSet candidates current = 0 ∨ bestSet candidates current ∈ tried candidates candidates) ∧
      ∀ set ∈ tried candidates candidates,
        rank current set ≤ rank current (bestSet candidates current) := by
  have best := Overlap.foldl_best (better current) (rank current) (better_iff current)
    (tried candidates candidates) 0
  rw [bestSet_eq]
  exact ⟨best.1, best.2.2⟩

/-- Every set tried is all that hold some point. -/
theorem tried_agreeing (member : set ∈ tried candidates candidates) :
    ∃ point, BitSet.elements set = agreeing candidates point := by
  obtain ⟨candidate, _, inside⟩ := List.mem_flatMap.mp member
  split at inside
  · rcases List.mem_pair.mp inside with rfl | rfl
    · exact ⟨_, elements_holding ..⟩
    · exact ⟨_, elements_holding ..⟩
  · cases inside

/-- All that hold the lower end of a usable server's interval are tried. -/
theorem lower_tried (usable : index ∈ usableSet candidates) :
    holding candidates (lowerAt candidates index) ∈ tried candidates candidates := by
  obtain ⟨candidate, entry, fit⟩ := mem_usableSet.mp usable
  refine List.mem_flatMap.mpr ⟨candidate, List.mem_of_getElem? entry, ?_⟩
  rw [if_pos fit, lowerAt, candidateAt_eq entry]
  exact List.mem_cons_self

/-- A set of usable servers that can all be right is within one that was tried. -/
theorem exists_tried {servers : Finset Nat} (within : servers ⊆ usableSet candidates)
    (shares : Overlap.Shares (lowerAt candidates) (upperAt candidates) servers)
    (some : servers.Nonempty) :
    ∃ set ∈ tried candidates candidates, servers ⊆ BitSet.elements set := by
  obtain ⟨last, member, inside⟩ := Overlap.exists_lower_end within shares some
  refine ⟨_, lower_tried (within member), ?_⟩
  rw [elements_holding]
  exact inside

/-- No more usable servers can all be right than the best set has. -/
theorem card_le_best {servers : Finset Nat} (within : servers ⊆ usableSet candidates)
    (shares : Overlap.Shares (lowerAt candidates) (upperAt candidates) servers) :
    servers.card ≤ members (bestSet candidates current) := by
  rcases servers.eq_empty_or_nonempty with rfl | some
  · exact Nat.zero_le _
  · obtain ⟨set, member, inside⟩ := exists_tried within shares some
    have ranked := (Prod.Lex.toLex_le_toLex.mp ((bestSet_best candidates current).2 set member))
    have fewer : members set ≤ members (bestSet candidates current) := by
      rcases ranked with fewer | ⟨same, _⟩
      · exact fewer.le
      · exact same.le
    exact (Finset.card_le_card inside).trans (members_eq set ▸ fewer)

/-- Of the largest sets the best one has the server in use, if any has. -/
theorem current_mem_best {servers : Finset Nat} {server : Nat}
    (within : servers ⊆ usableSet candidates)
    (shares : Overlap.Shares (lowerAt candidates) (upperAt candidates) servers)
    (largest : servers.card = members (bestSet candidates (some server)))
    (member : server ∈ servers) : server ∈ BitSet.elements (bestSet candidates (some server)) := by
  obtain ⟨set, was_tried, inside⟩ := exists_tried within shares ⟨server, member⟩
  have size := Finset.card_le_card inside
  rw [← members_eq, largest] at size
  rcases Prod.Lex.toLex_le_toLex.mp ((bestSet_best candidates (some server)).2 set was_tried) with
    more | ⟨_, ranked⟩
  · exact absurd more (Nat.not_lt.mpr size)
  · have kept : decide (set &&& inUse (some server) ≠ 0) ≤
        decide (bestSet candidates (some server) &&& inUse (some server) ≠ 0) := by
      rcases Prod.Lex.toLex_le_toLex.mp ranked with fewer | ⟨same, _⟩
      · exact fewer.le
      · exact same.le
    have has : set &&& inUse (some server) ≠ 0 := BitSet.and_shift_ne_zero.mpr (inside member)
    rw [decide_eq_true has] at kept
    exact BitSet.and_shift_ne_zero.mp (of_decide_eq_true (top_le_iff.mp kept))

/-- The best set is all the usable servers that hold some point. -/
theorem best_agreeing (candidates : List NtpCandidate) (current : Option Nat) :
    ∃ point, BitSet.elements (bestSet candidates current) = agreeing candidates point := by
  rcases (bestSet_best candidates current).1 with none | member
  · refine ⟨0, ?_⟩
    have empty : (agreeing candidates 0).card ≤ members (bestSet candidates current) :=
      card_le_best (Finset.filter_subset _ _) Overlap.holding_shares
    rw [none, members_eq, BitSet.elements_zero, Finset.card_empty] at empty
    rw [none, BitSet.elements_zero, Finset.card_eq_zero.mp (Nat.le_zero.mp empty)]
  · exact tried_agreeing member

theorem best_subset (candidates : List NtpCandidate) (current : Option Nat) :
    BitSet.elements (bestSet candidates current) ⊆ usableSet candidates := by
  obtain ⟨point, same⟩ := best_agreeing candidates current
  rw [same]
  exact Finset.filter_subset _ _

/-- A usable server by itself can be right. -/
theorem shares_single (distances : ∀ candidate ∈ candidates, 0 ≤ candidate.distanceUs)
    (usable : index ∈ usableSet candidates) :
    Overlap.Shares (lowerAt candidates) (upperAt candidates) {index} := by
  obtain ⟨candidate, entry, _⟩ := mem_usableSet.mp usable
  have far := distances candidate (List.mem_of_getElem? entry)
  refine ⟨candidate.offsetUs, fun other member => ?_⟩
  rw [Finset.mem_singleton.mp member, Overlap.Holds, lowerAt, upperAt, candidateAt_eq entry,
    NtpCandidate.lower, NtpCandidate.upper]
  exact ⟨by omega, by omega⟩

/-- The servers counted usable. -/
theorem card_usableSet (candidates : List NtpCandidate) :
    (usableSet candidates).card = candidates.countP (·.usable) := by
  induction candidates using List.reverseRecOn with
  | nil => rfl
  | append_singleton candidates last ih =>
      have earlier : (Finset.range candidates.length).filter
          (fun index => (candidateAt (candidates ++ [last]) index).usable = true) =
            usableSet candidates := by
        refine Finset.filter_congr fun index inside => ?_
        rw [candidateAt, candidateAt, List.getD_append _ _ _ _ (Finset.mem_range.mp inside)]
      have newest : candidateAt (candidates ++ [last]) candidates.length = last := by
        rw [candidateAt, List.getD_append_right _ _ _ _ (le_refl _), Nat.sub_self]
        rfl
      rw [usableSet, List.length_append, List.length_singleton, Finset.range_add_one,
        Finset.filter_insert, earlier, newest, List.countP_append, ← ih, List.countP_singleton]
      split
      · refine Finset.card_insert_of_notMem fun member => ?_
        exact absurd (Finset.mem_filter.mp member).1 Finset.notMem_range_self
      · rfl

/-! ## The server to follow -/

theorem judge_eq_candidate {candidate : NtpCandidate} :
    judge best index candidate = .candidate ↔
      candidate.configured = true ∧ candidate.usable = true ∧ index ∈ BitSet.elements best := by
  rw [judge, ← BitSet.and_shift_ne_zero]
  cases candidate.configured <;> cases candidate.usable <;> simp

/-- The nearest is one of those that agree. -/
theorem nearest_candidate (candidates : List NtpCandidate) (best : Nat) :
    ∀ chosen ∈ nearest candidates best, ∃ candidate, candidates[chosen]? = some candidate ∧
      judge best chosen candidate = .candidate := by
  have kept : ∀ (selected : Option Nat), (∀ chosen ∈ selected, ∃ candidate,
      candidates[chosen]? = some candidate ∧ judge best chosen candidate = .candidate) →
      ∀ entry ∈ candidates.zipIdx, ∀ chosen ∈ (if judge best entry.2 entry.1 = .candidate ∧
          ∀ chosen ∈ selected, entry.1.distanceUs < distanceAt candidates chosen then
        some entry.2 else selected), ∃ candidate,
      candidates[chosen]? = some candidate ∧ judge best chosen candidate = .candidate := by
    intro selected kept entry member chosen found
    split at found
    · next agrees =>
        cases found
        exact ⟨entry.1, List.mem_zipIdx_iff_getElem?.mp member, agrees.1⟩
    · exact kept chosen found
  exact List.foldlRecOn candidates.zipIdx _ (fun _ none => by cases none) kept

/-- There is a nearest unless none agrees. -/
theorem nearest_isSome {candidate : NtpCandidate} (entry : candidates[index]? = some candidate)
    (agrees : judge best index candidate = .candidate) : (nearest candidates best).isSome = true := by
  have folded (entries : List (NtpCandidate × Nat)) (selected : Option Nat)
      (found : selected.isSome = true ∨ (candidate, index) ∈ entries) :
      (entries.foldl (fun selected entry =>
        if judge best entry.2 entry.1 = .candidate ∧
            ∀ chosen ∈ selected, entry.1.distanceUs < distanceAt candidates chosen then
          some entry.2
        else selected) selected).isSome = true := by
    induction entries generalizing selected with
    | nil =>
        rcases found with some | none
        · exact some
        · cases none
    | cons entry entries ih =>
        rw [List.foldl_cons]
        refine ih _ ?_
        split
        · exact .inl rfl
        · next passed =>
            rcases found with some | member
            · exact .inl some
            · obtain rfl | later := List.mem_cons.mp member
              · refine .inl ?_
                by_contra none
                rw [Bool.not_eq_true, Option.isSome_eq_false_iff, Option.isNone_iff_eq_none] at none
                exact passed ⟨agrees, by simp [none]⟩
              · exact .inr later
  exact folded candidates.zipIdx none (.inr (List.mem_zipIdx_iff_getElem?.mpr entry))

/-- The server selected is the nearest, or the one in use where it agrees and the nearest
is not twice as near. -/
theorem keepCurrent_cases (candidates : List NtpCandidate) (best : Nat)
    (current selected : Option Nat) :
    keepCurrent candidates best current selected = selected ∨
      ∃ server ∈ current, keepCurrent candidates best current selected = some server ∧
        selected.isSome = true ∧ server ∈ BitSet.elements best := by
  cases current with
  | none => exact .inl rfl
  | some server =>
      cases selected with
      | none => exact .inl rfl
      | some chosen =>
          rw [keepCurrent]
          split
          · next kept => exact .inr ⟨server, rfl, rfl, rfl, BitSet.and_shift_ne_zero.mp kept.2.1⟩
          · exact .inl rfl

/-- A server in use that is in the set is given up only for one twice as near. -/
theorem keepCurrent_replaces {server chosen : Nat} (inside : server < candidates.length)
    (agrees : server ∈ BitSet.elements best)
    (replaced : keepCurrent candidates best (some server) (some chosen) ≠ some server) :
    distanceAt candidates chosen * 2 < distanceAt candidates server := by
  rw [keepCurrent] at replaced
  by_contra near
  rw [if_pos ⟨inside, BitSet.and_shift_ne_zero.mpr agrees, not_lt.mp near⟩] at replaced
  exact replaced rfl

theorem judge_marked {candidate : NtpCandidate} :
    (candidate.configured = true ∧ judge best index candidate ≠ .falseticker ∧
      judge best index candidate ≠ .unusable) ↔
      candidate.configured = true ∧ candidate.usable = true ∧ index ∈ BitSet.elements best := by
  rw [judge, ← BitSet.and_shift_ne_zero]
  by_cases outside : best &&& 1 <<< index = 0
  · cases candidate.configured <;> cases candidate.usable <;> simp [outside]
  · cases candidate.configured <;> cases candidate.usable <;> simp [outside]

/-- Every server of the best set agrees, where the usable ones are configured. -/
theorem best_candidate
    (configured : ∀ candidate ∈ candidates, candidate.usable = true → candidate.configured = true)
    (agrees : index ∈ BitSet.elements (bestSet candidates current)) :
    ∃ candidate, candidates[index]? = some candidate ∧
      judge (bestSet candidates current) index candidate = .candidate := by
  obtain ⟨candidate, entry, fit⟩ := mem_usableSet.mp (best_subset candidates current agrees)
  have known := configured candidate (List.mem_of_getElem? entry) fit
  exact ⟨candidate, entry, judge_eq_candidate.mpr ⟨known, fit, agrees⟩⟩

/-- The server selected agrees. -/
theorem keepCurrent_mem {server : Nat}
    (selected : server ∈ keepCurrent candidates best current (nearest candidates best)) :
    server ∈ BitSet.elements best := by
  rcases keepCurrent_cases candidates best current (nearest candidates best) with
    first | ⟨kept, _, first, _, agrees⟩
  · obtain ⟨candidate, _, agrees⟩ := nearest_candidate candidates best server (first ▸ selected)
    exact (judge_eq_candidate.mp agrees).2.2
  · rw [first] at selected
    cases selected
    exact agrees

/-- A server is selected where the best set has any. -/
theorem keepCurrent_isSome
    (configured : ∀ candidate ∈ candidates, candidate.usable = true → candidate.configured = true)
    (agrees : index ∈ BitSet.elements (bestSet candidates current)) :
    (keepCurrent candidates (bestSet candidates current) current
      (nearest candidates (bestSet candidates current))).isSome = true := by
  obtain ⟨candidate, entry, judged⟩ := best_candidate configured agrees
  rcases keepCurrent_cases candidates (bestSet candidates current) current
    (nearest candidates (bestSet candidates current)) with first | ⟨_, _, first, _⟩
  · rw [first]
    exact nearest_isSome entry judged
  · rw [first]
    rfl

/-- Where any server is usable, the best set has one. -/
theorem best_nonempty (current : Option Nat) (distances : ∀ candidate ∈ candidates, 0 ≤ candidate.distanceUs)
    (usable : index ∈ usableSet candidates) :
    (BitSet.elements (bestSet candidates current)).Nonempty := by
  have single : _ ≤ members (bestSet candidates current) :=
    card_le_best (Finset.singleton_subset_iff.mpr usable) (shares_single distances usable)
  rw [members_eq, Finset.card_singleton] at single
  exact Finset.card_pos.mp single

/-! ## What is selected -/

/-- A set of servers is the one that agrees in a selection, and was selected from. -/
structure Agrees (candidates : List NtpCandidate) (current : Option Nat)
    (selection : NtpSelection) (servers : Finset Nat) : Prop where
  usable : servers ⊆ usableSet candidates
  size : servers.card = selection.agreeing
  shares : Overlap.Shares (lowerAt candidates) (upperAt candidates) servers
  marked : ∀ index < candidates.length, index ∈ servers ↔
    (candidateAt candidates index).configured = true ∧
      selection.verdict index ≠ .falseticker ∧ selection.verdict index ≠ .unusable
  holdsCurrent : ∀ server ∈ current, (∃ others ⊆ usableSet candidates,
    Overlap.Shares (lowerAt candidates) (upperAt candidates) others ∧
      others.card = servers.card ∧ server ∈ others) → server ∈ servers
  selected : ∀ server ∈ selection.selected, server ∈ servers
  replaced : ∀ server ∈ current, selection.selected ≠ some server → server ∉ servers ∨
    ∃ other ∈ servers, distanceAt candidates other * 2 < distanceAt candidates server

/-- **The largest agreement.** Where every candidate that is usable is configured, as the
poller has it: the servers that agree are as many as can be right at any one point, and
those marked so are such a set, with the server in use if any such set has it; one of them
is selected if any server is usable; there is a majority if they are more than half of the
usable; and the server in use is given up only if it is not one of them, or one of them is
more than twice as near. -/
theorem select_largest_agreement (candidates : List NtpCandidate) (current : Option Nat)
    (few : candidates.length ≤ ntpSelectMax)
    (distances : ∀ candidate ∈ candidates, 0 ≤ candidate.distanceUs)
    (configured : ∀ candidate ∈ candidates, candidate.usable = true → candidate.configured = true) :
    (∃ point, (agreeing candidates point).card = (ntpSelect candidates current).agreeing) ∧
      (∀ point, (agreeing candidates point).card ≤ (ntpSelect candidates current).agreeing) ∧
      (∃ servers, Agrees candidates current (ntpSelect candidates current) servers) ∧
      ((ntpSelect candidates current).selected.isSome = true ↔
        (usableSet candidates).Nonempty) ∧
      ((ntpSelect candidates current).majority = true ↔
        (usableSet candidates).card < 2 * (ntpSelect candidates current).agreeing) := by
  have whole : candidates.take ntpSelectMax = candidates := List.take_of_length_le few
  have size : (ntpSelect candidates current).agreeing = members (bestSet candidates current) := by
    rw [ntpSelect, whole]
  have selects : (ntpSelect candidates current).selected =
      keepCurrent candidates (bestSet candidates current) current
        (nearest candidates (bestSet candidates current)) := by
    rw [ntpSelect, whole]
  have usable : (ntpSelect candidates current).usable = (usableSet candidates).card := by
    rw [ntpSelect, whole, card_usableSet]
  obtain ⟨point, same⟩ := best_agreeing candidates current
  have selected (server : Nat) (chosen : server ∈ (ntpSelect candidates current).selected) :
      server ∈ BitSet.elements (bestSet candidates current) :=
    keepCurrent_mem (selects ▸ chosen)
  refine ⟨⟨point, ?_⟩, fun point => ?_, ⟨BitSet.elements (bestSet candidates current), ?_⟩, ?_, ?_⟩
  · rw [size, members_eq, same]
  · rw [size]
    exact card_le_best (Finset.filter_subset _ _) Overlap.holding_shares
  · refine ⟨best_subset candidates current, ?_, ?_, fun index inside => ?_, ?_, selected, ?_⟩
    · rw [size, members_eq]
    · rw [same]
      exact Overlap.holding_shares
    · -- The one selected is marked so, every other as it was judged.
      have verdict : (ntpSelect candidates current).verdict index =
          if (ntpSelect candidates current).selected = some index then .selected
          else judge (bestSet candidates current) index (candidateAt candidates index) := by
        rw [selects, ntpSelect, whole]
        change (if _ then _ else _) = _
        rw [exists_entry inside]
        rfl
      by_cases chosen : (ntpSelect candidates current).selected = some index
      · obtain ⟨candidate, entry, judged⟩ := best_candidate configured (selected index chosen)
        rw [verdict, if_pos chosen, candidateAt_eq entry, (judge_eq_candidate.mp judged).1]
        simp [selected index chosen]
      · rw [verdict, if_neg chosen, judge_marked]
        constructor
        · intro agrees
          obtain ⟨candidate, entry, judged⟩ := best_candidate configured agrees
          rw [candidateAt_eq entry]
          exact judge_eq_candidate.mp judged
        · exact fun marked => marked.2.2
    · rintro server asked ⟨others, within, shares, largest, held⟩
      cases asked
      rw [← members_eq] at largest
      exact current_mem_best within shares largest held
    · intro server asked given_up
      cases asked
      by_cases agrees : server ∈ BitSet.elements (bestSet candidates (some server))
      · obtain ⟨candidate, entry, judged⟩ := best_candidate configured agrees
        obtain ⟨chosen, first⟩ := Option.isSome_iff_exists.mp (nearest_isSome entry judged)
        obtain ⟨_, _, nearer⟩ := nearest_candidate candidates _ chosen first
        rw [selects, first] at given_up
        exact .inr ⟨chosen, (judge_eq_candidate.mp nearer).2.2, keepCurrent_replaces
          (List.getElem?_eq_some_iff.mp entry).1 agrees given_up⟩
      · exact .inl agrees
  · constructor
    · intro any
      obtain ⟨server, chosen⟩ := Option.isSome_iff_exists.mp any
      exact ⟨server, best_subset candidates current (selected server chosen)⟩
    · rintro ⟨index, usable⟩
      obtain ⟨_, agrees⟩ := best_nonempty current distances usable
      rw [selects]
      exact keepCurrent_isSome configured agrees
  · have majority : (ntpSelect candidates current).majority =
        decide ((usableSet candidates).card < members (bestSet candidates current) * 2) := by
      rw [ntpSelect, whole, card_usableSet]
    rw [size, majority, decide_eq_true_eq, Nat.mul_comm]

/-- Two servers that agree to within their distances, the second the nearer, and one that
is half a second off. -/
def threeServers : List NtpCandidate :=
  [⟨true, true, 1000, 9000⟩, ⟨true, true, 3000, 4000⟩, ⟨true, true, 500000, 2000⟩]

/-- The second is followed instead of the first. -/
theorem select_largest_agreement_three :
    (ntpSelect threeServers (some 0)).selected = some 1 ∧
      (ntpSelect threeServers (some 0)).agreeing = 2 ∧
      ∃ servers, Agrees threeServers (some 0) (ntpSelect threeServers (some 0)) servers := by
  have largest := select_largest_agreement threeServers (some 0) (by decide) (by decide) (by decide)
  exact ⟨by decide, by decide, largest.2.2.1⟩

/-- A server that is not configured is marked neither unusable nor outside the set, which it
is not in. -/
theorem unconfigured_not_marked :
    ¬∀ (candidates : List NtpCandidate) (current : Option Nat),
      candidates.length ≤ ntpSelectMax →
      (∀ candidate ∈ candidates, 0 ≤ candidate.distanceUs) →
      ∃ servers : Finset Nat, servers.card = (ntpSelect candidates current).agreeing ∧
        ∀ index < candidates.length, index ∈ servers ↔
          (ntpSelect candidates current).verdict index ≠ .falseticker ∧
            (ntpSelect candidates current).verdict index ≠ .unusable := by
  intro marked
  obtain ⟨servers, size, exactly⟩ := marked [⟨false, false, 0, 0⟩] none (by decide) (by decide)
  have empty : servers = ∅ := Finset.card_eq_zero.mp size
  have inside := (exactly 0 (by decide)).mpr (by decide)
  rw [empty] at inside
  exact absurd inside (Finset.notMem_empty 0)

end GpsClock.Ntp
