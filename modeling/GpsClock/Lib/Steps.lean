import Mathlib

/-! # Step functions as lists

A step function kept as a list: an entry in force to begin with, then entries that
each come into force at a time. Looking it up walks the list to the last entry
that has come (`Steps.lookup`). A lookup is unchanged by leaving out entries that
have been passed (`Steps.lookup_drop`) or entries not yet reached
(`Steps.lookup_take`), and where the entries track a function, it gives the
function's value (`Steps.Tracks.lookup`). Where entries come far enough apart, it changes at
most once within a stretch of time (`Steps.lookup_window`).
-/

universe u v w

namespace Steps

variable {Entry : Type u} {Moment : Type v} {Value : Type w} [LinearOrder Moment]
  (time : Entry → Moment)

/-- The entry in force at a moment. -/
def lookup (moment : Moment) : Entry → List Entry → Entry
  | held, [] => held
  | held, next :: later => if moment < time next then held else lookup moment next later

/-- How many entries have come into force, one after another, by a moment. -/
def passed (moment : Moment) : List Entry → Nat
  | [] => 0
  | next :: later => if time next ≤ moment then passed moment later + 1 else 0

/-- Each entry later than the one before. -/
def Ascending : Entry → List Entry → Prop
  | _, [] => True
  | held, next :: later => time held < time next ∧ Ascending next later

/-- Each entry's value is a function's as long as it is in force: the first one's from a
moment on, the last one's as far as another. -/
def Tracks (function : Moment → Value) (value : Entry → Value) (stop : Moment) :
    Moment → Entry → List Entry → Prop
  | start, held, [] => ∀ moment, start ≤ moment → moment < stop → function moment = value held
  | start, held, next :: later =>
      (∀ moment, start ≤ moment → moment < time next → moment < stop →
        function moment = value held) ∧
      Tracks function value stop (time next) next later

variable {time}

theorem passed_le (moment : Moment) (later : List Entry) :
    passed time moment later ≤ later.length := by
  induction later with
  | nil => exact Nat.le_refl 0
  | cons next later ih =>
      rw [passed, List.length_cons]
      split
      · exact Nat.succ_le_succ ih
      · exact Nat.zero_le _

/-- The entry in force is the last that has come. -/
theorem lookup_eq_getElem (time : Entry → Moment) (moment : Moment) (held : Entry) (later : List Entry) :
    (held :: later)[passed time moment later]? = some (lookup time moment held later) := by
  induction later generalizing held with
  | nil => rfl
  | cons next later ih =>
      rw [passed, lookup]
      by_cases come : time next ≤ moment
      · rw [if_pos come, if_neg (not_lt.mpr come)]
        exact ih next
      · rw [if_neg come, if_pos (not_le.mp come)]
        rfl

/-- Entries already passed may be left out. -/
theorem lookup_drop {earlier moment : Moment} (onward : earlier ≤ moment) (held : Entry)
    (later : List Entry) :
    lookup time moment (lookup time earlier held later)
      (later.drop (passed time earlier later)) = lookup time moment held later := by
  induction later generalizing held with
  | nil => rfl
  | cons next later ih =>
      rw [passed, lookup]
      by_cases come : time next ≤ earlier
      · rw [if_pos come, if_neg (not_lt.mpr come), List.drop_succ_cons, ih next]
        exact (if_neg (not_lt.mpr (come.trans onward))).symm
      · rw [if_neg come, if_pos (not_le.mp come)]
        rfl

/-- Entries not yet reached may be left out. -/
theorem lookup_take {moment : Moment} (held : Entry) (later : List Entry) (count : Nat)
    (beyond : ∀ next ∈ later[count]?, moment < time next) :
    lookup time moment held (later.take count) = lookup time moment held later := by
  induction count generalizing held later with
  | zero =>
      cases later with
      | nil => rfl
      | cons next later =>
          rw [List.take_zero, lookup, lookup, if_pos (beyond next rfl)]
  | succ count ih =>
      cases later with
      | nil => rfl
      | cons next later =>
          rw [List.take_succ_cons, lookup, lookup, ih next later beyond]

/-- A lookup carries over a map that keeps the times. -/
theorem lookup_map {Other : Type u} (time : Entry → Moment) (otherTime : Other → Moment) (map : Entry → Other)
    (keeps : ∀ entry, otherTime (map entry) = time entry) (moment : Moment) (held : Entry)
    (later : List Entry) :
    lookup otherTime moment (map held) (later.map map) = map (lookup time moment held later) := by
  induction later generalizing held with
  | nil => rfl
  | cons next later ih =>
      rw [List.map_cons, lookup, lookup, keeps, ih next]
      split <;> rfl

/-- The entry in force is one of those held. -/
theorem lookup_mem (moment : Moment) (held : Entry) (later : List Entry) :
    lookup time moment held later ∈ held :: later := by
  induction later generalizing held with
  | nil => exact List.mem_singleton_self held
  | cons next later ih =>
      rw [lookup]
      split
      · exact List.mem_cons_self
      · exact List.mem_cons_of_mem _ (ih next)

/-- An ascending list stays ascending from the entry in force on. -/
theorem Ascending.drop {held : Entry} {later : List Entry} (ascending : Ascending time held later)
    (moment : Moment) :
    Ascending time (lookup time moment held later) (later.drop (passed time moment later)) := by
  induction later generalizing held with
  | nil => trivial
  | cons next later ih =>
      rw [passed, lookup]
      by_cases come : time next ≤ moment
      · rw [if_pos come, if_neg (not_lt.mpr come), List.drop_succ_cons]
        exact ih ascending.2
      · rw [if_neg come, if_pos (not_le.mp come)]
        exact ascending

theorem Ascending.take {held : Entry} {later : List Entry} (ascending : Ascending time held later)
    (count : Nat) : Ascending time held (later.take count) := by
  induction count generalizing held later with
  | zero => trivial
  | succ count ih =>
      cases later with
      | nil => trivial
      | cons next later => exact ⟨ascending.1, ih ascending.2⟩

/-- The entries before one are earlier than it. -/
theorem Ascending.lt_getElem {held : Entry} {later : List Entry}
    (ascending : Ascending time held later) (count : Nat) (inside : count < later.length) :
    ∀ entry ∈ held :: later.take count, time entry < time later[count] := by
  induction later generalizing held count with
  | nil => simp at inside
  | cons next later ih =>
      cases count with
      | zero =>
          intro entry member
          rw [List.take_zero] at member
          rw [List.mem_singleton.mp member]
          exact ascending.1
      | succ count =>
          have onward := ih ascending.2 count (Nat.lt_of_succ_lt_succ inside)
          intro entry member
          rw [List.take_succ_cons] at member
          obtain rfl | member := List.mem_cons.mp member
          · exact ascending.1.trans (onward next List.mem_cons_self)
          · exact onward entry member

/-- No entry of an ascending list is later than its last. -/
theorem Ascending.le_getLast {held : Entry} {later : List Entry}
    (ascending : Ascending time held later) :
    ∀ entry ∈ held :: later, time entry ≤ time ((held :: later).getLast (List.cons_ne_nil _ _)) := by
  induction later generalizing held with
  | nil =>
      intro entry member
      rw [List.mem_singleton.mp member]
      exact le_refl _
  | cons next later ih =>
      intro entry member
      rw [List.getLast_cons (List.cons_ne_nil _ _)]
      obtain rfl | member := List.mem_cons.mp member
      · exact ascending.1.le.trans (ih ascending.2 next List.mem_cons_self)
      · exact ih ascending.2 entry member

/-- Between two moments that no two entries both come within, a lookup changes at most
once. -/
theorem lookup_window {low high : Moment} {held : Entry} {later : List Entry}
    (apart : later.IsChain fun entry next => low < time entry → high < time next) :
    ∃ (step : Moment) (before after : Entry), before ∈ held :: later ∧ after ∈ held :: later ∧
      ∀ moment, low ≤ moment → moment ≤ high →
        lookup time moment held later = if moment < step then before else after := by
  induction later generalizing held with
  | nil =>
      exact ⟨low, held, held, List.mem_singleton_self held, List.mem_singleton_self held,
        fun _ _ _ => (ite_self _).symm⟩
  | cons next later ih =>
      by_cases come : time next ≤ low
      · obtain ⟨step, before, after, first, second, same⟩ := @ih next apart.tail
        refine ⟨step, before, after, List.mem_cons_of_mem _ first, List.mem_cons_of_mem _ second,
          fun moment since until_ => ?_⟩
        rw [lookup, if_neg (not_lt.mpr (come.trans since))]
        exact same moment since until_
      · refine ⟨time next, held, next, List.mem_cons_self,
          List.mem_cons_of_mem _ List.mem_cons_self, fun moment _ until_ => ?_⟩
        -- the entry after the next one comes too late
        have last : lookup time moment next later = next := by
          cases later with
          | nil => rfl
          | cons afterwards later =>
              have late : high < time afterwards := apart.rel (not_le.mp come)
              rw [lookup, if_pos (until_.trans_lt late)]
        rw [lookup, last]

/-- Entries that track a function give its values. -/
theorem Tracks.lookup {function : Moment → Value} {value : Entry → Value} {start stop : Moment}
    {held : Entry} {later : List Entry} (tracks : Tracks time function value stop start held later)
    (moment : Moment) (onward : start ≤ moment) (before : moment < stop) :
    function moment = value (lookup time moment held later) := by
  induction later generalizing start held with
  | nil => exact tracks moment onward before
  | cons next later ih =>
      obtain ⟨here, onwards⟩ := tracks
      rw [Steps.lookup]
      split
      · next reached => exact here moment onward reached before
      · next come => exact ih onwards (not_lt.mp come)

end Steps
