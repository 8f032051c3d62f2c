import Mathlib

/-! # Journals read by walking

A journal keeps entries one after another in a medium addressed by place. What
stands at a place is nothing yet, an entry with the places it spans, or something
that is no entry. Reading the journal walks from entry to entry until none stands
there (`Journal.Walk`), and the latest entry with a key is what the journal holds
for it (`Journal.latest`). A walk depends only on what it passes
(`Journal.Walk.congr`), so writing where it stopped extends it. Whether an entry
left beyond the stop can ever be read is told by the places later walks and writes
can come to (`Journal.Reaches`, `Journal.Clear`).
-/

universe u v

/-- What stands at a place of a journal. -/
inductive Found (Entry : Type u)
  | free
  | entry (entry : Entry) (span : Nat)
  | bad

namespace Journal

variable {Entry : Type u} {Key : Type v} {found other : Nat → Found Entry}
  {room otherRoom : Nat → Nat → Prop}

/-- From a place over the entries that stand one after another, with where each stands. -/
inductive Walk (found : Nat → Found Entry) : Nat → List (Nat × Entry) → Nat → Prop
  | stay (place : Nat) : Walk found place [] place
  | pass {place stop span : Nat} {entry : Entry} {entries : List (Nat × Entry)}
      (stands : found place = .entry entry span)
      (rest : Walk found (place + span) entries stop) :
      Walk found place ((place, entry) :: entries) stop

/-- No entry stands here: a walk goes no further. -/
def Stops (found : Nat → Found Entry) (place : Nat) : Prop :=
  ∀ entry span, found place ≠ .entry entry span

theorem Stops.of_free {place : Nat} (free : found place = .free) : Stops found place := by
  intro entry span stands
  rw [free] at stands
  cases stands

theorem Walk.le {start stop : Nat} {entries : List (Nat × Entry)}
    (walk : Walk found start entries stop) : start ≤ stop := by
  induction walk with
  | stay => exact Nat.le_refl _
  | pass _ _ ih => exact Nat.le_trans (Nat.le_add_right _ _) ih

theorem Walk.append {start middle stop : Nat} {first second : List (Nat × Entry)}
    (earlier : Walk found start first middle) (later : Walk found middle second stop) :
    Walk found start (first ++ second) stop := by
  induction earlier with
  | stay => exact later
  | pass stands _ ih => exact .pass stands (ih later)

/-- Every entry passed stands where the walk says, within it. -/
theorem Walk.stands {start stop : Nat} {entries : List (Nat × Entry)}
    (walk : Walk found start entries stop) {passed : Nat × Entry} (member : passed ∈ entries) :
    ∃ span, found passed.1 = .entry passed.2 span ∧ start ≤ passed.1 ∧
      passed.1 + span ≤ stop := by
  induction walk with
  | stay => cases member
  | pass stands rest ih =>
      rcases List.mem_cons.mp member with rfl | later
      · exact ⟨_, stands, Nat.le_refl _, rest.le⟩
      · obtain ⟨span, at_place, after, within⟩ := ih later
        exact ⟨span, at_place, Nat.le_trans (Nat.le_add_right _ _) after, within⟩

/-- A walk depends only on the entries it passes. -/
theorem Walk.congr {start stop : Nat} {entries : List (Nat × Entry)}
    (walk : Walk found start entries stop)
    (same : ∀ place entry span, start ≤ place → place + span ≤ stop →
      found place = .entry entry span → other place = .entry entry span) :
    Walk other start entries stop := by
  induction walk with
  | stay place => exact .stay place
  | pass stands rest ih =>
      refine .pass (same _ _ _ (Nat.le_refl _) rest.le stands) (ih ?_)
      intro place entry span after
      exact same place entry span (Nat.le_trans (Nat.le_add_right _ _) after)

/-- A walk that goes on to a stop passes every earlier stage of itself. -/
theorem Walk.split {start middle stop : Nat} {first entries : List (Nat × Entry)}
    (walk : Walk found start entries stop) (stops : Stops found stop)
    (earlier : Walk found start first middle) :
    ∃ rest, entries = first ++ rest ∧ Walk found middle rest stop := by
  induction earlier generalizing entries with
  | stay => exact ⟨entries, rfl, walk⟩
  | pass stands _ ih =>
      cases walk with
      | stay => exact absurd stands (stops _ _)
      | pass again rest =>
          rw [stands] at again
          cases again
          obtain ⟨tail, rfl, onward⟩ := ih rest
          exact ⟨tail, rfl, onward⟩

/-- A walk from a place where none goes on is over. -/
theorem Walk.of_stops {start stop : Nat} {entries : List (Nat × Entry)}
    (walk : Walk found start entries stop) (stops : Stops found start) :
    entries = [] ∧ stop = start := by
  cases walk with
  | stay => exact ⟨rfl, rfl⟩
  | pass stands => exact absurd stands (stops _ _)

/-! ## What a journal holds -/

variable [DecidableEq Key] (key : Entry → Option Key)

/-- The last entry with a key, and where it stands. -/
def latest (entries : List (Nat × Entry)) (sought : Key) : Option (Nat × Entry) :=
  entries.foldl (fun held passed => if key passed.2 = some sought then some passed else held) none

/-- An earlier entry counts only where no later one does. -/
theorem latest_append (first second : List (Nat × Entry)) (sought : Key) :
    latest key (first ++ second) sought = (latest key second sought).or (latest key first sought) := by
  unfold latest
  rw [List.foldl_append]
  generalize List.foldl _ none first = held
  induction second using List.reverseRecOn with
  | nil => rfl
  | append_singleton second passed ih =>
      rw [List.foldl_concat, List.foldl_concat]
      split
      · rfl
      · exact ih

theorem latest_concat (entries : List (Nat × Entry)) (passed : Nat × Entry) (sought : Key) :
    latest key (entries ++ [passed]) sought =
      if key passed.2 = some sought then some passed else latest key entries sought := by
  rw [latest, List.foldl_concat]
  rfl

variable {key} in
theorem latest_eq_none {entries : List (Nat × Entry)} {sought : Key}
    (absent : ∀ passed ∈ entries, key passed.2 ≠ some sought) :
    latest key entries sought = none := by
  induction entries using List.reverseRecOn with
  | nil => rfl
  | append_singleton entries passed ih =>
      rw [latest_concat, if_neg (absent passed (by simp))]
      exact ih (fun earlier member => absent earlier (by simp [member]))

variable {key} in
theorem mem_of_latest {entries : List (Nat × Entry)} {sought : Key} {passed : Nat × Entry}
    (held : latest key entries sought = some passed) :
    passed ∈ entries ∧ key passed.2 = some sought := by
  induction entries using List.reverseRecOn with
  | nil => cases held
  | append_singleton entries last ih =>
      rw [latest_concat] at held
      split at held
      · cases held
        exact ⟨by simp, ‹_›⟩
      · obtain ⟨member, keyed⟩ := ih held
        exact ⟨by simp [member], keyed⟩

/-! ## Where later walks and writes can come -/

/-- The places walks and writes can come to from a place: on over the entries that stand
there, and past what would be written where nothing stands yet. -/
inductive Reaches (found : Nat → Found Entry) (room : Nat → Nat → Prop) : Nat → Nat → Prop
  | here (place : Nat) : Reaches found room place place
  | pass {place span goal : Nat} {entry : Entry} (stands : found place = .entry entry span)
      (rest : Reaches found room (place + span) goal) : Reaches found room place goal
  | write {place span goal : Nat} (free : found place = .free) (fits : room place span)
      (rest : Reaches found room (place + span) goal) : Reaches found room place goal

theorem Reaches.le {start goal : Nat} (reaches : Reaches found room start goal) :
    start ≤ goal := by
  induction reaches with
  | here => exact Nat.le_refl _
  | pass _ _ ih => exact Nat.le_trans (Nat.le_add_right _ _) ih
  | write _ _ _ ih => exact Nat.le_trans (Nat.le_add_right _ _) ih

theorem Reaches.trans {start middle goal : Nat} (first : Reaches found room start middle)
    (second : Reaches found room middle goal) : Reaches found room start goal := by
  induction first with
  | here => exact second
  | pass stands _ ih => exact .pass stands (ih second)
  | write free fits _ ih => exact .write free fits (ih second)

theorem Walk.reaches {start stop : Nat} {entries : List (Nat × Entry)}
    (walk : Walk found start entries stop) : Reaches found room start stop := by
  induction walk with
  | stay => exact .here _
  | pass stands _ ih => exact .pass stands ih

/-- Where the medium is the same from a place on, the same places are reached. -/
theorem Reaches.congr {start goal : Nat} (reaches : Reaches found room start goal)
    (same : ∀ place, start ≤ place → found place = other place)
    (sameRoom : ∀ place span, start ≤ place → room place span → otherRoom place span) :
    Reaches other otherRoom start goal := by
  induction reaches with
  | here place => exact .here place
  | @pass place span goal entry stands _ ih =>
      have onward : place ≤ place + span := Nat.le_add_right _ _
      refine .pass ((same _ (Nat.le_refl _)).symm.trans stands) (ih ?_ ?_)
      · exact fun later after => same later (Nat.le_trans onward after)
      · exact fun later span after => sameRoom later span (Nat.le_trans onward after)
  | @write place span goal free fits _ ih =>
      have onward : place ≤ place + span := Nat.le_add_right _ _
      refine .write ((same _ (Nat.le_refl _)).symm.trans free)
        (sameRoom _ _ (Nat.le_refl _) fits) (ih ?_ ?_)
      · exact fun later after => same later (Nat.le_trans onward after)
      · exact fun later span after => sameRoom later span (Nat.le_trans onward after)

/-- No entry that counts stands at a place that can be come to. -/
def Clear (found : Nat → Found Entry) (room : Nat → Nat → Prop) (counts : Nat → Entry → Prop)
    (start : Nat) : Prop :=
  ∀ place entry span, Reaches found room start place → found place = .entry entry span →
    ¬counts place entry

variable {counts : Nat → Entry → Prop}

theorem Clear.onward {start later : Nat} (clear : Clear found room counts start)
    (reaches : Reaches found room start later) : Clear found room counts later :=
  fun place entry span onward => clear place entry span (reaches.trans onward)

theorem Clear.mono {fewer : Nat → Entry → Prop} {start : Nat}
    (clear : Clear found room counts start)
    (weakens : ∀ place entry, start ≤ place → fewer place entry → counts place entry) :
    Clear found room fewer start :=
  fun place entry span reaches stands counted =>
    clear place entry span reaches stands (weakens place entry reaches.le counted)

theorem Clear.congr {start : Nat} (clear : Clear found room counts start)
    (same : ∀ place, start ≤ place → found place = other place)
    (sameRoom : ∀ place span, start ≤ place → otherRoom place span → room place span) :
    Clear other otherRoom counts start := by
  intro place entry span reaches stands
  rw [← same place reaches.le] at stands
  exact clear place entry span
    (reaches.congr (fun place after => (same place after).symm) sameRoom) stands

/-- Nothing that counts is passed by a walk. -/
theorem Clear.walk {start stop : Nat} {entries : List (Nat × Entry)}
    (clear : Clear found room counts start) (walk : Walk found start entries stop)
    {passed : Nat × Entry} (member : passed ∈ entries) : ¬counts passed.1 passed.2 := by
  induction walk with
  | stay => cases member
  | pass stands rest ih =>
      rcases List.mem_cons.mp member with rfl | later
      · exact clear _ _ _ (.here _) stands
      · exact ih (clear.onward (.pass stands (.here _))) later

/-- An entry that does not count only leads on. -/
theorem Clear.of_pass {start span : Nat} {entry : Entry} (stands : found start = .entry entry span)
    (discounted : ¬counts start entry) (onward : Clear found room counts (start + span)) :
    Clear found room counts start := by
  intro place other width reaches again
  cases reaches with
  | here =>
      rw [stands] at again
      cases again
      exact discounted
  | pass next rest =>
      rw [stands] at next
      cases next
      exact onward place other width rest again
  | write free =>
      rw [stands] at free
      cases free

/-- Where nothing stands and nothing fits, there is nothing to come to. -/
theorem Clear.of_free {start : Nat} (free : ∀ place, start ≤ place → found place = .free) :
    Clear found room counts start := by
  intro place entry span reaches stands
  rw [free place reaches.le] at stands
  cases stands

end Journal
