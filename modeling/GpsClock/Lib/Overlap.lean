import Mathlib

/-! # Where intervals overlap most

A family of intervals of a linear order, some of which may share a point. A set of them
that shares any point shares the greatest of its lower ends
(`Overlap.shares_lower_end`), so every set of intervals that is all those holding some
point is within one that is all those holding a lower end (`Overlap.exists_lower_end`),
and the most that hold any point are found at the lower ends.
-/

universe u v

namespace Overlap

variable {Index : Type u} {Point : Type v} [LinearOrder Point]
  (lower upper : Index → Point)

/-- An interval holds a point. -/
def Holds (index : Index) (point : Point) : Prop :=
  lower index ≤ point ∧ point ≤ upper index

instance (index : Index) (point : Point) : Decidable (Holds lower upper index point) :=
  inferInstanceAs (Decidable (_ ∧ _))

/-- Those of a set of intervals that hold a point. -/
def holding (indices : Finset Index) (point : Point) : Finset Index :=
  indices.filter fun index => Holds lower upper index point

/-- A set of intervals shares a point. -/
def Shares (indices : Finset Index) : Prop :=
  ∃ point, ∀ index ∈ indices, Holds lower upper index point

variable {lower upper} {indices others : Finset Index} {point : Point}

theorem mem_holding {index : Index} :
    index ∈ holding lower upper indices point ↔ index ∈ indices ∧ Holds lower upper index point :=
  Finset.mem_filter

theorem holding_shares : Shares lower upper (holding lower upper indices point) :=
  ⟨point, fun _ member => (mem_holding.mp member).2⟩

/-- What shares a point shares the greatest of its lower ends. -/
theorem shares_lower_end (shares : Shares lower upper indices) (some : indices.Nonempty) :
    ∃ last ∈ indices, ∀ index ∈ indices, Holds lower upper index (lower last) := by
  obtain ⟨point, holds⟩ := shares
  obtain ⟨last, member, greatest⟩ := indices.exists_max_image lower some
  exact ⟨last, member, fun index inside =>
    ⟨greatest index inside, (holds last member).1.trans (holds index inside).2⟩⟩

/-- A set that shares a point is within all those that hold one of its lower ends. -/
theorem exists_lower_end (within : others ⊆ indices) (shares : Shares lower upper others)
    (some : others.Nonempty) :
    ∃ last ∈ others, others ⊆ holding lower upper indices (lower last) := by
  obtain ⟨last, member, holds⟩ := shares_lower_end shares some
  exact ⟨last, member, fun index inside =>
    mem_holding.mpr ⟨within inside, holds index inside⟩⟩

/-! ## The best of several -/

variable {Choice : Type u} {Rank : Type v} [LinearOrder Rank]

/-- Keeping the better of each and the best so far leaves one that ranks no lower than any. -/
theorem foldl_best (better : Choice → Choice → Bool) (rank : Choice → Rank)
    (ranked : ∀ choice best, better choice best = true ↔ rank best < rank choice)
    (choices : List Choice) (first : Choice) :
    let last := choices.foldl (fun best choice => if better choice best then choice else best) first
    (last = first ∨ last ∈ choices) ∧ rank first ≤ rank last ∧
      ∀ choice ∈ choices, rank choice ≤ rank last := by
  induction choices generalizing first with
  | nil => exact ⟨.inl rfl, le_refl _, fun _ none => by cases none⟩
  | cons choice choices ih =>
      obtain ⟨from_list, above, best⟩ := ih (if better choice first then choice else first)
      have kept : rank first ≤ rank (if better choice first then choice else first) ∧
          rank choice ≤ rank (if better choice first then choice else first) := by
        split
        · next wins => exact ⟨((ranked _ _).mp wins).le, le_refl _⟩
        · next loses => exact ⟨le_refl _, not_lt.mp ((ranked _ _).not.mp loses)⟩
      refine ⟨?_, kept.1.trans above, fun other member => ?_⟩
      · rcases from_list with same | member
        · rw [List.foldl_cons, same]
          split
          · exact .inr List.mem_cons_self
          · exact .inl rfl
        · exact .inr (List.mem_cons_of_mem _ member)
      · obtain rfl | member := List.mem_cons.mp member
        · exact kept.2.trans above
        · exact best other member

end Overlap
