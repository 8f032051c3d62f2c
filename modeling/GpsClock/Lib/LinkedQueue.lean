import Mathlib

/-! # Queues of linked cells

Cells that lead one to the next from a head to a tail, the last to nothing. A cell put at the tail
and the cell taken from the head keep the queue (`LinkedQueue.push`, `LinkedQueue.pop`), whatever else
the links of other cells do (`LinkedQueue.congr`).
-/

universe u

variable {Cell : Type u}

/-- From a link, the cells lead one to the next, and the last to nothing. -/
def Leads (next : Cell → Option Cell) : Option Cell → List Cell → Prop
  | link, [] => link = none
  | link, cell :: cells => link = some cell ∧ Leads next (next cell) cells

/-- A queue's cells from its head to its tail, each once. -/
structure LinkedQueue (next : Cell → Option Cell) (head tail : Option Cell) (cells : List Cell) :
    Prop where
  leads : Leads next head cells
  tail : tail = cells.getLast?
  nodup : cells.Nodup

theorem Leads.congr {next other : Cell → Option Cell} {link : Option Cell} {cells : List Cell}
    (leads : Leads next link cells) (same : ∀ cell ∈ cells, other cell = next cell) :
    Leads other link cells := by
  induction cells generalizing link with
  | nil => exact leads
  | cons cell cells ih =>
      obtain ⟨here, later⟩ := List.forall_mem_cons.mp same
      exact ⟨leads.1, here ▸ ih leads.2 later⟩

theorem Leads.head? {next : Cell → Option Cell} {link : Option Cell} {cells : List Cell}
    (leads : Leads next link cells) : link = cells.head? := by
  cases cells with
  | nil => exact leads
  | cons cell cells => exact leads.1

/-- Cells lead on from the last of them to where it is made to lead. -/
theorem Leads.snoc [DecidableEq Cell] {next : Cell → Option Cell} {link : Option Cell}
    {cells : List Cell} {last cell : Cell} (leads : Leads next link (cells ++ [last]))
    (nodup : (cells ++ [last]).Nodup) (new : cell ∉ cells ++ [last]) :
    Leads (Function.update (Function.update next cell none) last (some cell)) link
      (cells ++ [last] ++ [cell]) := by
  induction cells generalizing link with
  | nil =>
      have other : cell ≠ last := fun same => new (List.mem_singleton.mpr same)
      refine ⟨leads.1, ?_, ?_⟩
      · rw [Function.update_self]
      · rw [Function.update_of_ne other, Function.update_self]
        rfl
  | cons first cells ih =>
      rw [List.cons_append, List.nodup_cons] at nodup
      rw [List.cons_append, List.mem_cons, not_or] at new
      have notLast : first ≠ last := by
        rintro rfl
        exact nodup.1 (List.mem_append_right _ (List.mem_singleton.mpr rfl))
      refine ⟨leads.1, ?_⟩
      rw [Function.update_of_ne notLast, Function.update_of_ne (Ne.symm new.1)]
      exact ih leads.2 nodup.2 new.2

namespace LinkedQueue

variable {next : Cell → Option Cell} {head tail : Option Cell} {cells : List Cell}

theorem nil (next : Cell → Option Cell) : LinkedQueue next none none [] :=
  ⟨rfl, rfl, List.nodup_nil⟩

theorem congr {other : Cell → Option Cell} (queue : LinkedQueue next head tail cells)
    (same : ∀ cell ∈ cells, other cell = next cell) : LinkedQueue other head tail cells :=
  ⟨queue.leads.congr same, queue.tail, queue.nodup⟩

theorem head_eq (queue : LinkedQueue next head tail cells) : head = cells.head? :=
  queue.leads.head?

theorem head_none_iff (queue : LinkedQueue next head tail cells) : head = none ↔ cells = [] := by
  rw [queue.head_eq, List.head?_eq_none_iff]

/-- A cell put where there is none. -/
theorem single [DecidableEq Cell] (next : Cell → Option Cell) (cell : Cell) :
    LinkedQueue (Function.update next cell none) (some cell) (some cell) [cell] :=
  ⟨⟨rfl, Function.update_self ..⟩, rfl, List.nodup_singleton cell⟩

/-- A cell put after the tail. -/
theorem push [DecidableEq Cell] {last cell : Cell} (queue : LinkedQueue next head (some last) cells)
    (new : cell ∉ cells) :
    LinkedQueue (Function.update (Function.update next cell none) last (some cell)) head (some cell)
      (cells ++ [cell]) := by
  obtain ⟨before, rfl⟩ := List.getLast?_eq_some_iff.mp queue.tail.symm
  refine ⟨queue.leads.snoc queue.nodup new, ?_, ?_⟩
  · rw [List.getLast?_append_of_ne_nil _ (List.cons_ne_nil cell [])]
    rfl
  · exact List.nodup_append.mpr ⟨queue.nodup, List.nodup_singleton cell, by
      rintro other member _ alone rfl
      exact new (List.mem_singleton.mp alone ▸ member)⟩

/-- The cell taken from the head. -/
theorem pop [DecidableEq Cell] {cell : Cell} (queue : LinkedQueue next head tail (cell :: cells)) :
    LinkedQueue (Function.update next cell none) (next cell)
      (if next cell = none then none else tail) cells := by
  obtain ⟨absent, nodup⟩ := List.nodup_cons.mp queue.nodup
  have later : Leads (Function.update next cell none) (next cell) cells := by
    apply queue.leads.2.congr
    intro other member
    rw [Function.update_of_ne]
    rintro rfl
    exact absent member
  refine ⟨later, ?_, nodup⟩
  rw [later.head?]
  cases cells with
  | nil => rfl
  | cons second cells => rw [if_neg (by simp), queue.tail, List.getLast?_cons_cons]

end LinkedQueue
