import GpsClock.Lib.Machine

/-! # Bounded response

A rank that no step of a machine raises and every counted step lowers, for as long as
what is waited for has not happened, bounds the wait: a run with more counted steps than
the rank has it happen (`Machine.Ranked.response`).
-/

universe u v

namespace Machine

variable {State : Type u} {Act : Type v}

/-- How many of a run's acts are counted, each judged in the state it is taken in. -/
def visits (machine : Machine State Act) (counted : State → Act → Bool) :
    State → List Act → Nat
  | _, [] => 0
  | state, act :: acts =>
      (if counted state act then 1 else 0) + machine.visits counted (machine.step state act) acts

/-- Whether some state of a run, its ends included, satisfies a predicate. -/
def Meets (machine : Machine State Act) (reached : State → Prop) (state : State)
    (acts : List Act) : Prop :=
  ∃ earlier later, acts = earlier ++ later ∧ reached (earlier.foldl machine.step state)

/-- Until it happens, what holds is kept, and the rank falls where an act counts. -/
structure Ranked (machine : Machine State Act) (admits : State → Act → Prop)
    (holds happened : State → Prop) (counted : State → Act → Bool) (rank : State → Nat) :
    Prop where
  step : ∀ state act, holds state → ¬happened state → admits state act →
    happened (machine.step state act) ∨
      holds (machine.step state act) ∧
        rank (machine.step state act) + (if counted state act then 1 else 0) ≤ rank state

variable {machine : Machine State Act} {admits : State → Act → Prop}
  {holds happened : State → Prop} {counted : State → Act → Bool} {rank : State → Nat}

theorem Meets.here {state : State} (acts : List Act) (now : happened state) :
    machine.Meets happened state acts :=
  ⟨[], acts, rfl, now⟩

theorem Meets.cons {state : State} {act : Act} {acts : List Act}
    (later : machine.Meets happened (machine.step state act) acts) :
    machine.Meets happened state (act :: acts) := by
  obtain ⟨earlier, rest, rfl, happens⟩ := later
  exact ⟨act :: earlier, rest, rfl, happens⟩

theorem Meets.append_right {state : State} {first : List Act} (second : List Act)
    (met : machine.Meets happened (first.foldl machine.step state) second) :
    machine.Meets happened state (first ++ second) := by
  obtain ⟨earlier, rest, rfl, happens⟩ := met
  refine ⟨first ++ earlier, rest, (List.append_assoc ..).symm, ?_⟩
  rwa [List.foldl_append]

/-- A run with more counted acts than its rank has it happen. -/
theorem Ranked.response (ranked : machine.Ranked admits holds happened counted rank)
    {state final : State} {acts : List Act} (run : machine.Run admits state acts final)
    (holding : holds state) (enough : rank state < machine.visits counted state acts) :
    machine.Meets happened state acts := by
  induction run with
  | nil => exact absurd enough (Nat.not_lt_zero _)
  | @cons state _ acts act admitted _ ih =>
      by_cases now : happened state
      · exact .here _ now
      · rcases ranked.step state act holding now admitted with happens | ⟨kept, falls⟩
        · exact .cons (.here acts happens)
        · refine .cons (ih kept ?_)
          rw [visits] at enough
          exact Nat.lt_of_add_lt_add_left (Nat.lt_of_le_of_lt (Nat.add_comm .. ▸ falls) enough)

end Machine
