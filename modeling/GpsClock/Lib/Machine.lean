import Mathlib

/-! # Machines and their invariants

A machine takes acts one after another from a starting state. A run is admitted
when every act is one a given predicate allows in the state it is taken in, so an
assumption about a system's surroundings is stated once, step by step. What holds
at the start and is kept by every admitted step holds in every reachable state
(`Machine.Invariant.reachable`) and along every later run
(`Machine.Invariant.run`).
-/

universe u v

structure Machine (State : Type u) (Act : Type v) where
  start : State → Prop
  step : State → Act → State

namespace Machine

variable {State : Type u} {Act : Type v}

/-- The admitted runs from a state. -/
inductive Run (machine : Machine State Act) (admits : State → Act → Prop) :
    State → List Act → State → Prop
  | nil (state : State) : Run machine admits state [] state
  | cons {state final : State} {acts : List Act} (act : Act) (admitted : admits state act)
      (rest : Run machine admits (machine.step state act) acts final) :
      Run machine admits state (act :: acts) final

/-- The states of the admitted runs from the start. -/
inductive Reachable (machine : Machine State Act) (admits : State → Act → Prop) : State → Prop
  | start {state : State} (initial : machine.start state) : Reachable machine admits state
  | step {state : State} (reached : Reachable machine admits state) (act : Act)
      (admitted : admits state act) : Reachable machine admits (machine.step state act)

/-- What holds at the start and is kept by every admitted step. -/
structure Invariant (machine : Machine State Act) (admits : State → Act → Prop)
    (holds : State → Prop) : Prop where
  start : ∀ state, machine.start state → holds state
  step : ∀ state act, holds state → admits state act → holds (machine.step state act)

variable {machine : Machine State Act} {admits : State → Act → Prop} {holds : State → Prop}

theorem Invariant.reachable (invariant : machine.Invariant admits holds) {state : State}
    (reached : machine.Reachable admits state) : holds state := by
  induction reached with
  | start initial => exact invariant.start _ initial
  | step _ act admitted ih => exact invariant.step _ act ih admitted

/-- What every admitted step keeps, a run from any state keeps. -/
theorem Run.keeps (property : State → Prop)
    (kept : ∀ state act, property state → admits state act → property (machine.step state act))
    {state final : State} {acts : List Act} (valid : property state)
    (run : machine.Run admits state acts final) : property final := by
  induction run with
  | nil => exact valid
  | cons act admitted _ ih => exact ih (kept _ act valid admitted)

theorem Invariant.run (invariant : machine.Invariant admits holds) {state final : State}
    {acts : List Act} (valid : holds state) (run : machine.Run admits state acts final) :
    holds final :=
  run.keeps holds invariant.step valid

theorem Reachable.run {state final : State} {acts : List Act}
    (reached : machine.Reachable admits state) (run : machine.Run admits state acts final) :
    machine.Reachable admits final := by
  induction run with
  | nil => exact reached
  | cons act admitted _ ih => exact ih (reached.step act admitted)

theorem Run.append {state middle final : State} {first second : List Act}
    (earlier : machine.Run admits state first middle)
    (later : machine.Run admits middle second final) :
    machine.Run admits state (first ++ second) final := by
  induction earlier with
  | nil => exact later
  | cons act admitted _ ih => exact .cons act admitted (ih later)

theorem Run.split {state final : State} {first second : List Act}
    (run : machine.Run admits state (first ++ second) final) :
    machine.Run admits state first (first.foldl machine.step state) ∧
      machine.Run admits (first.foldl machine.step state) second final := by
  induction first generalizing state with
  | nil => exact ⟨.nil state, run⟩
  | cons act acts ih =>
      cases run with
      | cons _ admitted rest =>
          obtain ⟨earlier, later⟩ := ih rest
          exact ⟨.cons act admitted earlier, later⟩

/-- Where every act is admitted, so is every run. -/
theorem Run.foldl (free : ∀ state act, admits state act) (acts : List Act) (state : State) :
    machine.Run admits state acts (acts.foldl machine.step state) := by
  induction acts generalizing state with
  | nil => exact .nil state
  | cons act acts ih => exact .cons act (free state act) (ih _)

/-- A run ends where its acts lead. -/
theorem Run.foldl_eq {state final : State} {acts : List Act}
    (run : machine.Run admits state acts final) : final = acts.foldl machine.step state := by
  induction run with
  | nil => rfl
  | cons _ _ _ ih => exact ih

/-- Whether the acts of a run are all admitted, each as it comes. -/
def admitted (machine : Machine State Act) (admits : State → Act → Prop)
    [∀ state act, Decidable (admits state act)] : State → List Act → Bool
  | _, [] => true
  | state, act :: acts =>
      decide (admits state act) && machine.admitted admits (machine.step state act) acts

theorem Run.of_admitted [∀ state act, Decidable (admits state act)] {acts : List Act}
    {state : State} (fits : machine.admitted admits state acts = true) :
    machine.Run admits state acts (acts.foldl machine.step state) := by
  induction acts generalizing state with
  | nil => exact .nil state
  | cons act acts ih =>
      obtain ⟨fit, rest⟩ := Bool.and_eq_true_iff.mp fits
      exact .cons act (of_decide_eq_true fit) (ih rest)

theorem Run.single {state : State} (act : Act) (admitted : admits state act) :
    machine.Run admits state [act] (machine.step state act) :=
  .cons act admitted (.nil _)

theorem Run.mono {state final : State} {acts : List Act} {wider : State → Act → Prop}
    (weakens : ∀ state act, admits state act → wider state act)
    (run : machine.Run admits state acts final) : machine.Run wider state acts final := by
  induction run with
  | nil state => exact .nil state
  | cons act admitted _ ih => exact .cons act (weakens _ act admitted) ih

/-! ## Streaks -/

/-- The acts taken from a state on, so many of them of the counted kind, each of which
fits the state it is taken in. -/
inductive Streak (machine : Machine State Act) (counted : Act → Prop)
    (fits : State → Act → Prop) (before : State) : Nat → List Act → State → Prop
  | nil : Streak machine counted fits before 0 [] before
  | counts {count : Nat} {acts : List Act} {state : State} (act : Act) (kind : counted act)
      (fit : fits state act) (streak : Streak machine counted fits before count acts state) :
      Streak machine counted fits before (count + 1) (acts ++ [act]) (machine.step state act)
  | skips {count : Nat} {acts : List Act} {state : State} (act : Act) (other : ¬counted act)
      (streak : Streak machine counted fits before count acts state) :
      Streak machine counted fits before count (acts ++ [act]) (machine.step state act)

/-- Of a run's acts of the counted kind, the last so many each fitted the state it was
taken in. -/
def Lately (machine : Machine State Act) (counted : Act → Prop) (fits : State → Act → Prop)
    (start : State) (count : Nat) (acts : List Act) (state : State) : Prop :=
  ∃ earlier recent before, acts = earlier ++ recent ∧
    machine.Run (fun _ _ => True) start earlier before ∧
    machine.Streak counted fits before count recent state

variable {counted : Act → Prop} {fits : State → Act → Prop} {count : Nat}

theorem Lately.nil {start state : State} {acts : List Act}
    (run : machine.Run (fun _ _ => True) start acts state) :
    machine.Lately counted fits start 0 acts state :=
  ⟨acts, [], state, (List.append_nil _).symm, run, .nil⟩

theorem Lately.counts {start state : State} {acts : List Act}
    (lately : machine.Lately counted fits start count acts state) (act : Act)
    (kind : counted act) (fit : fits state act) :
    machine.Lately counted fits start (count + 1) (acts ++ [act]) (machine.step state act) := by
  obtain ⟨earlier, recent, before, rfl, run, streak⟩ := lately
  exact ⟨earlier, recent ++ [act], before, List.append_assoc _ _ _, run, .counts act kind fit streak⟩

theorem Lately.skips {start state : State} {acts : List Act}
    (lately : machine.Lately counted fits start count acts state) (act : Act)
    (other : ¬counted act) :
    machine.Lately counted fits start count (acts ++ [act]) (machine.step state act) := by
  obtain ⟨earlier, recent, before, rfl, run, streak⟩ := lately
  exact ⟨earlier, recent ++ [act], before, List.append_assoc _ _ _, run, .skips act other streak⟩

theorem Streak.mono {before state : State} {acts : List Act} {wider : State → Act → Prop}
    (weakens : ∀ state act, fits state act → wider state act)
    (streak : machine.Streak counted fits before count acts state) :
    machine.Streak counted wider before count acts state := by
  induction streak with
  | nil => exact .nil
  | counts act kind fit _ ih => exact .counts act kind (weakens _ act fit) ih
  | skips act other _ ih => exact .skips act other ih

theorem Lately.mono {start state : State} {acts : List Act} {wider : State → Act → Prop}
    (weakens : ∀ state act, fits state act → wider state act)
    (lately : machine.Lately counted fits start count acts state) :
    machine.Lately counted wider start count acts state := by
  obtain ⟨earlier, recent, before, split, run, streak⟩ := lately
  exact ⟨earlier, recent, before, split, run, streak.mono weakens⟩

theorem Streak.run {before state : State} {acts : List Act}
    (streak : machine.Streak counted fits before count acts state) :
    machine.Run (fun _ _ => True) before acts state := by
  induction streak with
  | nil => exact .nil _
  | counts act _ _ _ ih => exact ih.append (.single act trivial)
  | skips act _ _ ih => exact ih.append (.single act trivial)

/-- The last act of a run, where it is of the counted kind, fitted. -/
theorem Lately.last {start final : State} {acts : List Act} {act : Act} (kind : counted act)
    (lately : machine.Lately counted fits start (count + 1) (acts ++ [act]) final) :
    ∃ state, machine.Run (fun _ _ => True) start acts state ∧ fits state act := by
  obtain ⟨earlier, recent, before, split, run, streak⟩ := lately
  cases streak with
  | @counts _ recent state last kind fit streak =>
      rw [← List.append_assoc] at split
      obtain ⟨rfl, same⟩ := List.append_inj' split rfl
      cases same
      exact ⟨state, run.append streak.run, fit⟩
  | @skips _ recent state last other streak =>
      rw [← List.append_assoc] at split
      obtain ⟨rfl, same⟩ := List.append_inj' split rfl
      cases same
      exact absurd kind other

end Machine
