import GpsClock.Lib.Machine

/-! # One machine seen as another

A machine is simulated by another under a view of its states when each admitted step is
seen as an admitted run of the other, by a block of acts that the step's own is seen as. A
whole run is seen as its acts' blocks one after another then (`Machine.Simulation.run`),
and a reachable state as a reachable one (`Machine.Simulation.reachable`), so what is proved
of the one holds of the other as it is seen.
-/

universe u v

namespace Machine

variable {State Seen : Type u} {Act SeenAct : Type v}

structure Simulation (machine : Machine State Act) (admits : State → Act → Prop)
    (seen : Machine Seen SeenAct) (seenAdmits : Seen → SeenAct → Prop) (view : State → Seen)
    (sees : Act → List SeenAct → Prop) : Prop where
  start : ∀ state, machine.start state → seen.start (view state)
  step : ∀ state act, admits state act →
    ∃ block, sees act block ∧ seen.Run seenAdmits (view state) block (view (machine.step state act))

variable {machine : Machine State Act} {admits : State → Act → Prop}
  {seen : Machine Seen SeenAct} {seenAdmits : Seen → SeenAct → Prop} {view : State → Seen}
  {sees : Act → List SeenAct → Prop}

theorem Simulation.run (simulation : Simulation machine admits seen seenAdmits view sees)
    {state final : State} {acts : List Act} (run : machine.Run admits state acts final) :
    ∃ blocks, List.Forall₂ sees acts blocks ∧
      seen.Run seenAdmits (view state) blocks.flatten (view final) := by
  induction run with
  | nil state => exact ⟨[], .nil, .nil _⟩
  | cons act admitted _ ih =>
      obtain ⟨block, same, taken⟩ := simulation.step _ act admitted
      obtain ⟨blocks, sameRest, later⟩ := ih
      refine ⟨block :: blocks, .cons same sameRest, ?_⟩
      rw [List.flatten_cons]
      exact taken.append later

theorem Simulation.reachable (simulation : Simulation machine admits seen seenAdmits view sees)
    {state : State} (reached : machine.Reachable admits state) :
    seen.Reachable seenAdmits (view state) := by
  induction reached with
  | start initial => exact .start (simulation.start _ initial)
  | step _ act admitted ih =>
      obtain ⟨block, -, taken⟩ := simulation.step _ act admitted
      exact ih.run taken

end Machine
