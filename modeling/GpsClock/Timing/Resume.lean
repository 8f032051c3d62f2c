import GpsClock.Timing.Slots

/-! # A stall within an epoch

A flash operation holds the interrupts off for many slots (`run_operation`), and
`epoch_timer_resume` then makes up the boundaries missed from where T2/T3 stands. Within an
epoch that leaves the timer as serving each boundary when it came would have
(`StallTimer.stall_slots`), so that over any run with stalls each epoch's slot work is done
once, in order, and each of its milliseconds counted once (`StallRun.stalls_unseen`).
-/

namespace GpsClock.Timing

/-- `EPOCH_PULSE_PROBE_SLOT`. -/
def epochPulseProbeSlot : BitVec 16 := 50

/-- `EPOCH_PULSE_END_SLOT`. -/
def epochPulseEndSlot : BitVec 16 := 100

/-- What is done at a slot: the measurement made due, `epoch_output_probe`, and
`epoch_output_end`. -/
inductive SlotWork
  | measure
  | probe
  | finish
  deriving DecidableEq, Repr

/-- `advance_slot`'s switch. -/
def slotWork (currentSlot : BitVec 16) : List SlotWork :=
  if currentSlot = epochMeasureSlot then [.measure]
  else if currentSlot = epochPulseProbeSlot then [.probe]
  else if currentSlot = epochPulseEndSlot then [.finish]
  else []

/-- The epoch timer, T2/T3 running, with the work done since its latest epoch. -/
structure StallTimer where
  slots : SlotTimer := {}
  work : List SlotWork := []
  resumedSlots : BitVec 32 := 0
  resumeSpans : BitVec 32 := 0
  deriving DecidableEq, Repr

namespace StallTimer

def pass (timer : StallTimer) (ticks : Nat) : StallTimer :=
  { timer with slots := timer.slots.pass ticks }

/-- `_T3Interrupt`; the work of another epoch begins. -/
def epochInterrupt (timer : StallTimer) : StallTimer :=
  { timer with slots := timer.slots.epochInterrupt, work := [] }

/-- `advance_slot`. -/
def advanceSlot (timer : StallTimer) : StallTimer :=
  { timer with
    slots := timer.slots.advanceSlot
    work := timer.work ++ slotWork timer.slots.advanceSlot.currentSlot }

/-- `_T4Interrupt`. -/
def slotInterrupt (timer : StallTimer) : StallTimer :=
  { timer with slots := { timer.slots with boundaryPending := false } }.advanceSlot

/-- `epoch_timer_resume`'s loop; as many turns as the slot's number are enough. -/
def advanceTo (slot : BitVec 32) : Nat → StallTimer → StallTimer
  | 0, timer => timer
  | turns + 1, timer =>
      if timer.slots.currentSlot.setWidth 32 < slot ∧
          timer.slots.currentSlot < BitVec.allOnes 16 then
        advanceTo slot turns timer.advanceSlot
      else timer

/-- `epoch_timer_resume`. -/
def resume (timer : StallTimer) : StallTimer :=
  if timer.slots.epochPending then { timer with resumeSpans := timer.resumeSpans + 1 }
  else
    let sinceEpoch := BitVec.ofNat 32 timer.slots.elapsed
    let slot := sinceEpoch / 40000
    let current := timer.slots.currentSlot.setWidth 32
    let timer :=
      { timer with
        resumedSlots := timer.resumedSlots + if current < slot then slot - current else 0 }
    let timer := advanceTo slot slot.toNat timer
    { timer with
      slots := { timer.slots with
        slotTicks := (sinceEpoch % 40000).setWidth 16
        boundaryPending := false } }

/-- `run_operation`: cycles pass with interrupts held off. -/
def stall (timer : StallTimer) (ticks : Nat) : StallTimer :=
  (timer.pass ticks).resume

/-- A pending boundary is served at once. -/
def serve (timer : StallTimer) : StallTimer :=
  if timer.slots.boundaryPending then timer.slotInterrupt else timer

/-- The same cycles with no stall: every boundary is served as it comes. -/
def undisturbed (timer : StallTimer) : Nat → StallTimer
  | 0 => timer.serve
  | ticks + 1 => ((undisturbed timer ticks).pass 1).serve

end StallTimer

/-- The timer, the milliseconds counted as each epoch was served and the work of each epoch
that is over: the latest first. -/
structure StallRun where
  timer : StallTimer := {}
  marks : List (BitVec 32) := []
  epochs : List (List SlotWork) := []
  deriving DecidableEq, Repr

/-- Cycles pass, or pass in a stall; an interrupt is served, or a period is asked for. -/
inductive StallAct
  | pass (ticks : Nat)
  | stall (ticks : Nat)
  | slot
  | epoch
  | request (periodTicks : BitVec 32)
  deriving DecidableEq, Repr

namespace StallRun

def act (run : StallRun) : StallAct → StallRun
  | .pass ticks => { run with timer := run.timer.pass ticks }
  | .stall ticks => { run with timer := run.timer.stall ticks }
  | .slot => { run with timer := run.timer.slotInterrupt }
  | .epoch =>
      let timer := run.timer.epochInterrupt
      { timer := timer
        marks := timer.slots.milliseconds :: run.marks
        epochs :=
          if run.timer.slots.schedulerRunning then run.timer.work :: run.epochs else run.epochs }
  | .request periodTicks =>
      { run with timer := { run.timer with slots := { run.timer.slots with
          timer := run.timer.slots.timer.setPeriod periodTicks } } }

def machine : Machine StallRun StallAct where
  start := fun run => run = {}
  step := act

/-- A period that `compute_step` allows: from half a second to one and a half. -/
def Sane (periodTicks : BitVec 32) : Prop :=
  20000000 ≤ periodTicks.toNat ∧ periodTicks.toNat ≤ 60000000

/-- A stall does not reach the next epoch. Otherwise neither interrupt is held off for a
millisecond, and the epoch's comes before that of a boundary after it. -/
def Admits (run : StallRun) : StallAct → Prop
  | .pass ticks =>
      (if run.timer.slots.epochPending then run.timer.slots.elapsed + ticks < 40000
        else run.timer.slots.elapsed + ticks < run.timer.slots.timer.running.toNat + 40000) ∧
      (run.timer.slots.slotsOn = true →
        if run.timer.slots.boundaryPending then run.timer.slots.slotTicks.toNat + ticks < 40000
        else run.timer.slots.slotTicks.toNat + ticks < 80000)
  | .stall ticks =>
      run.timer.slots.epochPending = false ∧
        run.timer.slots.elapsed + ticks < run.timer.slots.timer.running.toNat
  | .slot =>
      run.timer.slots.boundaryPending = true ∧
        (run.timer.slots.epochPending = true →
          run.timer.slots.elapsed ≤ run.timer.slots.slotTicks.toNat)
  | .epoch => run.timer.slots.epochPending = true
  | .request periodTicks => Sane periodTicks

instance (run : StallRun) : ∀ act, Decidable (Admits run act)
  | .pass _ => inferInstanceAs (Decidable (_ ∧ _))
  | .stall _ => inferInstanceAs (Decidable (_ ∧ _))
  | .slot => inferInstanceAs (Decidable (_ ∧ _))
  | .epoch => inferInstanceAs (Decidable (_ = _))
  | .request _ => inferInstanceAs (Decidable (_ ∧ _))

end StallRun

/-! ## The work of the slots -/

/-- The work of so many slots after one. -/
def workAfter (slot count : Nat) : List SlotWork :=
  (List.range' (slot + 1) count).flatMap fun later => slotWork (BitVec.ofNat 16 later)

theorem workAfter_append (slot first second : Nat) :
    workAfter slot first ++ workAfter (slot + first) second = workAfter slot (first + second) := by
  rw [workAfter, workAfter, workAfter, ← List.flatMap_append, ← List.range'_append_1]
  congr 3
  omega

theorem workAfter_one (slot : Nat) : workAfter slot 1 = slotWork (BitVec.ofNat 16 (slot + 1)) := by
  rw [workAfter, List.range'_one, List.flatMap_singleton]

/-- Past the end of the pulse there is no more. -/
theorem slotWork_late {slot : Nat} (late : 100 < slot) (room : slot < 65536) :
    slotWork (BitVec.ofNat 16 slot) = [] := by
  have other : ∀ named : BitVec 16, named.toNat ≤ 100 → BitVec.ofNat 16 slot ≠ named := by
    rintro named small rfl
    rw [BitVec.toNat_ofNat, Nat.mod_eq_of_lt room] at small
    omega
  rw [slotWork, if_neg (other _ (by decide)), if_neg (other _ (by decide)),
    if_neg (other _ (by decide))]

/-- By the end of the pulse each is done once, in order. -/
theorem workAfter_whole (more : Nat) (room : 100 + more < 65536) :
    workAfter 0 (100 + more) = [.measure, .probe, .finish] := by
  induction more with
  | zero => decide
  | succ more ih =>
      have rest := workAfter_append 0 (100 + more) 1
      rw [Nat.zero_add, workAfter_one, slotWork_late (by omega) (by omega), List.append_nil,
        ih (by omega)] at rest
      exact rest.symm

/-! ## Boundaries made up -/

namespace StallTimer

/-- What the counters have no part in. -/
def core (timer : StallTimer) : SlotTimer × List SlotWork :=
  ({ timer.slots with elapsed := 0, slotTicks := 0, boundaryPending := false }, timer.work)

/-- `advance_slot` on it. -/
def made (moment : SlotTimer × List SlotWork) : SlotTimer × List SlotWork :=
  (moment.1.advanceSlot, moment.2 ++ slotWork moment.1.advanceSlot.currentSlot)

theorem core_advanceSlot (timer : StallTimer) : timer.advanceSlot.core = made timer.core :=
  rfl

theorem core_slotInterrupt (timer : StallTimer) : timer.slotInterrupt.core = made timer.core :=
  rfl

/-- The rest is the counters. -/
theorem eq_of_core {first second : StallTimer} (core : first.core = second.core)
    (elapsed : first.slots.elapsed = second.slots.elapsed)
    (ticks : first.slots.slotTicks = second.slots.slotTicks)
    (pending : first.slots.boundaryPending = second.slots.boundaryPending) :
    first.slots = second.slots ∧ first.work = second.work := by
  obtain ⟨slots, work⟩ := Prod.mk.inj core
  refine ⟨?_, work⟩
  have restored : { first.core.1 with
      elapsed := first.slots.elapsed
      slotTicks := first.slots.slotTicks
      boundaryPending := first.slots.boundaryPending } = first.slots := rfl
  rw [← restored, core, elapsed, ticks, pending]
  rfl

/-- So many boundaries after a moment. -/
structure Made (moment later : SlotTimer × List SlotWork) (count : Nat) : Prop where
  timer : later.1.timer = moment.1.timer
  epochPending : later.1.epochPending = moment.1.epochPending
  on : later.1.slotsOn = moment.1.slotsOn
  running : later.1.schedulerRunning = moment.1.schedulerRunning
  current : later.1.currentSlot.toNat = moment.1.currentSlot.toNat + count
  milliseconds : later.1.milliseconds = moment.1.milliseconds + BitVec.ofNat 32 count
  work : later.2 = moment.2 ++ workAfter moment.1.currentSlot.toNat count

theorem advanceSlot_current {timer : SlotTimer} (room : timer.currentSlot.toNat < 65535) :
    timer.advanceSlot.currentSlot.toNat = timer.currentSlot.toNat + 1 := by
  have below : timer.currentSlot < BitVec.allOnes 16 := room
  rw [SlotTimer.advanceSlot]
  dsimp only
  rw [if_pos below, BitVec.toNat_add]
  change (timer.currentSlot.toNat + 1) % 2 ^ 16 = _
  apply Nat.mod_eq_of_lt
  omega

theorem made_iterate (moment : SlotTimer × List SlotWork) (count : Nat)
    (room : moment.1.currentSlot.toNat + count ≤ 65535) : Made moment (made^[count] moment) count := by
  induction count with
  | zero =>
      refine ⟨rfl, rfl, rfl, rfl, rfl, (BitVec.add_zero _).symm, ?_⟩
      exact (List.append_nil _).symm
  | succ count ih =>
      have before := ih (by omega)
      rw [Function.iterate_succ_apply']
      have next := @advanceSlot_current (made^[count] moment).1 (by rw [before.current]; omega)
      rw [before.current] at next
      refine ⟨before.timer, before.epochPending, before.on, before.running, next, ?_, ?_⟩
      · change (made^[count] moment).1.milliseconds + 1 = _
        rw [before.milliseconds, BitVec.add_assoc, BitVec.ofNat_add]
        rfl
      · change (made^[count] moment).2 ++ slotWork (made^[count] moment).1.advanceSlot.currentSlot = _
        have slot : (made^[count] moment).1.advanceSlot.currentSlot =
            BitVec.ofNat 16 (moment.1.currentSlot.toNat + count + 1) := by
          rw [← next, BitVec.ofNat_toNat, BitVec.setWidth_eq]
        rw [slot, ← workAfter_one, before.work, List.append_assoc, workAfter_append]

/-- A moment of the epoch a timer is in, every boundary up to it served. -/
structure ServedAt (timer later : StallTimer) (moment : Nat) : Prop where
  core : later.core = made^[moment / 40000 - timer.slots.currentSlot.toNat] timer.core
  elapsed : later.slots.elapsed = moment
  ticks : later.slots.slotTicks = BitVec.ofNat 16 (moment % 40000)
  pending : later.slots.boundaryPending = false

/-- Whatever serves every boundary leaves the same. -/
theorem ServedAt.same {timer first second : StallTimer} {moment : Nat}
    (left : ServedAt timer first moment) (right : ServedAt timer second moment) :
    first.slots = second.slots ∧ first.work = second.work :=
  eq_of_core (left.core.trans right.core.symm) (left.elapsed.trans right.elapsed.symm)
    (left.ticks.trans right.ticks.symm) (left.pending.trans right.pending.symm)

variable {timer : StallTimer}

/-- An epoch in phase, its own interrupt not due. -/
structure Within (timer : StallTimer) : Prop where
  phased : timer.slots.Phased
  waiting : timer.slots.epochPending = false
  short : timer.slots.timer.running.toNat ≤ 60000000

theorem Within.phase (within : timer.Within) :
    timer.slots.elapsed = 40000 * timer.slots.latestSlot + timer.slots.slotTicks.toNat := by
  have phase := within.phased.phase
  rwa [SlotTimer.sinceEpoch, within.waiting, if_neg Bool.false_ne_true] at phase

theorem Within.made (within : timer.Within) {elapsed : Nat}
    (after : timer.slots.elapsed ≤ elapsed)
    (inside : elapsed < timer.slots.timer.running.toNat) :
    Made timer.core (StallTimer.made^[elapsed / 40000 - timer.slots.currentSlot.toNat] timer.core)
        (elapsed / 40000 - timer.slots.currentSlot.toNat) ∧
      timer.slots.currentSlot.toNat + (elapsed / 40000 - timer.slots.currentSlot.toNat) =
        elapsed / 40000 := by
  have phase := within.phase
  have short := within.short
  rw [SlotTimer.latestSlot] at phase
  have total : timer.slots.currentSlot.toNat +
      (elapsed / 40000 - timer.slots.currentSlot.toNat) = elapsed / 40000 := by omega
  refine ⟨made_iterate _ _ ?_, total⟩
  change timer.slots.currentSlot.toNat + _ ≤ _
  omega

/-- A boundary pending is the only one not served. -/
theorem serve_servedAt (within : timer.Within) :
    ServedAt timer timer.serve timer.slots.elapsed := by
  have phase := within.phase
  have ticks := within.phased.ticks
  rw [SlotTimer.latestSlot] at phase
  have rest : timer.slots.elapsed % 40000 = timer.slots.slotTicks.toNat := by omega
  have counter : timer.slots.slotTicks = BitVec.ofNat 16 (timer.slots.elapsed % 40000) := by
    rw [rest, BitVec.ofNat_toNat, BitVec.setWidth_eq]
  rw [serve]
  cases pending : timer.slots.boundaryPending with
  | true =>
      rw [pending, if_pos rfl] at phase
      have one : timer.slots.elapsed / 40000 - timer.slots.currentSlot.toNat = 1 := by omega
      rw [if_pos rfl]
      refine ⟨?_, rfl, counter, rfl⟩
      rw [one]
      exact core_slotInterrupt timer
  | false =>
      rw [pending, if_neg Bool.false_ne_true] at phase
      have none : timer.slots.elapsed / 40000 - timer.slots.currentSlot.toNat = 0 := by omega
      rw [if_neg Bool.false_ne_true]
      refine ⟨?_, rfl, counter, pending⟩
      rw [none]
      rfl

/-- Cycles that do not reach the next epoch. -/
theorem pass_within (waiting : timer.slots.epochPending = false) {ticks : Nat}
    (inside : timer.slots.elapsed + ticks < timer.slots.timer.running.toNat) :
    (timer.pass ticks).core = timer.core ∧
      (timer.pass ticks).slots.epochPending = false ∧
      (timer.pass ticks).slots.elapsed = timer.slots.elapsed + ticks := by
  have still : (timer.slots.pass ticks).epochPending = timer.slots.epochPending := by
    change (timer.slots.epochPending || decide (_ ≤ _)) = _
    rw [decide_eq_false (Nat.not_le_of_lt inside), Bool.or_false]
  refine ⟨?_, still.trans waiting, Nat.mod_eq_of_lt inside⟩
  change (({ timer.core.1 with epochPending := (timer.slots.pass ticks).epochPending }, timer.work) :
    SlotTimer × List SlotWork) = _
  rw [still]
  rfl

/-- With no stall every boundary is served, at whatever moment of the epoch. -/
theorem undisturbed_servedAt (within : timer.Within) (ticks : Nat)
    (inside : timer.slots.elapsed + ticks < timer.slots.timer.running.toNat) :
    ServedAt timer (timer.undisturbed ticks) (timer.slots.elapsed + ticks) := by
  induction ticks with
  | zero => exact serve_servedAt within
  | succ ticks ih =>
      have before := ih (by omega)
      obtain ⟨made, current⟩ := within.made (Nat.le_add_right timer.slots.elapsed ticks) (by omega)
      obtain ⟨-, next⟩ := within.made (Nat.le_add_right timer.slots.elapsed (ticks + 1)) inside
      rw [← before.core] at made
      have waiting : (timer.undisturbed ticks).slots.epochPending = false :=
        made.epochPending.trans within.waiting
      have on : (timer.undisturbed ticks).slots.slotsOn = true := made.on.trans within.phased.on
      have period : (timer.undisturbed ticks).slots.timer = timer.slots.timer := made.timer
      obtain ⟨core, -, elapsed⟩ := @pass_within (timer.undisturbed ticks) waiting 1 (by
        rw [before.elapsed, period]
        exact inside)
      rw [before.elapsed] at elapsed
      have counted : (timer.undisturbed ticks).slots.slotTicks.toNat =
          (timer.slots.elapsed + ticks) % 40000 := by
        rw [before.ticks, BitVec.toNat_ofNat]
        apply Nat.mod_eq_of_lt
        omega
      have ticked : ((timer.undisturbed ticks).pass 1).slots.slotTicks =
          BitVec.ofNat 16 ((timer.slots.elapsed + (ticks + 1)) % 40000) := by
        change (if (timer.undisturbed ticks).slots.slotsOn then _ else _) = _
        rw [if_pos on, counted, ← Nat.add_assoc, Nat.mod_add_mod]
      have boundary : ((timer.undisturbed ticks).pass 1).slots.boundaryPending =
          decide (40000 ≤ (timer.slots.elapsed + ticks) % 40000 + 1) := by
        change ((timer.undisturbed ticks).slots.boundaryPending ||
          ((timer.undisturbed ticks).slots.slotsOn && _)) = _
        rw [before.pending, on, Bool.false_or, Bool.true_and, counted]
      rw [undisturbed, serve, boundary]
      by_cases passed : 40000 ≤ (timer.slots.elapsed + ticks) % 40000 + 1
      · rw [decide_eq_true passed, if_pos rfl]
        refine ⟨?_, elapsed, ticked, rfl⟩
        have more : (timer.slots.elapsed + (ticks + 1)) / 40000 - timer.slots.currentSlot.toNat =
            (timer.slots.elapsed + ticks) / 40000 - timer.slots.currentSlot.toNat + 1 := by omega
        rw [core_slotInterrupt, core, before.core, more, Function.iterate_succ_apply']
      · rw [decide_eq_false passed, if_neg Bool.false_ne_true]
        refine ⟨?_, elapsed, ticked, ?_⟩
        · have same : (timer.slots.elapsed + (ticks + 1)) / 40000 =
              (timer.slots.elapsed + ticks) / 40000 := by omega
          rw [core, before.core, same]
        · rw [boundary, decide_eq_false passed]

/-- The loop makes up the boundaries missed, and leaves the counters. -/
theorem advanceTo_made (slot : BitVec 32) (turns : Nat) (timer : StallTimer)
    (enough : slot.toNat ≤ timer.slots.currentSlot.toNat + turns) (room : slot.toNat ≤ 65535) :
    (advanceTo slot turns timer).core =
        made^[slot.toNat - timer.slots.currentSlot.toNat] timer.core ∧
      (advanceTo slot turns timer).slots.elapsed = timer.slots.elapsed := by
  induction turns generalizing timer with
  | zero =>
      have reached : slot.toNat ≤ timer.slots.currentSlot.toNat := enough
      rw [Nat.sub_eq_zero_of_le reached]
      exact ⟨rfl, rfl⟩
  | succ turns ih =>
      have wide : (timer.slots.currentSlot.setWidth 32).toNat = timer.slots.currentSlot.toNat := by
        rw [BitVec.toNat_setWidth]
        apply Nat.mod_eq_of_lt
        exact timer.slots.currentSlot.isLt.trans (by decide)
      rw [advanceTo]
      by_cases behind : timer.slots.currentSlot.toNat < slot.toNat
      · have both : timer.slots.currentSlot.setWidth 32 < slot ∧
            timer.slots.currentSlot < BitVec.allOnes 16 := by
          rw [BitVec.lt_def, BitVec.lt_def, wide]
          exact ⟨behind, behind.trans_le room⟩
        have next : timer.advanceSlot.slots.currentSlot.toNat =
            timer.slots.currentSlot.toNat + 1 := advanceSlot_current (behind.trans_le room)
        obtain ⟨core, elapsed⟩ := ih timer.advanceSlot (by omega)
        rw [if_pos both, core, elapsed, core_advanceSlot, ← Function.iterate_succ_apply]
        refine ⟨?_, rfl⟩
        congr 1
        omega
      · have reached : ¬(timer.slots.currentSlot.setWidth 32 < slot ∧
            timer.slots.currentSlot < BitVec.allOnes 16) := by
          rw [BitVec.lt_def, wide]
          exact fun both => behind both.1
        rw [if_neg reached, Nat.sub_eq_zero_of_le (Nat.not_lt.mp behind)]
        exact ⟨rfl, rfl⟩

/-- After a stall every boundary has been served, each once. -/
theorem stall_servedAt (waiting : timer.slots.epochPending = false)
    (short : timer.slots.timer.running.toNat ≤ 60000000) {ticks : Nat}
    (inside : timer.slots.elapsed + ticks < timer.slots.timer.running.toNat) :
    ServedAt timer (timer.stall ticks) (timer.slots.elapsed + ticks) := by
  obtain ⟨core, still, elapsed⟩ := pass_within waiting inside
  have since : (BitVec.ofNat 32 (timer.pass ticks).slots.elapsed).toNat =
      timer.slots.elapsed + ticks := by
    rw [elapsed, BitVec.toNat_ofNat]
    apply Nat.mod_eq_of_lt
    omega
  have slot : (BitVec.ofNat 32 (timer.pass ticks).slots.elapsed / 40000).toNat =
      (timer.slots.elapsed + ticks) / 40000 := by
    rw [BitVec.toNat_udiv, since]
    rfl
  have ticked : (BitVec.ofNat 32 (timer.pass ticks).slots.elapsed % 40000).setWidth 16 =
      BitVec.ofNat 16 ((timer.slots.elapsed + ticks) % 40000) := by
    apply BitVec.eq_of_toNat_eq
    rw [BitVec.toNat_setWidth, BitVec.toNat_umod, since, BitVec.toNat_ofNat]
    rfl
  obtain ⟨madeUp, counter⟩ := advanceTo_made
    (BitVec.ofNat 32 (timer.pass ticks).slots.elapsed / 40000)
    (BitVec.ofNat 32 (timer.pass ticks).slots.elapsed / 40000).toNat
    { timer.pass ticks with
      resumedSlots := (timer.pass ticks).resumedSlots +
        if (timer.pass ticks).slots.currentSlot.setWidth 32 <
            BitVec.ofNat 32 (timer.pass ticks).slots.elapsed / 40000
        then BitVec.ofNat 32 (timer.pass ticks).slots.elapsed / 40000 -
          (timer.pass ticks).slots.currentSlot.setWidth 32 else 0 }
    (Nat.le_add_left _ _) (by omega)
  rw [stall, resume, still, if_neg Bool.false_ne_true]
  refine ⟨?_, counter.trans elapsed, ticked, rfl⟩
  refine madeUp.trans ?_
  rw [slot]
  exact congrArg _ core

theorem stall_made (waiting : timer.slots.epochPending = false)
    (short : timer.slots.timer.running.toNat ≤ 60000000) {ticks : Nat}
    (inside : timer.slots.elapsed + ticks < timer.slots.timer.running.toNat) :
    Made timer.core (timer.stall ticks).core
      ((timer.slots.elapsed + ticks) / 40000 - timer.slots.currentSlot.toNat) := by
  have within := timer.slots.currentSlot.isLt
  rw [(stall_servedAt waiting short inside).core]
  apply made_iterate
  change timer.slots.currentSlot.toNat + _ ≤ _
  omega

/-- **A stall within an epoch is as if it had not been.** -/
theorem stall_slots (within : timer.Within) {ticks : Nat}
    (inside : timer.slots.elapsed + ticks < timer.slots.timer.running.toNat) :
    (timer.stall ticks).slots = (timer.undisturbed ticks).slots ∧
      (timer.stall ticks).work = (timer.undisturbed ticks).work :=
  (stall_servedAt within.waiting within.short inside).same (undisturbed_servedAt within ticks inside)

end StallTimer

/-! ## Runs with stalls -/

namespace StallRun

/-- What every run keeps: the periods are sane, each epoch over had its work done, and the
scheduler is not started yet, or in phase, its count that of the epoch and the slots served
since, whose work is done. -/
structure Kept (run : StallRun) : Prop where
  period : Sane run.timer.slots.timer.running
  asked : ∀ periodTicks ∈ run.timer.slots.timer.requested, Sane periodTicks
  epochs : ∀ work ∈ run.epochs, work = [SlotWork.measure, .probe, .finish]
  below : run.timer.slots.elapsed < run.timer.slots.timer.running.toNat
  prompt : run.timer.slots.epochPending = true → run.timer.slots.elapsed < 40000
  started : (run.timer.slots.schedulerRunning = false ∧ run.timer.slots.slotsOn = false ∧
      run.timer.slots.boundaryPending = false ∧ run.marks = []) ∨
    run.timer.slots.Phased ∧ run.timer.work = workAfter 0 run.timer.slots.currentSlot.toNat ∧
      ∃ mark, run.marks.head? = some mark ∧ run.timer.slots.milliseconds =
        mark + BitVec.ofNat 32 run.timer.slots.currentSlot.toNat

variable {run : StallRun}

theorem Sane.loaded {periodTicks : BitVec 32} (sane : Sane periodTicks) :
    loadPeriod periodTicks = periodTicks := by
  have some : periodTicks ≠ 0 := by
    rintro rfl
    exact absurd sane.1 (by decide : ¬20000000 ≤ (0 : BitVec 32).toNat)
  rw [loadPeriod, if_neg some]

theorem Kept.second (kept : run.Kept) : 40000 ≤ run.timer.slots.timer.running.toNat :=
  le_trans (by decide) kept.period.1

theorem Kept.pass (kept : run.Kept) {ticks : Nat} (admitted : Admits run (.pass ticks)) :
    { run with timer := run.timer.pass ticks }.Kept := by
  obtain ⟨prompt, served⟩ := admitted
  obtain ⟨-, below, epoch⟩ := SlotTimer.pass_epoch kept.below kept.second prompt
  refine ⟨kept.period, kept.asked, kept.epochs, below, fun pending => (epoch pending).1, ?_⟩
  rcases kept.started with ⟨idle, off, none, empty⟩ | ⟨phased, counted⟩
  · refine .inl ⟨idle, off, ?_, empty⟩
    change (run.timer.slots.boundaryPending || (run.timer.slots.slotsOn && _)) = false
    rw [none, off]
    rfl
  · exact .inr ⟨phased.pass kept.second prompt (served phased.on), counted⟩

/-- Fewer slots are served than the longest epoch has. -/
theorem Kept.short (kept : run.Kept) : run.timer.slots.sinceEpoch < 40000 * 65535 := by
  have below := kept.below
  have high := kept.period.2
  have prompt := kept.prompt
  rw [SlotTimer.sinceEpoch]
  split
  · rename_i waiting
    have late := prompt waiting
    omega
  · omega

theorem Kept.slot (kept : run.Kept) (admitted : Admits run .slot) :
    { run with timer := run.timer.slotInterrupt }.Kept := by
  obtain ⟨pending, before⟩ := admitted
  refine ⟨kept.period, kept.asked, kept.epochs, kept.below, kept.prompt, ?_⟩
  rcases kept.started with ⟨-, -, none, -⟩ | ⟨phased, work, mark, head, counted⟩
  · rw [pending] at none
    cases none
  · obtain ⟨still, next, more⟩ := phased.slot kept.short pending before
    refine .inr ⟨still, ?_, mark, head, ?_⟩
    · change run.timer.work ++ slotWork run.timer.slots.slotInterrupt.currentSlot = _
      have slot : run.timer.slots.slotInterrupt.currentSlot =
          BitVec.ofNat 16 (0 + run.timer.slots.currentSlot.toNat + 1) := by
        rw [Nat.zero_add, ← next, BitVec.ofNat_toNat, BitVec.setWidth_eq]
      rw [slot, ← workAfter_one, work, workAfter_append]
      exact congrArg _ next.symm
    · change run.timer.slots.slotInterrupt.milliseconds =
        mark + BitVec.ofNat 32 run.timer.slots.slotInterrupt.currentSlot.toNat
      rw [next, more, counted, BitVec.ofNat_add, add_assoc]
      rfl

theorem Kept.within (kept : run.Kept) (phased : run.timer.slots.Phased)
    (waiting : run.timer.slots.epochPending = false) : run.timer.Within :=
  ⟨phased, waiting, kept.period.2⟩

theorem Kept.stall (kept : run.Kept) {ticks : Nat} (admitted : Admits run (.stall ticks)) :
    { run with timer := run.timer.stall ticks }.Kept := by
  obtain ⟨waiting, inside⟩ := admitted
  have high := kept.period.2
  have after := StallTimer.stall_servedAt waiting high inside
  have made := StallTimer.stall_made waiting high inside
  have timer : (run.timer.stall ticks).slots.timer = run.timer.slots.timer := made.timer
  have still : (run.timer.stall ticks).slots.epochPending = false :=
    made.epochPending.trans waiting
  have below : (run.timer.stall ticks).slots.elapsed <
      (run.timer.stall ticks).slots.timer.running.toNat := by
    rw [after.elapsed, timer]
    exact inside
  refine ⟨?_, ?_, kept.epochs, below, fun wrong => ?_, ?_⟩
  · dsimp only
    rw [timer]
    exact kept.period
  · dsimp only
    rw [timer]
    exact kept.asked
  · rw [still] at wrong
    cases wrong
  · rcases kept.started with ⟨idle, off, -, empty⟩ | ⟨phased, work, mark, head, counted⟩
    · exact .inl ⟨made.running.trans idle, made.on.trans off, after.pending, empty⟩
    · obtain ⟨-, current⟩ := (kept.within phased waiting).made
        (Nat.le_add_right run.timer.slots.elapsed ticks) inside
      have slot : (run.timer.stall ticks).slots.currentSlot.toNat =
          run.timer.slots.currentSlot.toNat +
            ((run.timer.slots.elapsed + ticks) / 40000 - run.timer.slots.currentSlot.toNat) :=
        made.current
      have counter : (run.timer.stall ticks).slots.slotTicks.toNat =
          (run.timer.slots.elapsed + ticks) % 40000 := by
        rw [after.ticks, BitVec.toNat_ofNat]
        apply Nat.mod_eq_of_lt
        omega
      refine .inr ⟨⟨made.running.trans phased.running, made.on.trans phased.on, ?_, ?_, below,
        fun wrong => ?_, fun wrong => ?_⟩, ?_, mark, head, ?_⟩
      · rw [counter]
        exact Nat.mod_lt _ (by decide)
      · rw [SlotTimer.sinceEpoch, still, if_neg Bool.false_ne_true, SlotTimer.latestSlot,
          after.pending, if_neg Bool.false_ne_true, after.elapsed, counter, slot, current]
        omega
      · rw [still] at wrong
        cases wrong
      · rw [still] at wrong
        cases wrong
      · change (run.timer.stall ticks).core.2 = _
        rw [made.work]
        change run.timer.work ++ _ = workAfter 0 (run.timer.stall ticks).slots.currentSlot.toNat
        rw [slot, work, ← workAfter_append, Nat.zero_add]
        rfl
      · change (run.timer.stall ticks).core.1.milliseconds =
          mark + BitVec.ofNat 32 (run.timer.stall ticks).slots.currentSlot.toNat
        rw [made.milliseconds, slot, BitVec.ofNat_add, ← add_assoc, ← counted]
        rfl

theorem Kept.epoch (kept : run.Kept) (admitted : Admits run .epoch) : (run.act .epoch).Kept := by
  have pending : run.timer.slots.epochPending = true := admitted
  have late := kept.prompt pending
  have period : Sane run.timer.slots.epochInterrupt.timer.running := by
    change Sane run.timer.slots.timer.interrupt.running
    rw [EpochTimer.interrupt]
    cases requested : run.timer.slots.timer.requested with
    | none => exact kept.period
    | some periodTicks =>
        have sane := kept.asked periodTicks requested
        dsimp only
        rw [sane.loaded]
        exact sane
  have second : 40000 ≤ run.timer.slots.timer.interrupt.running.toNat := le_trans (by decide) period.1
  have phased := SlotTimer.epochInterrupt_phased late second
  refine ⟨period, fun _ wrong => ?_, ?_, phased.served, phased.prompt, .inr ⟨phased, rfl, _, rfl,
    (add_zero _).symm⟩⟩
  · cases wrong
  · change ∀ work ∈ (if run.timer.slots.schedulerRunning then _ else _), _
    rcases kept.started with ⟨idle, -, -, -⟩ | ⟨before, work, -⟩
    · rw [idle, if_neg Bool.false_ne_true]
      exact kept.epochs
    · rw [before.running, if_pos rfl]
      -- All but the epoch's last boundaries are served, the pulse's end long before.
      have phase := before.phase
      have ticks := before.ticks
      have low := kept.period.1
      have high := kept.period.2
      rw [SlotTimer.sinceEpoch, if_pos pending, SlotTimer.latestSlot] at phase
      obtain ⟨more, served⟩ : ∃ more, run.timer.slots.currentSlot.toNat = 100 + more := by
        refine ⟨run.timer.slots.currentSlot.toNat - 100, ?_⟩
        split at phase <;> omega
      have room := run.timer.slots.currentSlot.isLt
      rw [work, served, workAfter_whole more (by omega)]
      intro done member
      rcases List.mem_cons.mp member with rfl | member
      · rfl
      · exact kept.epochs done member

theorem kept : machine.Invariant Admits Kept where
  start := by
    rintro _ rfl
    refine ⟨⟨by decide, by decide⟩, fun _ wrong => ?_, fun _ wrong => ?_, by decide, fun wrong => ?_,
      .inl ⟨rfl, rfl, rfl, rfl⟩⟩
    · cases wrong
    · cases wrong
    · cases wrong
  step := by
    intro run act kept admitted
    cases act with
    | pass ticks => exact kept.pass admitted
    | stall ticks => exact kept.stall admitted
    | slot => exact kept.slot admitted
    | epoch => exact kept.epoch admitted
    | request periodTicks =>
        refine ⟨kept.period, fun asked same => ?_, kept.epochs, kept.below, kept.prompt, ?_⟩
        · cases same
          exact admitted
        · rcases kept.started with idle | ⟨phased, counted⟩
          · exact .inl idle
          · exact .inr ⟨⟨phased.running, phased.on, phased.ticks, phased.phase, phased.served,
              phased.prompt, phased.after⟩, counted⟩

/-- **Stalls go unseen.** In any run with stalls that do not reach the next epoch, the slot
that began last began as many milliseconds after the epoch, its boundary served or pending,
and the count is that of the epoch and the slots served. A stall leaves the timer as serving
every boundary in time does: the slot is the whole slots since the epoch, and nothing is
pending. And over each epoch the measurement was made due, the pulse probed and the pulse
ended once, in that order. -/
theorem stalls_unseen (reached : machine.Reachable Admits run) :
    (∀ mark ∈ run.marks.head?,
      run.timer.slots.sinceEpoch =
          40000 * run.timer.slots.latestSlot + run.timer.slots.slotTicks.toNat ∧
        run.timer.slots.slotTicks.toNat < 40000 ∧
        run.timer.slots.milliseconds =
          mark + BitVec.ofNat 32 run.timer.slots.currentSlot.toNat ∧
        ∀ ticks, Admits run (.stall ticks) →
          (run.timer.stall ticks).slots = (run.timer.undisturbed ticks).slots ∧
            (run.timer.stall ticks).work = (run.timer.undisturbed ticks).work ∧
            (run.timer.stall ticks).slots.boundaryPending = false ∧
            (run.timer.stall ticks).slots.currentSlot.toNat =
              (run.timer.slots.elapsed + ticks) / 40000 ∧
            (run.timer.stall ticks).slots.milliseconds =
              mark + BitVec.ofNat 32 ((run.timer.slots.elapsed + ticks) / 40000)) ∧
      ∀ work ∈ run.epochs, work = [SlotWork.measure, .probe, .finish] := by
  have kept := kept.reachable reached
  refine ⟨fun mark head => ?_, kept.epochs⟩
  rcases kept.started with ⟨-, -, -, empty⟩ | ⟨phased, -, latest, same, counted⟩
  · rw [empty] at head
    cases head
  · rw [same] at head
    cases head
    refine ⟨phased.phase, phased.ticks, counted, fun ticks admitted => ?_⟩
    obtain ⟨waiting, inside⟩ := admitted
    have within := kept.within phased waiting
    obtain ⟨slots, work⟩ := StallTimer.stall_slots within inside
    have made := StallTimer.stall_made waiting kept.period.2 inside
    obtain ⟨-, current⟩ := within.made (Nat.le_add_right run.timer.slots.elapsed ticks) inside
    refine ⟨slots, work, (StallTimer.stall_servedAt waiting kept.period.2 inside).pending,
      made.current.trans current, made.milliseconds.trans ?_⟩
    have total : run.timer.slots.milliseconds + BitVec.ofNat 32
        ((run.timer.slots.elapsed + ticks) / 40000 - run.timer.slots.currentSlot.toNat) =
          mark + BitVec.ofNat 32 ((run.timer.slots.elapsed + ticks) / 40000) := by
      rw [counted, add_assoc, ← BitVec.ofNat_add, current]
    exact total

/-- An epoch with a stall from the middle of its first slot, and one with a boundary pending
over the middle of the pulse; then the next epoch. -/
def twice : List StallAct :=
  [.pass 40000000, .epoch, .pass 20000, .stall 1000000, .pass 30000, .stall 1000000, .pass 30000,
    .slot] ++ (List.replicate 947 [StallAct.pass 40000, .slot]).flatten ++ [.pass 40000, .epoch]

theorem stalls_unseen_twice :
    (∀ work ∈ (twice.foldl machine.step {}).epochs, work = [SlotWork.measure, .probe, .finish]) ∧
      (twice.foldl machine.step {}).epochs.length = 1 :=
  ⟨(stalls_unseen ((Machine.Reachable.start rfl).run
    (Machine.Run.of_admitted (by decide +kernel)))).2, by decide +kernel⟩

end StallRun

end GpsClock.Timing
