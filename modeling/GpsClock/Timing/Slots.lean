import GpsClock.Timing.ClosedLoop

/-! # The millisecond slots of an epoch

The interrupts of `epoch_timer.c`: T4 counts slots of a millisecond, and each epoch the T3
interrupt puts it in phase again and counts the epoch as a boundary once, from counters read
late. Over any interval the count goes on by its length to the nearest millisecond
(`SlotTimer.restartScheduler_counts`), so over intervals of a second by a thousand, whenever
the interrupts are served (`SlotRun.thousand_per_epoch`).
-/

namespace GpsClock.Timing

/-- `EPOCH_SLOT_TICKS`. -/
def epochSlotTicks : BitVec 16 := 40000

/-- `SLOT_MIDPOINT_TICKS`. -/
def slotMidpointTicks : BitVec 16 := 20000

/-- `EPOCH_MEASURE_SLOT`. -/
def epochMeasureSlot : BitVec 16 := 1

/-- The epoch timer with its scheduler: the counts of T2/T3 and T4, their interrupt flags, and
what the interrupts keep. -/
structure SlotTimer where
  timer : EpochTimer := {}
  elapsed : Nat := 0
  epochPending : Bool := false
  slotTicks : BitVec 16 := 0
  slotsOn : Bool := false
  boundaryPending : Bool := false
  schedulerRunning : Bool := false
  milliseconds : BitVec 32 := 0
  currentSlot : BitVec 16 := 0
  measurementDue : Bool := false
  handlerLate : BitVec 32 := 0
  deriving DecidableEq, Repr

namespace SlotTimer

/-- So many cycles pass: each counter goes on, and back to zero at its period with its
interrupt flag set. -/
def pass (timer : SlotTimer) (ticks : Nat) : SlotTimer :=
  let elapsed := timer.elapsed + ticks
  let slotTicks := timer.slotTicks.toNat + ticks
  { timer with
    elapsed := elapsed % timer.timer.running.toNat
    epochPending := timer.epochPending || decide (timer.timer.running.toNat ≤ elapsed)
    slotTicks := if timer.slotsOn then BitVec.ofNat 16 (slotTicks % 40000) else timer.slotTicks
    boundaryPending :=
      timer.boundaryPending || (timer.slotsOn && decide (40000 ≤ slotTicks)) }

/-- `restart_scheduler`. -/
def restartScheduler (timer : SlotTimer) : SlotTimer :=
  let tmr2 := BitVec.ofNat 16 timer.elapsed
  let late := decide (epochSlotTicks ≤ tmr2)
  let sinceEpoch := if late then epochSlotTicks - 1 else tmr2
  let boundaryAfterEpoch := decide (timer.slotTicks < sinceEpoch)
  let slotTicksAtEpoch :=
    if boundaryAfterEpoch then timer.slotTicks + epochSlotTicks - sinceEpoch
    else timer.slotTicks - sinceEpoch
  let counted : BitVec 32 :=
    if timer.schedulerRunning then
      (if timer.boundaryPending && !boundaryAfterEpoch then 1 else 0) +
        (if slotMidpointTicks ≤ slotTicksAtEpoch then 1 else 0)
    else 1
  { timer with
    handlerLate := timer.handlerLate + if late then 1 else 0
    slotTicks := sinceEpoch
    boundaryPending := false
    slotsOn := true
    schedulerRunning := true
    milliseconds := timer.milliseconds + counted
    currentSlot := 0 }

/-- `_T3Interrupt`. -/
def epochInterrupt (timer : SlotTimer) : SlotTimer :=
  { timer.restartScheduler with
    timer := timer.timer.interrupt
    epochPending := false }

/-- `advance_slot`, as far as the measurement's slot. -/
def advanceSlot (timer : SlotTimer) : SlotTimer :=
  let currentSlot :=
    if timer.currentSlot < BitVec.allOnes 16 then timer.currentSlot + 1 else timer.currentSlot
  { timer with
    milliseconds := timer.milliseconds + 1
    currentSlot := currentSlot
    measurementDue := timer.measurementDue || currentSlot == epochMeasureSlot }

/-- `_T4Interrupt`. -/
def slotInterrupt (timer : SlotTimer) : SlotTimer :=
  { timer with boundaryPending := false }.advanceSlot

/-- Cycles since the epoch last served. -/
def sinceEpoch (timer : SlotTimer) : Nat :=
  if timer.epochPending then timer.timer.running.toNat + timer.elapsed else timer.elapsed

/-- The slot that began last, its interrupt served or still pending. -/
def latestSlot (timer : SlotTimer) : Nat :=
  timer.currentSlot.toNat + if timer.boundaryPending then 1 else 0

end SlotTimer

/-- A timer, and the milliseconds counted as each epoch was served: the latest first. -/
structure SlotRun where
  timer : SlotTimer := {}
  marks : List (BitVec 32) := []
  deriving DecidableEq, Repr

/-- Cycles pass, an interrupt is served, or a period is asked for. -/
inductive SlotAct
  | pass (ticks : Nat)
  | slot
  | epoch
  | request (periodTicks : BitVec 32)
  deriving DecidableEq, Repr

namespace SlotRun

def act (run : SlotRun) : SlotAct → SlotRun
  | .pass ticks => { run with timer := run.timer.pass ticks }
  | .slot => { run with timer := run.timer.slotInterrupt }
  | .epoch =>
      let timer := run.timer.epochInterrupt
      { timer := timer, marks := timer.milliseconds :: run.marks }
  | .request periodTicks =>
      { run with timer := { run.timer with timer := run.timer.timer.setPeriod periodTicks } }

def machine : Machine SlotRun SlotAct where
  start := fun run => run = {}
  step := act

/-- A period within half a slot of a thousand slots. -/
def WithinHalf (periodTicks : BitVec 32) : Prop :=
  39980000 ≤ periodTicks.toNat ∧ periodTicks.toNat < 40020000

/-- Neither interrupt is held off for a millisecond, and the epoch's comes before that of a
boundary after it. -/
def Admits (run : SlotRun) : SlotAct → Prop
  | .pass ticks =>
      (if run.timer.epochPending then run.timer.elapsed + ticks < 40000
        else run.timer.elapsed + ticks < run.timer.timer.running.toNat + 40000) ∧
      (run.timer.slotsOn = true →
        if run.timer.boundaryPending then run.timer.slotTicks.toNat + ticks < 40000
        else run.timer.slotTicks.toNat + ticks < 80000)
  | .slot =>
      run.timer.boundaryPending = true ∧
        (run.timer.epochPending = true → run.timer.elapsed ≤ run.timer.slotTicks.toNat)
  | .epoch => run.timer.epochPending = true
  | .request periodTicks => WithinHalf periodTicks

instance (run : SlotRun) : ∀ act, Decidable (Admits run act)
  | .pass _ => inferInstanceAs (Decidable (_ ∧ _))
  | .slot => inferInstanceAs (Decidable (_ ∧ _))
  | .epoch => inferInstanceAs (Decidable (_ = _))
  | .request _ => inferInstanceAs (Decidable (_ ∧ _))

end SlotRun

/-! ## What one interval counts -/

namespace SlotTimer

variable {timer : SlotTimer}

/-- The scheduler while it runs: the latest boundary is as many slots after the epoch as the
slot it began, and one after the next epoch is still pending. -/
structure Phased (timer : SlotTimer) : Prop where
  running : timer.schedulerRunning = true
  on : timer.slotsOn = true
  ticks : timer.slotTicks.toNat < 40000
  phase : timer.sinceEpoch = 40000 * timer.latestSlot + timer.slotTicks.toNat
  served : timer.elapsed < timer.timer.running.toNat
  prompt : timer.epochPending = true → timer.elapsed < 40000
  after : timer.epochPending = true → timer.slotTicks.toNat < timer.elapsed →
    timer.boundaryPending = true

/-- A boundary after the epoch: T4 stood below what it has counted since. -/
theorem ticksAtEpoch_after (ticks : timer.slotTicks.toNat < 40000)
    (late : timer.elapsed < 40000) (after : timer.slotTicks.toNat < timer.elapsed) :
    (timer.slotTicks + epochSlotTicks - BitVec.ofNat 16 timer.elapsed).toNat =
      timer.slotTicks.toNat + 40000 - timer.elapsed := by
  rw [BitVec.toNat_sub, BitVec.toNat_add, BitVec.toNat_ofNat]
  change (2 ^ 16 - timer.elapsed % 2 ^ 16 + (timer.slotTicks.toNat + 40000) % 2 ^ 16) % 2 ^ 16 = _
  omega

theorem ticksAtEpoch_before (late : timer.elapsed < 40000)
    (before : timer.elapsed ≤ timer.slotTicks.toNat) :
    (timer.slotTicks - BitVec.ofNat 16 timer.elapsed).toNat =
      timer.slotTicks.toNat - timer.elapsed := by
  have shown : (BitVec.ofNat 16 timer.elapsed).toNat = timer.elapsed := by
    rw [BitVec.toNat_ofNat]
    apply Nat.mod_eq_of_lt
    omega
  rw [BitVec.toNat_sub_of_le, shown]
  rw [BitVec.le_def, shown]
  exact before

/-- Served late or in time, with a boundary pending or not, the interrupt makes the count of
the interval its length to the nearest slot. -/
theorem restartScheduler_counts (phased : timer.Phased) (pending : timer.epochPending = true) :
    timer.restartScheduler.milliseconds =
      timer.milliseconds + BitVec.ofNat 32
        ((timer.timer.running.toNat + 20000) / 40000 - timer.currentSlot.toNat) := by
  have late := phased.prompt pending
  have phase := phased.phase
  have ticks := phased.ticks
  rw [sinceEpoch, if_pos pending, latestSlot] at phase
  have shown : (BitVec.ofNat 16 timer.elapsed).toNat = timer.elapsed := by
    rw [BitVec.toNat_ofNat]
    apply Nat.mod_eq_of_lt
    omega
  have early : ¬epochSlotTicks ≤ BitVec.ofNat 16 timer.elapsed := by
    rw [BitVec.le_def, shown]
    exact Nat.not_le_of_lt late
  have once : ∀ holds : Prop, ∀ [Decidable holds],
      (if holds then (1 : BitVec 32) else 0) = BitVec.ofNat 32 (if holds then 1 else 0) := by
    intro holds _
    split
    · rfl
    · rfl
  rw [restartScheduler]
  dsimp only
  rw [decide_eq_false early, if_pos phased.running, if_neg Bool.false_ne_true, once, once,
    ← BitVec.ofNat_add]
  congr 2
  by_cases after : timer.slotTicks < BitVec.ofNat 16 timer.elapsed
  · have after_nat : timer.slotTicks.toNat < timer.elapsed := by
      rw [BitVec.lt_def, shown] at after
      exact after
    have boundary := phased.after pending after_nat
    rw [decide_eq_true after, if_pos rfl, Bool.not_true, Bool.and_false,
      if_neg Bool.false_ne_true]
    rw [boundary, if_pos rfl] at phase
    simp only [BitVec.le_def, ticksAtEpoch_after ticks late after_nat]
    change 0 + (if 20000 ≤ timer.slotTicks.toNat + 40000 - timer.elapsed then 1 else 0) = _
    split
    · omega
    · omega
  · have before : timer.elapsed ≤ timer.slotTicks.toNat := by
      rw [BitVec.lt_def, shown] at after
      exact Nat.le_of_not_lt after
    rw [decide_eq_false after, if_neg Bool.false_ne_true, Bool.not_false, Bool.and_true]
    simp only [BitVec.le_def, ticksAtEpoch_before late before]
    change _ + (if 20000 ≤ timer.slotTicks.toNat - timer.elapsed then 1 else 0) = _
    cases boundary : timer.boundaryPending with
    | true =>
        rw [boundary, if_pos rfl] at phase
        rw [if_pos rfl]
        split
        · omega
        · omega
    | false =>
        rw [boundary, if_neg Bool.false_ne_true] at phase
        rw [if_neg Bool.false_ne_true]
        split
        · omega
        · omega

/-- T2/T3 as cycles pass: no epoch goes unserved for as long as a slot. -/
theorem pass_epoch (below : timer.elapsed < timer.timer.running.toNat) {ticks : Nat}
    (second : 40000 ≤ timer.timer.running.toNat)
    (prompt : if timer.epochPending then timer.elapsed + ticks < 40000
      else timer.elapsed + ticks < timer.timer.running.toNat + 40000) :
    (timer.pass ticks).sinceEpoch = timer.sinceEpoch + ticks ∧
      (timer.pass ticks).elapsed < timer.timer.running.toNat ∧
      ((timer.pass ticks).epochPending = true → (timer.pass ticks).elapsed < 40000 ∧
        ((timer.pass ticks).elapsed < ticks ∨
          timer.epochPending = true ∧ (timer.pass ticks).elapsed = timer.elapsed + ticks)) := by
  have elapsed : (timer.pass ticks).elapsed =
      (timer.elapsed + ticks) % timer.timer.running.toNat := rfl
  have pending : (timer.pass ticks).epochPending =
      (timer.epochPending || decide (timer.timer.running.toNat ≤ timer.elapsed + ticks)) := rfl
  have same : (timer.pass ticks).timer.running.toNat = timer.timer.running.toNat := rfl
  rw [sinceEpoch, sinceEpoch, same]
  cases waiting : timer.epochPending with
  | true =>
      rw [waiting, Bool.true_or] at pending
      rw [waiting, if_pos rfl] at prompt
      rw [Nat.mod_eq_of_lt (by omega)] at elapsed
      rw [pending, if_pos rfl, if_pos rfl, elapsed]
      exact ⟨by omega, by omega, fun _ => ⟨prompt, .inr ⟨rfl, rfl⟩⟩⟩
  | false =>
      rw [waiting, Bool.false_or] at pending
      rw [waiting, if_neg Bool.false_ne_true] at prompt
      by_cases passed : timer.timer.running.toNat ≤ timer.elapsed + ticks
      · rw [decide_eq_true passed] at pending
        rw [Nat.mod_eq_sub_mod passed, Nat.mod_eq_of_lt (by omega)] at elapsed
        rw [pending, if_pos rfl, if_neg Bool.false_ne_true, elapsed]
        exact ⟨by omega, by omega, fun _ => ⟨by omega, .inl (by omega)⟩⟩
      · rw [decide_eq_false passed] at pending
        rw [Nat.mod_eq_of_lt (Nat.lt_of_not_le passed)] at elapsed
        rw [pending, if_neg Bool.false_ne_true, if_neg Bool.false_ne_true, elapsed]
        exact ⟨rfl, Nat.lt_of_not_le passed, fun wrong => absurd wrong Bool.false_ne_true⟩

/-- T4 as cycles pass: no boundary goes unserved to the next. -/
theorem pass_boundary (on : timer.slotsOn = true) {ticks : Nat}
    (served : if timer.boundaryPending then timer.slotTicks.toNat + ticks < 40000
      else timer.slotTicks.toNat + ticks < 80000) :
    (timer.pass ticks).slotTicks.toNat < 40000 ∧
      40000 * (timer.pass ticks).latestSlot + (timer.pass ticks).slotTicks.toNat =
        40000 * timer.latestSlot + timer.slotTicks.toNat + ticks ∧
      ((timer.pass ticks).boundaryPending = true ∨ timer.boundaryPending = false ∧
        (timer.pass ticks).slotTicks.toNat = timer.slotTicks.toNat + ticks) := by
  have counted : (timer.pass ticks).slotTicks.toNat = (timer.slotTicks.toNat + ticks) % 40000 := by
    rw [pass]
    dsimp only
    rw [if_pos on, BitVec.toNat_ofNat]
    apply Nat.mod_eq_of_lt
    omega
  have boundary : (timer.pass ticks).boundaryPending =
      (timer.boundaryPending || decide (40000 ≤ timer.slotTicks.toNat + ticks)) := by
    rw [pass]
    dsimp only
    rw [on, Bool.true_and]
  have same : (timer.pass ticks).currentSlot = timer.currentSlot := rfl
  rw [latestSlot, latestSlot, same]
  cases waiting : timer.boundaryPending with
  | true =>
      rw [waiting, Bool.true_or] at boundary
      rw [waiting, if_pos rfl] at served
      rw [Nat.mod_eq_of_lt served] at counted
      rw [boundary, counted, if_pos rfl]
      exact ⟨served, by omega, .inl rfl⟩
  | false =>
      rw [waiting, Bool.false_or] at boundary
      rw [waiting, if_neg Bool.false_ne_true] at served
      by_cases passed : 40000 ≤ timer.slotTicks.toNat + ticks
      · rw [decide_eq_true passed] at boundary
        rw [boundary, counted, if_pos rfl, if_neg Bool.false_ne_true]
        exact ⟨by omega, by omega, .inl rfl⟩
      · rw [decide_eq_false passed] at boundary
        rw [Nat.mod_eq_of_lt (Nat.lt_of_not_le passed)] at counted
        rw [boundary, counted, if_neg Bool.false_ne_true]
        exact ⟨Nat.lt_of_not_le passed, by omega, .inr ⟨rfl, rfl⟩⟩

/-- Cycles pass. -/
theorem Phased.pass (phased : timer.Phased) {ticks : Nat} (second : 40000 ≤ timer.timer.running.toNat)
    (prompt : if timer.epochPending then timer.elapsed + ticks < 40000
      else timer.elapsed + ticks < timer.timer.running.toNat + 40000)
    (served : if timer.boundaryPending then timer.slotTicks.toNat + ticks < 40000
      else timer.slotTicks.toNat + ticks < 80000) : (timer.pass ticks).Phased := by
  obtain ⟨since, below, epoch⟩ := pass_epoch phased.served second prompt
  obtain ⟨within, phase, boundary⟩ := pass_boundary phased.on served
  refine ⟨phased.running, phased.on, within, ?_, below, fun pending => (epoch pending).1,
    fun pending after => ?_⟩
  · rw [since, phase, phased.phase]
  · rcases boundary with boundary | ⟨unset, counted⟩
    · exact boundary
    · rcases (epoch pending).2 with fresh | ⟨waiting, elapsed⟩
      · omega
      · have was := phased.after waiting (by omega)
        rw [unset] at was
        cases was

/-- A boundary is served that is not after the epoch. -/
theorem Phased.slot (phased : timer.Phased) (short : timer.sinceEpoch < 40000 * 65535)
    (pending : timer.boundaryPending = true)
    (before : timer.epochPending = true → timer.elapsed ≤ timer.slotTicks.toNat) :
    timer.slotInterrupt.Phased ∧
      timer.slotInterrupt.currentSlot.toNat = timer.currentSlot.toNat + 1 ∧
      timer.slotInterrupt.milliseconds = timer.milliseconds + 1 := by
  have phase := phased.phase
  have latest := phase
  rw [latestSlot, if_pos pending] at latest
  have room : timer.currentSlot < BitVec.allOnes 16 := by
    change timer.currentSlot.toNat < 65535
    omega
  have next : timer.slotInterrupt.currentSlot.toNat = timer.currentSlot.toNat + 1 := by
    rw [slotInterrupt, advanceSlot]
    dsimp only
    rw [if_pos room, BitVec.toNat_add]
    change (timer.currentSlot.toNat + 1) % 2 ^ 16 = _
    apply Nat.mod_eq_of_lt
    omega
  refine ⟨⟨phased.running, phased.on, phased.ticks, ?_, phased.served, phased.prompt,
    fun waiting after => ?_⟩, next, rfl⟩
  · have served : timer.slotInterrupt.boundaryPending = false := rfl
    rw [latestSlot, next, served, if_neg Bool.false_ne_true]
    exact latest
  · exact absurd after (Nat.not_lt.mpr (before waiting))

/-- The epoch is served. -/
theorem epochInterrupt_phased (late : timer.elapsed < 40000)
    (second : 40000 ≤ timer.timer.interrupt.running.toNat) : timer.epochInterrupt.Phased := by
  have shown : (BitVec.ofNat 16 timer.elapsed).toNat = timer.elapsed := by
    rw [BitVec.toNat_ofNat]
    apply Nat.mod_eq_of_lt
    omega
  have early : ¬epochSlotTicks ≤ BitVec.ofNat 16 timer.elapsed := by
    rw [BitVec.le_def, shown]
    exact Nat.not_le_of_lt late
  have ticks : timer.epochInterrupt.slotTicks.toNat = timer.elapsed := by
    rw [epochInterrupt, restartScheduler]
    dsimp only
    rw [decide_eq_false early, if_neg Bool.false_ne_true, shown]
  refine ⟨rfl, rfl, ?_, ?_, Nat.lt_of_lt_of_le late second, fun wrong => ?_, fun wrong => ?_⟩
  · rw [ticks]
    exact late
  · rw [ticks]
    exact (Nat.zero_add _).symm
  · cases wrong
  · cases wrong

/-- No more slots are served before the epoch's interrupt than the interval has. -/
theorem Phased.slot_le (phased : timer.Phased) (pending : timer.epochPending = true) :
    timer.currentSlot.toNat ≤ (timer.timer.running.toNat + 20000) / 40000 := by
  have phase := phased.phase
  have late := phased.prompt pending
  have ticks := phased.ticks
  rw [sinceEpoch, if_pos pending, latestSlot] at phase
  by_cases after : timer.slotTicks.toNat < timer.elapsed
  · rw [phased.after pending after, if_pos rfl] at phase
    omega
  · omega

end SlotTimer

/-! ## Runs of seconds -/

namespace SlotRun

/-- What every run keeps: the periods are seconds within half a slot, each epoch counted a
thousand after the last, and the scheduler is not started yet, or in phase and its count that
of the epoch and the slots served since. -/
structure Kept (run : SlotRun) : Prop where
  period : WithinHalf run.timer.timer.running
  asked : ∀ periodTicks ∈ run.timer.timer.requested, WithinHalf periodTicks
  thousands : run.marks.IsChain fun later earlier => later = earlier + 1000
  below : run.timer.elapsed < run.timer.timer.running.toNat
  prompt : run.timer.epochPending = true → run.timer.elapsed < 40000
  started : (run.timer.schedulerRunning = false ∧ run.timer.slotsOn = false ∧
      run.timer.boundaryPending = false ∧ run.marks = []) ∨
    run.timer.Phased ∧ ∃ mark, run.marks.head? = some mark ∧
      run.timer.milliseconds = mark + BitVec.ofNat 32 run.timer.currentSlot.toNat

variable {run : SlotRun}

theorem WithinHalf.loaded {periodTicks : BitVec 32} (within : WithinHalf periodTicks) :
    loadPeriod periodTicks = periodTicks := by
  have some : periodTicks ≠ 0 := by
    rintro rfl
    exact absurd within.1 (by decide : ¬39980000 ≤ (0 : BitVec 32).toNat)
  rw [loadPeriod, if_neg some]

theorem Kept.pass (kept : run.Kept) {ticks : Nat} (admitted : Admits run (.pass ticks)) :
    { run with timer := run.timer.pass ticks }.Kept := by
  have second : 40000 ≤ run.timer.timer.running.toNat := le_trans (by decide) kept.period.1
  obtain ⟨prompt, served⟩ := admitted
  obtain ⟨-, below, epoch⟩ := SlotTimer.pass_epoch kept.below second prompt
  refine ⟨kept.period, kept.asked, kept.thousands, below, fun pending => (epoch pending).1, ?_⟩
  rcases kept.started with ⟨idle, off, none, empty⟩ | ⟨phased, counted⟩
  · refine .inl ⟨idle, off, ?_, empty⟩
    change (run.timer.boundaryPending || (run.timer.slotsOn && _)) = false
    rw [none, off]
    rfl
  · exact .inr ⟨phased.pass second prompt (served phased.on), counted⟩

theorem Kept.slot (kept : run.Kept) (admitted : Admits run .slot) :
    { run with timer := run.timer.slotInterrupt }.Kept := by
  obtain ⟨pending, before⟩ := admitted
  refine ⟨kept.period, kept.asked, kept.thousands, kept.below, kept.prompt, ?_⟩
  rcases kept.started with ⟨-, -, none, -⟩ | ⟨phased, mark, head, counted⟩
  · rw [pending] at none
    cases none
  · have short : run.timer.sinceEpoch < 40000 * 65535 := by
      have below := kept.below
      have high := kept.period.2
      have prompt := kept.prompt
      rw [SlotTimer.sinceEpoch]
      split
      · rename_i waiting
        have late := prompt waiting
        omega
      · omega
    obtain ⟨still, next, more⟩ := phased.slot short pending before
    refine .inr ⟨still, mark, head, ?_⟩
    dsimp only
    rw [next, more, counted, BitVec.ofNat_add, add_assoc]
    rfl

theorem Kept.epoch (kept : run.Kept) (admitted : Admits run .epoch) : (run.act .epoch).Kept := by
  have pending : run.timer.epochPending = true := admitted
  have late := kept.prompt pending
  have period : WithinHalf run.timer.epochInterrupt.timer.running := by
    change WithinHalf run.timer.timer.interrupt.running
    rw [EpochTimer.interrupt]
    cases requested : run.timer.timer.requested with
    | none => exact kept.period
    | some periodTicks =>
        have within := kept.asked periodTicks requested
        dsimp only
        rw [within.loaded]
        exact within
  have second : 40000 ≤ run.timer.timer.interrupt.running.toNat := le_trans (by decide) period.1
  have phased := SlotTimer.epochInterrupt_phased late second
  have milliseconds : run.timer.epochInterrupt.milliseconds =
      run.timer.restartScheduler.milliseconds := rfl
  refine ⟨period, fun _ wrong => ?_, ?_, phased.served, phased.prompt, .inr ⟨phased, _, rfl,
    (add_zero _).symm⟩⟩
  · cases wrong
  · change (run.timer.epochInterrupt.milliseconds :: run.marks).IsChain _
    refine List.isChain_cons.mpr ⟨fun mark head => ?_, kept.thousands⟩
    rcases kept.started with ⟨-, -, -, empty⟩ | ⟨before, latest, same, counted⟩
    · rw [empty] at head
      cases head
    · rw [same] at head
      cases head
      have slots := before.slot_le pending
      have thousand : (run.timer.timer.running.toNat + 20000) / 40000 = 1000 := by
        have low := kept.period.1
        have high := kept.period.2
        omega
      rw [thousand] at slots
      rw [milliseconds, SlotTimer.restartScheduler_counts before pending, counted, thousand,
        add_assoc, ← BitVec.ofNat_add, Nat.add_sub_cancel' slots]
      rfl

theorem kept : machine.Invariant Admits Kept where
  start := by
    rintro _ rfl
    refine ⟨⟨by decide, by decide⟩, fun _ wrong => ?_, .nil, by decide, fun wrong => ?_,
      .inl ⟨rfl, rfl, rfl, rfl⟩⟩
    · cases wrong
    · cases wrong
  step := by
    intro run act kept admitted
    cases act with
    | pass ticks => exact kept.pass admitted
    | slot => exact kept.slot admitted
    | epoch => exact kept.epoch admitted
    | request periodTicks =>
        refine ⟨kept.period, fun asked same => ?_, kept.thousands, kept.below, kept.prompt, ?_⟩
        · cases same
          exact admitted
        · rcases kept.started with idle | ⟨phased, counted⟩
          · exact .inl idle
          · exact .inr ⟨⟨phased.running, phased.on, phased.ticks, phased.phase, phased.served,
              phased.prompt, phased.after⟩, counted⟩

/-- Each epoch is counted a thousand milliseconds after the last, and from one to the next the
slot that began last began as many milliseconds after it: the count is that of the epoch and
the slots served. -/
theorem thousand_per_epoch (reached : machine.Reachable Admits run) :
    (run.marks.IsChain fun later earlier => later = earlier + 1000) ∧
      ∀ mark ∈ run.marks.head?,
        run.timer.sinceEpoch = 40000 * run.timer.latestSlot + run.timer.slotTicks.toNat ∧
          run.timer.slotTicks.toNat < 40000 ∧
          run.timer.milliseconds = mark + BitVec.ofNat 32 run.timer.currentSlot.toNat := by
  have kept := kept.reachable reached
  refine ⟨kept.thousands, fun mark head => ?_⟩
  rcases kept.started with ⟨-, -, -, empty⟩ | ⟨phased, latest, same, counted⟩
  · rw [empty] at head
    cases head
  · rw [same] at head
    cases head
    exact ⟨phased.phase, phased.ticks, counted⟩

/-- So many slots, each served as it begins. -/
def slots (count : Nat) : List SlotAct :=
  (List.replicate count [SlotAct.pass 40000, .slot]).flatten

/-- The first epoch comes and is served. -/
def begin : List SlotAct :=
  [.pass 40000000, .epoch]

def after (acts : List SlotAct) : SlotRun :=
  acts.foldl machine.step {}

/-- A second to the tick: its last boundary comes with the next epoch, and is served before
it. -/
theorem thousand_per_epoch_nominal :
    (after (begin ++ slots 1000 ++ [SlotAct.epoch])).marks.IsChain
      fun later earlier => later = earlier + 1000 :=
  (thousand_per_epoch ((Machine.Reachable.start rfl).run
    (Machine.Run.of_admitted (by decide +kernel)))).1

/-- A second half a slot too long. A boundary after the epoch, served before the epoch. And a
boundary before the epoch, pending until one after it. The first two count one more than a
thousand, and the last one less. -/
theorem thousand_missed :
    (after (SlotAct.request 40020000 :: begin ++ slots 1000 ++
        [SlotAct.pass 20000, SlotAct.epoch])).marks = [1002, 1] ∧
      (after (SlotAct.request 40010000 :: begin ++ slots 1000 ++
        [SlotAct.pass 10000, SlotAct.pass 30000, SlotAct.slot, SlotAct.epoch])).marks =
          [1002, 1] ∧
      (after (SlotAct.request 40010000 :: begin ++ slots 999 ++
        [SlotAct.pass 40000, SlotAct.pass 10000, SlotAct.pass 30000, SlotAct.epoch])).marks =
          [1000, 1] := by
  decide +kernel

end SlotRun

end GpsClock.Timing
