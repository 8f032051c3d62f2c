import GpsClock.Lib.Machine
import GpsClock.Lib.Wrapping

/-! # The scheduler's tasks

`scheduler.c`. The milliseconds, the epochs and a task's counts are 32-bit counters, here
read against the timeline they count. A periodic task's next due time stays on the grid of
its enrolment (`GpsClock.Timing.WatchedTask.keeps_place`), and a slot task runs at most once an
epoch, never before its slot; each counts what it ran and what it missed.
-/

namespace GpsClock.Timing

inductive SchedulerKind
  | periodic
  | slot
  | sectionKind
  deriving DecidableEq, Repr

structure SchedulerTask where
  kind : SchedulerKind
  interval : BitVec 16
  started : Bool := false
  nextMs : BitVec 32 := 0
  lastEpoch : BitVec 32 := 0
  runs : BitVec 32 := 0
  missed : BitVec 32 := 0
  lateMax : BitVec 16 := 0
  deriving DecidableEq, Repr

/-- The time a pass reads. -/
structure SchedulerPass where
  nowMs : BitVec 32
  epoch : BitVec 32
  slot : BitVec 16
  deriving DecidableEq, Repr

namespace SchedulerTask

/-- `enrol`. -/
def enrol (task : SchedulerTask) (pass : SchedulerPass) : SchedulerTask :=
  { task with
    started := true
    nextMs := pass.nowMs + task.interval.setWidth 32
    lastEpoch := pass.epoch - 1 }

/-- `note_lateness`. -/
def noteLateness (task : SchedulerTask) (late : BitVec 32) : SchedulerTask :=
  if task.lateMax.toNat < late.toNat then
    { task with lateMax := if 65535 < late.toNat then 65535 else late.setWidth 16 }
  else task

/-- `periodic_due`. -/
def periodicDue (task : SchedulerTask) (pass : SchedulerPass) : Bool × SchedulerTask :=
  if (pass.nowMs - task.nextMs).toInt < 0 then (false, task)
  else
    let late := pass.nowMs - task.nextMs
    let skipped := late / task.interval.setWidth 32
    (true,
      { task.noteLateness late with
        missed := task.missed + skipped
        nextMs := task.nextMs + task.interval.setWidth 32 * (skipped + 1) })

/-- `slot_due`. -/
def slotDue (task : SchedulerTask) (pass : SchedulerPass) : Bool × SchedulerTask :=
  let epochs := pass.epoch - task.lastEpoch
  if epochs = 0 ∨ pass.slot.toNat < task.interval.toNat then (false, task)
  else
    (true,
      { task.noteLateness ((pass.slot - task.interval).setWidth 32) with
        missed := task.missed + (epochs - 1)
        lastEpoch := pass.epoch })

/-- `scheduler_due`, with the run that `start_running` counts. -/
def due (task : SchedulerTask) (pass : SchedulerPass) : Bool × SchedulerTask :=
  let task := if task.started then task else task.enrol pass
  let (due, task) := if task.kind = .slot then task.slotDue pass else task.periodicDue pass
  (due, if due then { task with runs := task.runs + 1 } else task)

end SchedulerTask

/-! ## Its passes -/

/-- A pass's time on the timeline: the milliseconds and epochs counted, and the slot. -/
structure Moment where
  ms : Nat
  epoch : Nat
  slot : BitVec 16
  deriving DecidableEq, Repr

/-- What the counters show of it. -/
def Moment.pass (moment : Moment) : SchedulerPass where
  nowMs := BitVec.ofNat 32 moment.ms
  epoch := BitVec.ofNat 32 moment.epoch
  slot := moment.slot

/-- A task, with when it was enrolled, when it was last checked, and its runs, the latest
first. -/
structure WatchedTask where
  task : SchedulerTask
  enrolled : Moment
  checked : Moment
  ran : List Moment := []
  deriving DecidableEq, Repr

namespace WatchedTask

/-- A pass asks whether the task is due. -/
def check (watched : WatchedTask) (moment : Moment) : WatchedTask :=
  let (due, task) := watched.task.due moment.pass
  { watched with
    task := task
    checked := moment
    ran := if due then moment :: watched.ran else watched.ran }

/-- A task at its first check. -/
def first (kind : SchedulerKind) (interval : BitVec 16) (moment : Moment) : WatchedTask :=
  check { task := { kind := kind, interval := interval }, enrolled := moment, checked := moment }
    moment

/-- A periodic task's interval is at least a millisecond. -/
def machine : Machine WatchedTask Moment where
  start := fun watched =>
    ∃ kind interval moment, (kind ≠ .slot → interval ≠ 0) ∧ watched = first kind interval moment
  step := check

/-- Time does not go back, nor by 2^31 ms or more between checks. -/
def Admits (watched : WatchedTask) (moment : Moment) : Prop :=
  watched.checked.ms ≤ moment.ms ∧ moment.ms - watched.checked.ms < 2147483648 ∧
    watched.checked.epoch ≤ moment.epoch

instance (watched : WatchedTask) (moment : Moment) : Decidable (watched.Admits moment) :=
  inferInstanceAs (Decidable (_ ∧ _))

/-- The due times of a periodic task that have passed: every whole interval from its
enrolment to its latest check. -/
def dueTimes (watched : WatchedTask) : Nat :=
  (watched.checked.ms - watched.enrolled.ms) / watched.task.interval.toNat

/-- The due time after those. -/
def nextDue (watched : WatchedTask) : Nat :=
  watched.enrolled.ms + (watched.dueTimes + 1) * watched.task.interval.toNat

/-- The epochs from a task's enrolment to its last run, both among them. -/
def epochsRun (watched : WatchedTask) : Nat :=
  match watched.ran with
  | [] => 0
  | latest :: _ => latest.epoch + 1 - watched.enrolled.epoch

/-! ## Periodic tasks -/

/-- A periodic task, its next due time and its counts, where its latest check leaves it. -/
structure Placed (watched : WatchedTask) : Prop where
  kind : watched.task.kind ≠ .slot
  started : watched.task.started = true
  interval : 0 < watched.task.interval.toNat
  onward : watched.enrolled.ms ≤ watched.checked.ms
  next : watched.task.nextMs = BitVec.ofNat 32 watched.nextDue
  counts : watched.task.runs + watched.task.missed = BitVec.ofNat 32 watched.dueTimes
  exact : watched.dueTimes < 4294967296 →
    watched.task.runs.toNat + watched.task.missed.toNat = watched.dueTimes

variable {watched : WatchedTask} {moment : Moment}

theorem interval_ofNat (task : SchedulerTask) :
    task.interval.setWidth 32 = BitVec.ofNat 32 task.interval.toNat :=
  (BitVec.ofNat_toNat 32 _).symm

/-- Lateness is only noted. -/
theorem noteLateness_eq (task : SchedulerTask) (late : BitVec 32) :
    ∃ lateMax, task.noteLateness late = { task with lateMax := lateMax } := by
  rw [SchedulerTask.noteLateness]
  split
  · exact ⟨_, rfl⟩
  · exact ⟨task.lateMax, rfl⟩

theorem interval_lt (task : SchedulerTask) : task.interval.toNat < 65536 :=
  task.interval.isLt

/-- The latest check lies before the next due time, by at most an interval. -/
theorem checked_lt_nextDue (interval : 0 < watched.task.interval.toNat)
    (onward : watched.enrolled.ms ≤ watched.checked.ms) :
    watched.checked.ms < watched.nextDue ∧
      watched.nextDue ≤ watched.checked.ms + watched.task.interval.toNat := by
  have parts := Nat.div_add_mod (watched.checked.ms - watched.enrolled.ms)
    watched.task.interval.toNat
  have rest := Nat.mod_lt (watched.checked.ms - watched.enrolled.ms) interval
  have grid : watched.nextDue = watched.enrolled.ms +
      watched.task.interval.toNat * watched.dueTimes + watched.task.interval.toNat := by
    rw [nextDue]
    ring
  rw [grid, dueTimes]
  omega

/-- Where a check at a moment would put the due times. -/
def dueAt (watched : WatchedTask) (moment : Moment) : Nat :=
  (moment.ms - watched.enrolled.ms) / watched.task.interval.toNat

theorem dueTimes_le_dueAt (admitted : watched.Admits moment) :
    watched.dueTimes ≤ watched.dueAt moment :=
  Nat.div_le_div_right (Nat.sub_le_sub_right admitted.1 _)

namespace Placed

/-- Before the next due time the task is not due. -/
theorem early (placed : watched.Placed) (admitted : watched.Admits moment)
    (before : moment.ms < watched.nextDue) :
    watched.task.due moment.pass = (false, watched.task) ∧
      watched.dueAt moment = watched.dueTimes := by
  obtain ⟨-, near⟩ := checked_lt_nextDue placed.interval placed.onward
  have small := interval_lt watched.task
  obtain ⟨onward, -⟩ := admitted
  have sign : (moment.pass.nowMs - watched.task.nextMs).toInt < 0 := by
    rw [placed.next, Moment.pass, Wrapping.toInt_sub (by omega) (by omega)]
    omega
  constructor
  · rw [SchedulerTask.due, if_pos placed.started, if_neg placed.kind, SchedulerTask.periodicDue,
      if_pos sign]
    rfl
  · apply Nat.le_antisymm
    · apply Nat.le_of_lt_succ
      apply (Nat.div_lt_iff_lt_mul placed.interval).mpr
      rw [nextDue] at before
      have started := placed.onward.trans onward
      rw [Nat.succ_eq_add_one]
      omega
    · exact Nat.div_le_div_right (Nat.sub_le_sub_right onward _)

/-- From the next due time on it is due: it runs once, and counts as missed what else of
its grid has passed. -/
theorem late (placed : watched.Placed) (admitted : watched.Admits moment)
    (reached : watched.nextDue ≤ moment.ms) :
    ∃ skipped lateMax, watched.dueAt moment = watched.dueTimes + (skipped + 1) ∧
      skipped < 2147483648 ∧
      watched.task.due moment.pass =
        (true,
          { watched.task with
            nextMs := BitVec.ofNat 32
              (watched.nextDue + watched.task.interval.toNat * (skipped + 1))
            runs := watched.task.runs + 1
            missed := watched.task.missed + BitVec.ofNat 32 skipped
            lateMax := lateMax }) := by
  obtain ⟨after, -⟩ := checked_lt_nextDue placed.interval placed.onward
  have small := interval_lt watched.task
  obtain ⟨-, soon, -⟩ := admitted
  have lateness : (moment.pass.nowMs - watched.task.nextMs).toNat = moment.ms - watched.nextDue := by
    rw [placed.next, Moment.pass, Wrapping.toNat_sub reached (by omega)]
  have sign : ¬(moment.pass.nowMs - watched.task.nextMs).toInt < 0 := by
    rw [placed.next, Moment.pass, Wrapping.toInt_sub (by omega) (by omega)]
    omega
  have few : (moment.ms - watched.nextDue) / watched.task.interval.toNat < 2147483648 :=
    lt_of_le_of_lt (Nat.div_le_self _ _) (by omega)
  have skipped : (moment.pass.nowMs - watched.task.nextMs) / watched.task.interval.setWidth 32 =
      BitVec.ofNat 32 ((moment.ms - watched.nextDue) / watched.task.interval.toNat) := by
    apply BitVec.eq_of_toNat_eq
    rw [BitVec.toNat_udiv, lateness, BitVec.toNat_setWidth, BitVec.toNat_ofNat,
      Nat.mod_eq_of_lt (by omega), Nat.mod_eq_of_lt (by omega)]
  obtain ⟨lateMax, noted⟩ := noteLateness_eq watched.task (moment.pass.nowMs - watched.task.nextMs)
  refine ⟨(moment.ms - watched.nextDue) / watched.task.interval.toNat, lateMax, ?_, few, ?_⟩
  · have span : moment.ms - watched.nextDue = moment.ms - watched.enrolled.ms -
        watched.task.interval.toNat * (watched.dueTimes + 1) := by
      rw [nextDue, Nat.mul_comm, Nat.sub_sub]
    have covered : watched.task.interval.toNat * (watched.dueTimes + 1) ≤
        moment.ms - watched.enrolled.ms := by
      rw [nextDue, Nat.mul_comm] at reached
      omega
    have least : watched.dueTimes + 1 ≤ watched.dueAt moment := by
      apply (Nat.le_div_iff_mul_le placed.interval).mpr
      rwa [Nat.mul_comm]
    rw [span, Nat.sub_mul_div]
    rw [dueAt] at least ⊢
    omega
  · rw [SchedulerTask.due, if_pos placed.started, if_neg placed.kind, SchedulerTask.periodicDue,
      if_neg sign]
    dsimp only
    rw [noted, skipped, interval_ofNat, placed.next, BitVec.ofNat_add watched.nextDue,
      BitVec.ofNat_mul, BitVec.ofNat_add _ 1]
    rfl

/-- A check keeps the task on its grid and counts the due times it passes. -/
theorem check (placed : watched.Placed) (admitted : watched.Admits moment) :
    (watched.check moment).Placed := by
  have onward := placed.onward.trans admitted.1
  rcases Nat.lt_or_ge moment.ms watched.nextDue with before | reached
  · obtain ⟨same, still⟩ := placed.early admitted before
    have after : watched.check moment = { watched with checked := moment } := by
      rw [WatchedTask.check, same]
      rfl
    have counted : dueTimes { watched with checked := moment } = watched.dueTimes := still
    have next : nextDue { watched with checked := moment } = watched.nextDue := by
      rw [nextDue, counted, nextDue]
    rw [after]
    refine ⟨placed.kind, placed.started, placed.interval, onward, ?_, ?_, ?_⟩
    · rw [next]
      exact placed.next
    · rw [counted]
      exact placed.counts
    · rw [counted]
      exact placed.exact
  · obtain ⟨skipped, lateMax, passed, few, outcome⟩ := placed.late admitted reached
    have after : watched.check moment =
        { watched with
          task := (watched.task.due moment.pass).2
          checked := moment
          ran := moment :: watched.ran } := by
      rw [WatchedTask.check, outcome]
      rfl
    rw [outcome] at after
    have counted : (watched.check moment).dueTimes = watched.dueTimes + (skipped + 1) := by
      rw [after]
      exact passed
    have next : (watched.check moment).nextDue =
        watched.nextDue + watched.task.interval.toNat * (skipped + 1) := by
      rw [nextDue, counted, nextDue, after]
      ring
    have exact := placed.exact
    refine ⟨?_, ?_, ?_, ?_, ?_, ?_, ?_⟩
    · rw [after]
      exact placed.kind
    · rw [after]
      exact placed.started
    · rw [after]
      exact placed.interval
    · rw [after]
      exact onward
    · rw [next, after]
    · rw [counted, after, BitVec.ofNat_add watched.dueTimes, ← placed.counts,
        BitVec.ofNat_add skipped 1]
      dsimp only
      rw [show BitVec.ofNat 32 1 = (1 : BitVec 32) from rfl]
      ring
    · intro countable
      rw [counted] at countable ⊢
      have before := exact (lt_of_le_of_lt (Nat.le_add_right _ _) countable)
      rw [after]
      dsimp only
      rw [BitVec.toNat_add_of_lt, BitVec.toNat_add_of_lt, BitVec.toNat_ofNat,
        Nat.mod_eq_of_lt (by omega : skipped < 2 ^ 32)]
      · change watched.task.runs.toNat + 1 + _ = _
        omega
      · rw [BitVec.toNat_ofNat, Nat.mod_eq_of_lt (by omega : skipped < 2 ^ 32)]
        omega
      · change watched.task.runs.toNat + 1 < 4294967296
        omega

end Placed

/-- At its first check a task is enrolled, and checked as any other. -/
theorem first_eq (kind : SchedulerKind) (interval : BitVec 16) (moment : Moment) :
    first kind interval moment =
      check
        { task := SchedulerTask.enrol { kind := kind, interval := interval } moment.pass
          enrolled := moment
          checked := moment } moment :=
  rfl

theorem admits_again (watched : WatchedTask) : watched.Admits watched.checked :=
  ⟨le_rfl, by rw [Nat.sub_self]; decide, le_rfl⟩

theorem first_placed {kind : SchedulerKind} {interval : BitVec 16} (periodic : kind ≠ .slot)
    (some : interval ≠ 0) (moment : Moment) : (first kind interval moment).Placed := by
  have positive : 0 < interval.toNat := Nat.pos_of_ne_zero fun zero =>
    some (BitVec.eq_of_toNat_eq zero)
  have none : dueTimes
      { task := SchedulerTask.enrol { kind := kind, interval := interval } moment.pass
        enrolled := moment
        checked := moment } = 0 := by
    rw [dueTimes, Nat.sub_self, Nat.zero_div]
  rw [first_eq]
  refine Placed.check ⟨periodic, rfl, positive, le_rfl, ?_, ?_, ?_⟩ (admits_again _)
  · rw [nextDue, none, Nat.zero_add, Nat.one_mul, BitVec.ofNat_add, BitVec.ofNat_toNat]
    rfl
  · rw [none]
    rfl
  · intro _
    rw [none]
    rfl

/-! ## Slot tasks -/

/-- A slot task, its last epoch and its counts, where its latest check leaves it. -/
structure Slotted (watched : WatchedTask) : Prop where
  kind : watched.task.kind = .slot
  started : watched.task.started = true
  onward : watched.enrolled.epoch ≤ watched.checked.epoch
  last : watched.task.lastEpoch = BitVec.ofNat 32 (watched.enrolled.epoch + watched.epochsRun) - 1
  past : watched.enrolled.epoch + watched.epochsRun ≤ watched.checked.epoch + 1
  ran : ∀ run ∈ watched.ran, run.epoch < watched.enrolled.epoch + watched.epochsRun ∧
    watched.task.interval.toNat ≤ run.slot.toNat
  once : (watched.ran.map Moment.epoch).Pairwise (· > ·)
  counts : watched.task.runs + watched.task.missed = BitVec.ofNat 32 watched.epochsRun
  exact : watched.epochsRun < 4294967296 →
    watched.task.runs.toNat + watched.task.missed.toNat = watched.epochsRun

/-- The epochs since the task last ran, counted to one that it runs in. -/
def epochsSince (watched : WatchedTask) (moment : Moment) : Nat :=
  moment.epoch + 1 - (watched.enrolled.epoch + watched.epochsRun)

namespace Slotted

theorem epochs_eq (slotted : watched.Slotted) (admitted : watched.Admits moment) :
    moment.pass.epoch - watched.task.lastEpoch = BitVec.ofNat 32 (watched.epochsSince moment) := by
  have onward : watched.enrolled.epoch + watched.epochsRun ≤ moment.epoch + 1 :=
    slotted.past.trans (Nat.succ_le_succ admitted.2.2)
  rw [slotted.last, epochsSince, ← Wrapping.sub_eq onward, BitVec.ofNat_add moment.epoch 1,
    Moment.pass]
  dsimp only
  rw [show BitVec.ofNat 32 1 = (1 : BitVec 32) from rfl]
  ring

/-- A check that finds it due finds an epoch it has not run in. -/
theorem check_due (slotted : watched.Slotted) (admitted : watched.Admits moment)
    (new : moment.pass.epoch - watched.task.lastEpoch ≠ 0)
    (reached : watched.task.interval.toNat ≤ moment.slot.toNat) :
    (watched.check moment).Slotted := by
  have since := slotted.epochs_eq admitted
  have onward : watched.enrolled.epoch + watched.epochsRun ≤ moment.epoch + 1 :=
    slotted.past.trans (Nat.succ_le_succ admitted.2.2)
  have some : 0 < watched.epochsSince moment := by
    apply Nat.pos_of_ne_zero
    intro zero
    rw [since, zero] at new
    exact new rfl
  obtain ⟨lateMax, noted⟩ :=
    noteLateness_eq watched.task ((moment.slot - watched.task.interval).setWidth 32)
  have outcome : watched.check moment =
      { watched with
        task :=
          { watched.task with
            lastEpoch := moment.pass.epoch
            runs := watched.task.runs + 1
            missed := watched.task.missed + (moment.pass.epoch - watched.task.lastEpoch - 1)
            lateMax := lateMax }
        checked := moment
        ran := moment :: watched.ran } := by
    have waited : ¬(moment.pass.epoch - watched.task.lastEpoch = 0 ∨
        moment.pass.slot.toNat < watched.task.interval.toNat) := by
      rintro (none | early)
      · exact new none
      · exact Nat.not_le.mpr early reached
    rw [check, SchedulerTask.due, if_pos slotted.started, if_pos slotted.kind,
      SchedulerTask.slotDue]
    dsimp only
    rw [if_neg waited, show moment.pass.slot = moment.slot from rfl, noted]
    rfl
  have counted : (watched.check moment).epochsRun =
      watched.epochsRun + watched.epochsSince moment := by
    rw [outcome, epochsSince]
    change moment.epoch + 1 - watched.enrolled.epoch = _
    omega
  have reaches : watched.enrolled.epoch + (watched.check moment).epochsRun = moment.epoch + 1 := by
    rw [counted, epochsSince]
    omega
  have enrolled : (watched.check moment).enrolled = watched.enrolled := by rw [outcome]
  have exact := slotted.exact
  refine ⟨?_, ?_, ?_, ?_, ?_, ?_, ?_, ?_, ?_⟩
  · rw [outcome]
    exact slotted.kind
  · rw [outcome]
    exact slotted.started
  · rw [outcome]
    exact slotted.onward.trans admitted.2.2
  · rw [enrolled, reaches, outcome, BitVec.ofNat_add]
    exact (BitVec.add_sub_cancel _ _).symm
  · rw [enrolled, reaches, outcome]
  · rw [enrolled, reaches, outcome]
    intro run member
    rcases List.mem_cons.mp member with rfl | before
    · exact ⟨Nat.lt_succ_self _, reached⟩
    · obtain ⟨earlier, after⟩ := slotted.ran run before
      exact ⟨lt_of_lt_of_le earlier onward, after⟩
  · rw [outcome]
    refine List.pairwise_cons.mpr ⟨fun epoch member => ?_, slotted.once⟩
    obtain ⟨run, before, rfl⟩ := List.mem_map.mp member
    have earlier := (slotted.ran run before).1
    rw [epochsSince] at some
    change run.epoch < moment.epoch
    omega
  · rw [counted, outcome, BitVec.ofNat_add, ← slotted.counts, ← since]
    dsimp only
    ring
  · intro countable
    rw [counted] at countable ⊢
    have before := exact (lt_of_le_of_lt (Nat.le_add_right _ _) countable)
    have apart : (moment.pass.epoch - watched.task.lastEpoch - 1).toNat =
        watched.epochsSince moment - 1 := by
      rw [since]
      exact @Wrapping.toNat_sub 32 1 _ some (by omega)
    rw [outcome]
    dsimp only
    rw [BitVec.toNat_add_of_lt, BitVec.toNat_add_of_lt, apart]
    · change watched.task.runs.toNat + 1 + _ = _
      omega
    · rw [apart]
      omega
    · change watched.task.runs.toNat + 1 < 4294967296
      omega

theorem check (slotted : watched.Slotted) (admitted : watched.Admits moment) :
    (watched.check moment).Slotted := by
  by_cases waits : moment.pass.epoch - watched.task.lastEpoch = 0 ∨
      moment.pass.slot.toNat < watched.task.interval.toNat
  · have after : watched.check moment = { watched with checked := moment } := by
      rw [WatchedTask.check, SchedulerTask.due, if_pos slotted.started, if_pos slotted.kind,
        SchedulerTask.slotDue]
      dsimp only
      rw [if_pos waits]
      rfl
    rw [after]
    exact
      { slotted with
        onward := slotted.onward.trans admitted.2.2
        past := slotted.past.trans (Nat.succ_le_succ admitted.2.2) }
  · push Not at waits
    exact slotted.check_due admitted waits.1 waits.2

end Slotted

theorem first_slotted (interval : BitVec 16) (moment : Moment) :
    (first .slot interval moment).Slotted := by
  rw [first_eq]
  refine Slotted.check ⟨rfl, rfl, le_rfl, rfl, Nat.le_succ _, fun run member => ?_, .nil, rfl,
    fun _ => rfl⟩ (admits_again _)
  cases member

/-! ## Every run -/

theorem placed_or_slotted :
    machine.Invariant Admits fun watched => watched.Placed ∨ watched.Slotted where
  start := by
    rintro watched ⟨kind, interval, moment, some, rfl⟩
    by_cases slot : kind = .slot
    · rw [slot]
      exact .inr (first_slotted interval moment)
    · exact .inl (first_placed slot (some slot) moment)
  step := by
    rintro watched moment (placed | slotted) admitted
    · exact .inl (placed.check admitted)
    · exact .inr (slotted.check admitted)

/-- A periodic task keeps its place: after every check its next due time is on the grid of
its enrolment, after now and at most an interval ahead, and its runs and missed periods are
all the due times passed. A slot task runs at most once an epoch, never before its slot, and
its runs and missed epochs are all the epochs up to its last run. -/
theorem keeps_place (reached : machine.Reachable Admits watched) :
    (watched.task.kind ≠ .slot →
      (∃ next : Nat, watched.task.nextMs = BitVec.ofNat 32 next ∧
        next ≡ watched.enrolled.ms [MOD watched.task.interval.toNat] ∧
        watched.checked.ms < next ∧ next ≤ watched.checked.ms + watched.task.interval.toNat) ∧
      watched.task.runs + watched.task.missed = BitVec.ofNat 32 watched.dueTimes ∧
      (watched.dueTimes < 4294967296 →
        watched.task.runs.toNat + watched.task.missed.toNat = watched.dueTimes)) ∧
    (watched.task.kind = .slot →
      (watched.ran.map Moment.epoch).Pairwise (· > ·) ∧
      (∀ run ∈ watched.ran, watched.task.interval.toNat ≤ run.slot.toNat) ∧
      watched.task.runs + watched.task.missed = BitVec.ofNat 32 watched.epochsRun ∧
      (watched.epochsRun < 4294967296 →
        watched.task.runs.toNat + watched.task.missed.toNat = watched.epochsRun)) := by
  rcases placed_or_slotted.reachable reached with placed | slotted
  · refine ⟨fun _ => ⟨?_, placed.counts, placed.exact⟩, fun slot => absurd slot placed.kind⟩
    obtain ⟨after, near⟩ := checked_lt_nextDue placed.interval placed.onward
    refine ⟨watched.nextDue, placed.next, ?_, after, near⟩
    rw [nextDue, Nat.ModEq, Nat.add_mul_mod_self_right]
  · refine ⟨fun periodic => absurd slotted.kind periodic, fun _ => ⟨slotted.once, ?_,
      slotted.counts, slotted.exact⟩⟩
    exact fun run member => (slotted.ran run member).2

/-- A task every ten milliseconds, checked four milliseconds and then two and a half periods
after its enrolment, as the millisecond count wraps. -/
theorem keeps_place_late :
    (((first .periodic 10 ⟨4294967290, 7, 0⟩).check ⟨4294967294, 7, 4⟩).check
        ⟨4294967315, 7, 25⟩).task.runs +
      (((first .periodic 10 ⟨4294967290, 7, 0⟩).check ⟨4294967294, 7, 4⟩).check
        ⟨4294967315, 7, 25⟩).task.missed = BitVec.ofNat 32 2 :=
  have start : machine.Reachable Admits (first .periodic 10 ⟨4294967290, 7, 0⟩) :=
    .start ⟨.periodic, 10, _, fun _ => by decide, rfl⟩
  have once := start.step ⟨4294967294, 7, 4⟩ (by decide)
  have twice := once.step ⟨4294967315, 7, 25⟩ (by decide)
  ((keeps_place twice).1 (by decide)).2.1

/-- Every millisecond, checked as seldom as may be: after more than 2^32 due times the two
counts, of 32 bits, no longer add up to them. -/
theorem counts_wrap :
    ∃ watched, machine.Reachable Admits watched ∧ watched.task.kind = .periodic ∧
      watched.task.runs.toNat + watched.task.missed.toNat ≠ watched.dueTimes :=
  have start : machine.Reachable Admits (first .periodic 1 ⟨0, 0, 0⟩) :=
    .start ⟨.periodic, 1, _, fun _ => by decide, rfl⟩
  have once := start.step ⟨2147483647, 0, 0⟩ (by decide)
  have twice := once.step ⟨4294967294, 0, 0⟩ (by decide)
  have thrice := twice.step ⟨6442450941, 0, 0⟩ (by decide)
  ⟨_, thrice, by decide, by decide⟩

end WatchedTask

end GpsClock.Timing
