import GpsClock.Sync.Invariants

/-! # Free run, with nothing to steer by

While no source that steers gives the time, the synchroniser stays in free run: each
epoch counts the time on by a second, or labels it from the RTC if it is not known, and
a time set by hand is taken up at the next epoch, with the step that puts the epochs on
its seconds (`GpsClock.Sync.Synchroniser.Free.syncUpdate`).
-/

namespace GpsClock.Sync

open GpsClock.Platform GpsClock.Timing

/-- An epoch at which no source that steers gives the time, no leap second is announced
and the loop counts nominal seconds. -/
structure EpochInput.Quiet (input : EpochInput) : Prop where
  noTime : ∀ id, (definition id).steers = true → (input.reports id).timeValid = false
  noLeap : ∀ id, (input.reports id).leap.change = 0
  nominal : input.numbers.period = 40000000

theorem mem_sourceIds (id : SyncSourceId) : id ∈ sourceIds := by
  cases id <;> decide

instance (input : EpochInput) : Decidable input.Quiet :=
  decidable_of_iff
    ((∀ id ∈ sourceIds, (definition id).steers = true → (input.reports id).timeValid = false) ∧
      (∀ id ∈ sourceIds, (input.reports id).leap.change = 0) ∧ input.numbers.period = 40000000)
    ⟨fun all => ⟨fun id => all.1 id (mem_sourceIds id), fun id => all.2.1 id (mem_sourceIds id),
        all.2.2⟩,
      fun quiet => ⟨fun id _ => quiet.noTime id, fun id _ => quiet.noLeap id, quiet.nominal⟩⟩

/-- Nothing to steer by: of the sources that steer, none is placed or counted as usable. -/
def SyncStatus.Idle (status : SyncStatus) : Prop :=
  ∀ id, (definition id).steers = true →
    (status.sources id).check.placed = false ∧ (status.sources id).usableRun = 0

namespace SyncStatus

variable {status : SyncStatus}

theorem Idle.bestSource (idle : status.Idle) (untracked : status.isTracking = false) :
    status.bestSource none = none := by
  cases best : status.bestSource none with
  | none => rfl
  | some id =>
      have steers := bestSource_steers best
      have candidate := (bestSource_some best).2
      have bad : status.sourceGood (some id) = false := by
        have unplaced := (idle id steers).1
        cases good : (status.sources id).check <;> rw [good] at unplaced <;>
          simp_all [SyncCheck.placed, sourceGood]
      rw [candidateBound, steers, untracked] at candidate
      simp [bad] at candidate

theorem Idle.bestFallback (idle : status.Idle) : status.bestFallback = none := by
  cases best : status.bestFallback with
  | none => rfl
  | some id =>
      obtain impossible | ⟨eligible, _⟩ := lowest_some best
      · cases impossible
      · obtain ⟨steers, counted⟩ := Bool.and_eq_true_iff.mp eligible
        rw [sourceFallback, (idle id steers).2] at counted
        cases counted

end SyncStatus

/-- A report with no time is not placed, and ends the run of usable epochs. -/
theorem SyncSourceTracker.judge_noTime (tracker : SyncSourceTracker) {report : SyncSourceReport}
    (noTime : report.timeValid = false) (limit : Nat) (epoch : BitVec 32) :
    (tracker.judge report limit epoch).check.placed = false ∧
      (tracker.judge report limit epoch).usableRun = 0 := by
  have unplaced : (classify report limit).placed = false := by
    rw [classify, noTime]
    cases report.present <;> rfl
  have recorded (tracker : SyncSourceTracker) :
      (tracker.record report (classify report limit) epoch).check.placed = false ∧
        (tracker.record report (classify report limit) epoch).usableRun = 0 := by
    rw [record, recordCrossCheck]
    split
    · exact ⟨unplaced, by simp only [unplaced]; rfl⟩
    · exact ⟨unplaced, by simp only [unplaced]; rfl⟩
  rw [judge]
  simp only [noTime, Bool.and_false, Bool.false_and, Bool.false_eq_true, if_false]
  exact recorded _

theorem SyncSourceTracker.judge_report (tracker : SyncSourceTracker) (report : SyncSourceReport)
    (limit : Nat) (epoch : BitVec 32) : (tracker.judge report limit epoch).report = report := by
  have recorded (tracker : SyncSourceTracker) (check : SyncCheck) :
      (tracker.record report check epoch).report = report := by
    rw [record, recordCrossCheck]
    split <;> rfl
  rw [judge]
  dsimp only
  split <;> exact recorded _ _

namespace Synchroniser

/-- In free run from the start, with no step under way and no leap second announced. -/
structure Free (sync : Synchroniser) : Prop where
  freeRun : sync.status.state = .freeRun
  source : sync.status.source = none
  unsteered : sync.status.steered = false
  noResync : sync.resyncPending = false
  acquiring : sync.loop.state = .acquire
  noStep : sync.loop.freeRunStep = 0
  noLinkLeap : sync.status.linkLeap.change = 0
  noLeap : sync.status.time.leap.change = 0

theorem free_initial : Free {} := ⟨rfl, rfl, rfl, rfl, rfl, rfl, rfl, rfl⟩

/-- As before the sources are followed, in an epoch with nothing to steer by. -/
structure Ready (sync : Synchroniser) : Prop where
  freeRun : sync.status.state = .freeRun
  source : sync.status.source = none
  unsteered : sync.status.steered = false
  noResync : sync.resyncPending = false
  acquiring : sync.loop.state = .acquire
  noLinkLeap : sync.status.linkLeap.change = 0
  noLeap : sync.status.time.leap.change = 0
  noSourceLeap : ∀ id, (sync.status.sources id).report.leap.change = 0
  idle : sync.status.Idle

variable {sync : Synchroniser} {input : EpochInput}

theorem Ready.followSources (ready : sync.Ready) (epoch : BitVec 32) :
    sync.followSources epoch = sync := by
  have untracked : sync.status.isTracking = false := by
    rw [SyncStatus.isTracking, ready.freeRun]
    rfl
  rw [Synchroniser.followSources, ready.freeRun]
  dsimp only
  rw [followFreeRun]
  split
  · rfl
  · rw [ready.idle.bestSource untracked, ready.idle.bestFallback]

/-- What of the synchroniser a time set by hand, or the RTC's, is put in force by. -/
structure TakesUp (before after : Synchroniser) (epoch : BitVec 32) : Prop where
  settled : after.manualTime.pending = false
  set : before.manualTime.pending = true →
    after.status.time.known = true ∧ after.status.time.source = none ∧
      after.status.time.utcSeconds = before.manualTime.label epoch ∧
      after.status.aligned = true ∧
      after.loop.freeRunStep = (before.loop.requestFreeRunStep before.manualTime.step).freeRunStep
  kept : before.manualTime.pending = false → after.status.time = before.status.time
  aligned : before.status.aligned = true → after.status.aligned = true
  still : before.manualTime.pending = false → before.status.aligned = true →
    after.loop.freeRunStep = before.loop.freeRunStep

theorem Free.judgeSources (free : sync.Free) (quiet : input.Quiet) :
    (sync.judgeSources input).Ready where
  freeRun := free.freeRun
  source := free.source
  unsteered := free.unsteered
  noResync := free.noResync
  acquiring := free.acquiring
  noLinkLeap := free.noLinkLeap
  noLeap := free.noLeap
  noSourceLeap id := by
    have same : ((sync.judgeSources input).status.sources id).report = input.reports id :=
      SyncSourceTracker.judge_report _ _ _ _
    rw [same]
    exact quiet.noLeap id
  idle id steers := SyncSourceTracker.judge_noTime _ (quiet.noTime id steers) _ _

theorem Ready.applyManualTime (ready : sync.Ready) (epoch : BitVec 32) :
    (sync.applyManualTime epoch).Ready ∧ sync.TakesUp (sync.applyManualTime epoch) epoch := by
  rw [Synchroniser.applyManualTime]
  cases pending : sync.manualTime.pending with
  | false =>
      refine ⟨ready, pending, ?_, fun _ => rfl, id, fun _ _ => rfl⟩
      intro set
      rw [pending] at set
      cases set
  | true =>
      have taken : ¬(sync.status.state ≠ .freeRun ∨ sync.status.steered = true) := by
        rw [ready.freeRun, ready.unsteered]
        exact not_or.mpr ⟨fun differs => differs rfl, Bool.false_ne_true⟩
      rw [Bool.not_true, if_neg Bool.false_ne_true, if_neg taken]
      refine ⟨⟨ready.freeRun, ready.source, ready.unsteered, ready.noResync, ready.acquiring,
        ready.noLinkLeap, ready.noLeap, ready.noSourceLeap, ready.idle⟩, rfl,
        fun _ => ⟨rfl, rfl, rfl, rfl, rfl⟩, ?_, fun _ => rfl, ?_⟩
      · intro none
        rw [pending] at none
        cases none
      · intro none
        rw [pending] at none
        cases none

theorem Ready.settleFallback (ready : sync.Ready) : sync.settleFallback.Ready :=
  ⟨ready.freeRun, ready.source, ready.unsteered, ready.noResync, ready.acquiring,
    ready.noLinkLeap, ready.noLeap, ready.noSourceLeap, ready.idle⟩

/-- Putting the epoch on the RTC's second leaves the time, and is not done again. -/
theorem Ready.alignToTimeOfDay (ready : sync.Ready) :
    sync.alignToTimeOfDay.Ready ∧ sync.alignToTimeOfDay.status.time = sync.status.time ∧
      sync.alignToTimeOfDay.manualTime = sync.manualTime ∧
      (sync.status.aligned = true → sync.alignToTimeOfDay = sync) := by
  rw [Synchroniser.alignToTimeOfDay]
  split
  · exact ⟨ready, rfl, rfl, fun _ => rfl⟩
  · next aligning =>
      refine ⟨⟨ready.freeRun, ready.source, ready.unsteered, ready.noResync, ready.acquiring,
        ready.noLinkLeap, ready.noLeap, ready.noSourceLeap, ready.idle⟩, rfl, rfl, fun aligned => ?_⟩
      rw [SyncStatus.alignment, if_pos (.inr (.inl aligned))] at aligning
      cases aligning

theorem Free.beforeSources (free : sync.Free) (quiet : input.Quiet) :
    (sync.beforeSources input).Ready ∧
      sync.TakesUp (sync.beforeSources input) input.snapshot.sequence := by
  have resync : sync.applyResync input.snapshot.sequence = sync := by
    rw [Synchroniser.applyResync, free.noResync]
    rfl
  rw [Synchroniser.beforeSources, resync]
  obtain ⟨set, takes⟩ := (free.judgeSources quiet).applyManualTime input.snapshot.sequence
  obtain ⟨ready, time, manual, done⟩ := set.settleFallback.alignToTimeOfDay
  refine ⟨ready, ⟨by rw [manual]; exact takes.settled, fun pending => ?_, fun none => ?_,
    fun aligned => ?_, fun none aligned => ?_⟩⟩
  · obtain ⟨known, source, label, aligned, step⟩ := takes.set pending
    rw [time, done aligned]
    exact ⟨known, source, label, aligned, step⟩
  · rw [time]
    exact takes.kept none
  · have still := takes.aligned aligned
    rw [done still]
    exact still
  · rw [done (takes.aligned aligned)]
    exact takes.still none aligned

/-- The status as the loop's update leaves it in free run, but for holdover. -/
theorem followHoldover_freeRun {status : SyncStatus} (update : EpochUpdate)
    (freeRun : status.state = .freeRun) :
    ∃ holdover, status.followHoldover update = { status with holdover := holdover } := by
  rw [SyncStatus.followHoldover]
  split
  · next locked => exact absurd (freeRun.symm.trans locked.1) nofun
  · split
    · exact ⟨_, rfl⟩
    · exact ⟨status.holdover, rfl⟩

theorem utcAdvance_one (label : BitVec 32) (isLeap : Bool) :
    utcAdvance label isLeap 1 none = (label + 1, false) := by
  rw [utcAdvance]
  exact Prod.ext rfl (Bool.and_false isLeap)

/-- With no leap second about, a time that is known is counted on by a second; one that
is not stays without a leap second, whatever labels it. -/
theorem Ready.keepTime (ready : sync.Ready) (snapshot : TimingSnapshot) (wasLocked : Bool) :
    let time := (sync.status.keepTime snapshot false wasLocked).time
    time.leap.change = 0 ∧
      (sync.status.time.known = true →
        time.known = true ∧ time.source = sync.status.time.source ∧
          time.utcSeconds = sync.status.time.utcSeconds + 1) := by
  have announced : sync.status.time.leap.announced = none := by
    rw [UtcLeap.announced, if_pos ready.noLeap]
  have still : ¬sync.status.linkLeap.change ≠ 0 := not_not.mpr ready.noLinkLeap
  simp only [SyncStatus.keepTime, announced, utcAdvance_one, if_neg still]
  split
  · next known => exact ⟨ready.noLeap, fun _ => ⟨known, rfl, rfl⟩⟩
  · next unknown =>
      refine ⟨?_, fun known => absurd known unknown⟩
      rw [SyncStatus.seedTime]
      dsimp only
      split
      · exact ready.noLeap
      · simp only [SyncStatus.leapInUse]
        split
        · exact ready.noSourceLeap _
        · exact ready.noLinkLeap

/-- **An epoch in free run.** A time set by hand is taken up, the time is counted on,
and the interval after the next is as long as the step makes it. -/
theorem Free.syncUpdate (free : sync.Free) (quiet : input.Quiet) :
    let before := sync.beforeSources input
    let after := (sync.syncUpdate input).2
    after.Free ∧ after.manualTime = before.manualTime ∧
      after.status.aligned = before.status.aligned ∧
      after.loop.commandedPeriod = 40000000 + BitVec.ofInt 32 before.loop.freeRunStep ∧
      (before.status.time.known = true →
        after.status.time.known = true ∧ after.status.time.source = before.status.time.source ∧
          after.status.time.utcSeconds = before.status.time.utcSeconds + 1) := by
  obtain ⟨ready, -⟩ := free.beforeSources quiet
  simp only [Synchroniser.syncUpdate, Synchroniser.chosen, ready.followSources]
  generalize sync.beforeSources input = before at ready
  generalize (sync.status.state == .locked || sync.status.state == .holdover) = wasLocked
  have untracked : before.status.isTracking = false := by
    rw [SyncStatus.isTracking, ready.freeRun]
    rfl
  have unusable : edgeUsable before.status = false := by
    rw [edgeUsable, ready.source]
  have loop : (before.runLoop input).2 =
      { before with loop := (before.loop.hold input.snapshot input.numbers).2 } := by
    simp only [runLoop, loopTold, unusable, untracked, Bool.false_and, Bool.false_eq_true, if_false]
    rfl
  obtain ⟨acquiring, stepped⟩ :=
    EpochControl.hold_acquire input.snapshot input.numbers ready.acquiring
  have period := EpochControl.hold_commandedPeriod input.snapshot input.numbers ready.acquiring
  rw [quiet.nominal] at period
  have unlocked (loop : EpochControl) (update : EpochUpdate) :
      before.status.followLoop loop input.snapshot update = before.status := by
    rw [SyncStatus.followLoop, ready.freeRun, if_neg (fun acquire => nomatch acquire.1),
      if_neg (fun locked => nomatch locked.1)]
  rw [loop, unusable]
  generalize (before.runLoop input).1 = update
  obtain ⟨holdover, held⟩ := followHoldover_freeRun update ready.freeRun
  have bounded : Ready { before with
      status := SyncStatus.updateHoldoverBound { before.status with holdover := holdover } } :=
    ⟨ready.freeRun, ready.source, ready.unsteered, ready.noResync, ready.acquiring,
      ready.noLinkLeap, ready.noLeap, ready.noSourceLeap, ready.idle⟩
  have finished := bounded.keepTime input.snapshot wasLocked
  simp only [afterLoop, unlocked, held]
  exact ⟨⟨ready.freeRun, ready.source, ready.unsteered, ready.noResync, acquiring, stepped,
    ready.noLinkLeap, finished.1⟩, trivial, rfl, period, finished.2⟩

/-- A time set by hand in free run is taken, and waits for the next epoch. -/
theorem Free.syncSetTime (free : sync.Free) (utcSeconds epochSequence : BitVec 32) {slotMs : Nat}
    (inside : slotMs < 1000) :
    sync.syncSetTime utcSeconds epochSequence slotMs =
      (true, { sync with manualTime := ⟨true, utcSeconds, epochSequence, slotMs⟩ }) := by
  have taken : ¬(sync.status.state ≠ .freeRun ∨ sync.status.steered = true ∨ 1000 ≤ slotMs) := by
    rw [free.freeRun, free.unsteered]
    rintro (differs | steered | outside)
    · exact differs rfl
    · exact Bool.false_ne_true steered
    · exact Nat.not_le.mpr inside outside
  rw [Synchroniser.syncSetTime, if_neg taken]

end Synchroniser

end GpsClock.Sync
