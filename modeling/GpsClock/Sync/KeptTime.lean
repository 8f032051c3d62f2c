import GpsClock.Lib.Wrapping
import GpsClock.Sync.Invariants
import GpsClock.Sync.Placement
import GpsClock.Sync.Truthful

/-! # The time kept

Each epoch is nearest one true second, the next epoch the next. Where the sources stamp and
label their own edges truly and a leap second is announced by the second before it, the time
the synchroniser keeps is that second's, in every run: through sources gained, lost and
exchanged, acquisitions, holdovers, resynchronisations and the leap second itself
(`GpsClock.Sync.time_kept_true`). No label ever corrects it.
-/

namespace GpsClock.Sync

open GpsClock.Platform GpsClock.Timing

/-- How far a true second may be from a nominal one: a thousandth. -/
abbrev secondSlackTicks : Int := 40000

/-- True time: how the first second is labelled and when, on the capture's timebase, each
one begins. -/
structure TrueTime where
  first : Label
  leap : Option UtcLeap
  secondAt : Nat → Int
  paced : ∀ count, |secondAt (count + 1) - secondAt count - timingNominalTicks| ≤ secondSlackTicks

namespace TrueTime

variable (world : TrueTime)

/-- The label of a second, counted from the first. -/
def labelAt : Nat → Label
  | 0 => world.first
  | count + 1 => advance world.leap (labelAt count) 1

/-- No leap second but the true one is announced. -/
def NotFalse (leap : UtcLeap) : Prop :=
  leap.announced = none ∨ leap.announced = world.leap

/-- And the true one is, in the second before it. -/
structure Knows (leap : UtcLeap) (count : Nat) : Prop where
  notFalse : world.NotFalse leap
  inTime : LeapFollows world.leap (world.labelAt count) → leap.announced = world.leap

variable {world}

theorem Knows.counts {leap : UtcLeap} {count : Nat} (knows : world.Knows leap count) :
    advance leap.announced (world.labelAt count) 1 = world.labelAt (count + 1) := by
  rcases knows.notFalse with unannounced | announced
  · by_cases follows : LeapFollows world.leap (world.labelAt count)
    · rw [knows.inTime follows]
      rfl
    · have plain : ¬LeapFollows none (world.labelAt count) := by
        rintro ⟨known, impossible, _⟩
        cases impossible
      rw [unannounced, advance_one plain, labelAt, advance_one follows]
  · rw [announced]
    rfl

end TrueTime

/-- A labelled edge is the true second's it is labelled with, the epoch's own or the one
before. What the stamp less the offset is wrong by, and the epoch is off its second, are
together less than half a second. -/
def SyncSourceReport.Marks (report : SyncSourceReport) (world : TrueTime)
    (snapshot : TimingSnapshot) (count : Nat) : Prop :=
  ∃ second, (second = count ∨ second + 1 = count) ∧
    (report.utcSeconds, report.leapSecond) = world.labelAt second ∧
    if snapshot.epochCaptureValid = true then
      ∃ epochTicks edgeTicks : Int, snapshot.epochCapture = BitVec.ofInt 32 epochTicks ∧
        report.edgeStamp = BitVec.ofInt 32 edgeTicks ∧ |epochTicks - edgeTicks| < 2 ^ 31 ∧
        |epochTicks - world.secondAt count| +
            |edgeTicks - nsToTicks report.edgeOffsetNs - world.secondAt second| <
          timingHalfSecondTicks - secondSlackTicks
    else second = count

/-- The phase tells which of the two seconds the epoch is nearest. -/
theorem SyncSourceReport.Marks.labelEpoch {report : SyncSourceReport} {world : TrueTime}
    {snapshot : TimingSnapshot} {count : Nat} {leap : UtcLeap}
    (marks : report.Marks world snapshot count)
    (knows : ∀ second, second + 1 = count → world.Knows leap second) :
    SyncStatus.labelEpoch snapshot report leap = world.labelAt count := by
  obtain ⟨second, near, label, placed⟩ := marks
  cases valid : snapshot.epochCaptureValid with
  | false =>
      rw [valid, if_neg Bool.false_ne_true] at placed
      have unplaced : ¬(snapshot.epochCaptureValid = true ∧ timingNominalTicks.tdiv 2 ≤
          (snapshot.epochCapture - report.edgeStamp).toInt + nsToTicks report.edgeOffsetNs) := by
        rw [valid]
        exact fun later => Bool.false_ne_true later.1
      rw [SyncStatus.labelEpoch, if_neg unplaced, label, placed]
  | true =>
      rw [valid, if_pos rfl] at placed
      obtain ⟨epochTicks, edgeTicks, epoch, edge, recent, close⟩ := placed
      have raw : rawPhase snapshot report =
          epochTicks - edgeTicks + nsToTicks report.edgeOffsetNs := by
        rw [rawPhase, epoch, edge, Wrapping.toInt_ofInt_sub]
        · have := abs_lt.mp recent
          omega
        · have := abs_lt.mp recent
          omega
      rw [SyncStatus.labelEpoch_eq report leap valid, label, raw, secondsOn]
      have late := abs_le.mp (le_refl |epochTicks - world.secondAt count|)
      have wrong := abs_le.mp
        (le_refl |edgeTicks - nsToTicks report.edgeOffsetNs - world.secondAt second|)
      dsimp only [timingHalfSecondTicks, secondSlackTicks] at close ⊢
      rcases near with rfl | before
      · rw [if_neg (by omega), advance_zero]
      · have paced := abs_le.mp (world.paced second)
        rw [before] at paced
        dsimp only [timingNominalTicks, secondSlackTicks] at paced
        rw [if_pos (by omega), (knows second before).counts, before]

/-! ## What an update leaves of the time and is told of the sources -/

theorem SyncSourceTracker.judge_placed (tracker : SyncSourceTracker) {report : SyncSourceReport}
    {limit : Nat} {epoch : BitVec 32} (placed : (tracker.judge report limit epoch).check.placed = true) :
    report.labelledEdge = true := by
  have recorded (tracker : SyncSourceTracker) (check : SyncCheck) :
      (tracker.record report check epoch).check = check := by
    rw [record, recordCrossCheck]
    split <;> rfl
  by_contra unlabelled
  rw [SyncSourceReport.labelledEdge] at unlabelled
  rw [judge] at placed
  dsimp only at placed
  rw [if_neg unlabelled, recorded] at placed
  rw [classify] at placed
  split at placed
  · cases placed
  · split at placed
    · cases placed
    · split at placed
      · cases placed
      · split at placed
        · cases placed
        · simp_all

namespace Synchroniser

variable {sync after : Synchroniser} {input : EpochInput}

/-- Nothing that the time kept depends on is different, but which source is selected. -/
structure SameTime (before after : Synchroniser) : Prop where
  settled : after.manualTime = before.manualTime
  time : after.status.time = before.status.time
  linkLeap : after.status.linkLeap = before.status.linkLeap
  sources : after.status.sources = before.status.sources

theorem SameTime.trans {middle : Synchroniser} (first : sync.SameTime middle)
    (second : middle.SameTime after) : sync.SameTime after :=
  ⟨second.settled.trans first.settled, second.time.trans first.time,
    second.linkLeap.trans first.linkLeap, second.sources.trans first.sources⟩

theorem Follows.sameTime {epoch : BitVec 32} (follows : Follows epoch sync after) :
    sync.SameTime after := by
  cases follows with
  | idles => exact ⟨rfl, rfl, rfl, rfl⟩
  | counts => exact ⟨rfl, rfl, rfl, rfl⟩
  | wins => exact ⟨rfl, rfl, rfl, rfl⟩
  | acquires => exact ⟨rfl, rfl, rfl, rfl⟩
  | enters => exact ⟨rfl, rfl, rfl, rfl⟩
  | expires => exact ⟨rfl, rfl, rfl, rfl⟩

theorem alignToTimeOfDay_sameTime (sync : Synchroniser) : sync.SameTime sync.alignToTimeOfDay := by
  rw [alignToTimeOfDay]
  split <;> exact ⟨rfl, rfl, rfl, rfl⟩

/-- Up to the control loop: with no time set by hand, the time is as it was, and the sources
are judged by what they report. -/
theorem chosen_sameTime (settled : sync.manualTime.pending = false) (input : EpochInput) :
    ((sync.applyResync input.snapshot.sequence).judgeSources input).SameTime (sync.chosen input) := by
  have still : ((sync.applyResync input.snapshot.sequence).judgeSources input).manualTime.pending =
      false := by
    rw [judgeSources, applyResync]
    split <;> exact settled
  have unset : ((sync.applyResync input.snapshot.sequence).judgeSources input).applyManualTime
      input.snapshot.sequence = (sync.applyResync input.snapshot.sequence).judgeSources input := by
    rw [applyManualTime, still, Bool.not_false, if_pos rfl]
  rw [chosen, beforeSources, unset]
  generalize (sync.applyResync input.snapshot.sequence).judgeSources input = judged
  have settles : judged.SameTime judged.settleFallback := ⟨rfl, rfl, rfl, rfl⟩
  exact (settles.trans judged.settleFallback.alignToTimeOfDay_sameTime).trans
    (followSources_follows _ _).sameTime

/-- What an update turns to the control loop with. -/
structure Turned (sync : Synchroniser) (input : EpochInput) (after : Synchroniser) : Prop where
  settled : after.manualTime.pending = false
  time : after.status.time = sync.status.time
  linkLeap : after.status.linkLeap = sync.status.linkLeap
  report : ∀ id, (after.status.sources id).report = input.reports id
  placed : ∀ id, (after.status.sources id).check.placed = true →
    (input.reports id).labelledEdge = true

theorem chosen_turned (settled : sync.manualTime.pending = false) (input : EpochInput) :
    sync.Turned input (sync.chosen input) := by
  have same := chosen_sameTime settled input
  have fresh : ((sync.applyResync input.snapshot.sequence).judgeSources input).status.time =
      sync.status.time ∧
      ((sync.applyResync input.snapshot.sequence).judgeSources input).status.linkLeap =
        sync.status.linkLeap ∧
      ((sync.applyResync input.snapshot.sequence).judgeSources input).manualTime =
        sync.manualTime := by
    rw [judgeSources, applyResync]
    split <;> exact ⟨rfl, rfl, rfl⟩
  obtain ⟨time, linkLeap, manual⟩ := fresh
  refine ⟨?_, same.time.trans time, same.linkLeap.trans linkLeap, fun id => ?_, fun id placed => ?_⟩
  · rw [same.settled, manual]
    exact settled
  · rw [same.sources]
    exact SyncStatus.judge_report _ _ _
  · rw [same.sources] at placed
    exact SyncSourceTracker.judge_placed _ placed

/-- What follows the loop changes none of what the time depends on. -/
theorem afterLoop_time (sync : Synchroniser) (input : EpochInput) (update : EpochUpdate)
    (usable wasLocked : Bool) :
    ∃ followed : SyncStatus, followed.time = sync.status.time ∧
      followed.linkLeap = sync.status.linkLeap ∧ followed.sources = sync.status.sources ∧
      followed.source = sync.status.source ∧
      (sync.afterLoop input update usable wasLocked).status.time =
        (followed.keepTime input.snapshot usable wasLocked).time ∧
      (sync.afterLoop input update usable wasLocked).status.linkLeap = sync.status.linkLeap ∧
      (sync.afterLoop input update usable wasLocked).manualTime = sync.manualTime := by
  have looped : ∀ loop, (sync.status.followLoop loop input.snapshot update).time = sync.status.time ∧
      (sync.status.followLoop loop input.snapshot update).linkLeap = sync.status.linkLeap ∧
      (sync.status.followLoop loop input.snapshot update).sources = sync.status.sources ∧
      (sync.status.followLoop loop input.snapshot update).source = sync.status.source := by
    intro loop
    rw [SyncStatus.followLoop]
    split
    · exact ⟨rfl, rfl, rfl, rfl⟩
    · split <;> exact ⟨rfl, rfl, rfl, rfl⟩
  have held : ∀ status : SyncStatus, (status.followHoldover update).time = status.time ∧
      (status.followHoldover update).linkLeap = status.linkLeap ∧
      (status.followHoldover update).sources = status.sources ∧
      (status.followHoldover update).source = status.source := by
    intro status
    rw [SyncStatus.followHoldover]
    split
    · exact ⟨rfl, rfl, rfl, rfl⟩
    · split <;> exact ⟨rfl, rfl, rfl, rfl⟩
  obtain ⟨time, linkLeap, sources, source⟩ := looped sync.loop
  obtain ⟨timeHeld, linkLeapHeld, sourcesHeld, sourceHeld⟩ :=
    held (sync.status.followLoop sync.loop input.snapshot update)
  have ranked (status : SyncStatus) : (status.rankSecond.countEpoch update).time = status.time ∧
      (status.rankSecond.countEpoch update).linkLeap = status.linkLeap := ⟨rfl, rfl⟩
  rw [afterLoop]
  refine ⟨((sync.status.followLoop sync.loop input.snapshot
      update).followHoldover update).updateHoldoverBound, timeHeld.trans time,
    linkLeapHeld.trans linkLeap, sourcesHeld.trans sources, sourceHeld.trans source, ?_, ?_, rfl⟩
  · exact (ranked _).1
  · exact (ranked _).2.trans (linkLeapHeld.trans linkLeap)

end Synchroniser

/-! ## The time of an update -/

namespace SyncStatus

variable {status : SyncStatus} {snapshot : TimingSnapshot} {world : TrueTime} {count : Nat}

/-- What a source's report must be, if its edge is labelled, for the time taken from it to be
true and to be counted on from. -/
structure Tells (status : SyncStatus) (snapshot : TimingSnapshot) (world : TrueTime) (count : Nat)
    (report : SyncSourceReport) : Prop where
  marks : report.Marks world snapshot count
  before : ∀ second, second + 1 = count → world.Knows (status.leapInUse report) second
  next : world.Knows (status.leapInUse report) count

/-- The leap second counted by while no source is used: the one the ESP announces, or the one
known before. -/
def leapKept (status : SyncStatus) : UtcLeap :=
  if status.linkLeap.change ≠ 0 then status.linkLeap else status.time.leap

/-- The time kept is the true label of the second, with the leap second known. -/
structure TimeTrue (status : SyncStatus) (world : TrueTime) (count : Nat) : Prop where
  label : status.time.known = true →
    (status.time.utcSeconds, status.time.leapSecond) = world.labelAt count
  leap : status.time.known = true → world.Knows status.time.leap count
  uncorrected : status.time.corrections = 0

theorem placed_of_usable {id : SyncSourceId} (source : status.source = some id)
    (usable : Synchroniser.edgeUsable status = true) :
    (status.sources id).check.placed = true := by
  rw [Synchroniser.edgeUsable, source] at usable
  simp only [Bool.and_eq_true, sourceUsable, sourceGood, Bool.or_eq_true, beq_iff_eq] at usable
  rw [SyncCheck.placed, Bool.or_eq_true, beq_iff_eq, beq_iff_eq]
  exact usable.1.2.imp (fun good => good) And.right

theorem seedTime_true
    (tells : ∀ id, (status.sources id).check.placed = true →
      status.Tells snapshot world count (status.sources id).report)
    (unknown : status.time.known = false) (uncorrected : status.time.corrections = 0) :
    ({ status with time := status.seedTime snapshot } : SyncStatus).TimeTrue world count := by
  rw [seedTime]
  split
  · refine ⟨fun known => ?_, fun known => ?_, uncorrected⟩ <;>
      exact absurd (unknown.symm.trans known) Bool.false_ne_true
  · next best found =>
      have placed : (status.sources best).check.placed = true := by
        rcases lowest_some found with impossible | ⟨eligible, _⟩
        · cases impossible
        · exact (Bool.and_eq_true_iff.mp eligible).1
      obtain ⟨marks, before, next⟩ := tells best placed
      exact ⟨fun _ => marks.labelEpoch before, fun _ => next, uncorrected⟩

theorem keepTime_true (kept : status.TimeTrue world count)
    (tells : ∀ id, (status.sources id).check.placed = true →
      status.Tells snapshot world (count + 1) (status.sources id).report)
    (leap : status.time.known = true → world.Knows status.leapKept (count + 1))
    {usable : Bool} (fit : usable = true → ∀ id, status.source = some id →
      (status.sources id).check.placed = true) (wasLocked : Bool) :
    (status.keepTime snapshot usable wasLocked).TimeTrue world (count + 1) := by
  have counted (known : status.time.known = true) :
      utcAdvance status.time.utcSeconds status.time.leapSecond 1 status.time.leap.announced =
        world.labelAt (count + 1) := by
    rw [← (kept.leap known).counts, ← kept.label known]
  have uncounted : (if status.time.known then
      ({ status.time with
        utcSeconds := (utcAdvance status.time.utcSeconds status.time.leapSecond 1
          status.time.leap.announced).1
        leapSecond := (utcAdvance status.time.utcSeconds status.time.leapSecond 1
          status.time.leap.announced).2
        leap := status.leapKept } : SyncTime)
      else status.seedTime snapshot) = (status.keepTime snapshot false wasLocked).time := rfl
  have unused : (status.keepTime snapshot false wasLocked).TimeTrue world (count + 1) := by
    cases known : status.time.known with
    | false =>
        have seeded := seedTime_true tells known kept.uncorrected
        have time : (status.keepTime snapshot false wasLocked).time = status.seedTime snapshot := by
          rw [← uncounted, known, if_neg Bool.false_ne_true]
        refine ⟨fun knows => ?_, fun knows => ?_, ?_⟩ <;> rw [time] at *
        · exact seeded.label knows
        · exact seeded.leap knows
        · exact seeded.uncorrected
    | true =>
        rw [known, if_pos rfl] at uncounted
        refine ⟨fun _ => ?_, fun _ => ?_, ?_⟩ <;> rw [← uncounted]
        · exact counted known
        · exact leap known
        · exact kept.uncorrected
  cases usable with
  | false => exact unused
  | true =>
      cases source : status.source with
      | none =>
          have same : status.keepTime snapshot true wasLocked =
              status.keepTime snapshot false wasLocked := by
            simp only [keepTime, source]
          rw [same]
          exact unused
      | some id =>
          obtain ⟨marks, before, next⟩ := tells id (fit rfl id source)
          have label := marks.labelEpoch before
          have corrections : (if wasLocked = true ∧ status.time.known = true ∧
              labelEpoch snapshot (status.sources id).report
                (status.leapInUse (status.sources id).report) ≠
                  utcAdvance status.time.utcSeconds status.time.leapSecond 1
                    status.time.leap.announced
              then status.time.corrections + 1 else status.time.corrections) = 0 := by
            rw [if_neg fun moved => moved.2.2 (label.trans (counted moved.2.1).symm)]
            exact kept.uncorrected
          have time : (status.keepTime snapshot true wasLocked).time =
              { status.time with
                leap := status.leapInUse (status.sources id).report
                corrections := 0
                utcSeconds := (labelEpoch snapshot (status.sources id).report
                  (status.leapInUse (status.sources id).report)).1
                leapSecond := (labelEpoch snapshot (status.sources id).report
                  (status.leapInUse (status.sources id).report)).2
                known := true
                source := some id } := by
            rw [← corrections]
            simp only [keepTime, source]
          refine ⟨fun _ => ?_, fun _ => ?_, ?_⟩ <;> rw [time]
          · exact label
          · exact next

end SyncStatus

/-! ## Every run -/

/-- The synchroniser, and how many epochs there have been. -/
structure Keeper where
  sync : Synchroniser
  count : Nat

namespace Keeper

def step (keeper : Keeper) : SyncAct → Keeper
  | .update input => ⟨(keeper.sync.syncUpdate input).2, keeper.count + 1⟩
  | act => ⟨synchroniser.step keeper.sync act, keeper.count⟩

def machine : Machine Keeper SyncAct where
  start keeper := keeper = ⟨{}, 0⟩
  step := step

/-- Truthful sources, a leap second announced by the second before it, to whoever counts, and
no time set by hand. -/
def Truthful (world : TrueTime) (keeper : Keeper) : SyncAct → Prop
  | .update input =>
      (∀ id, (input.reports id).labelledEdge = true →
        keeper.sync.status.Tells input.snapshot world (keeper.count + 1) (input.reports id)) ∧
      (keeper.sync.status.time.known = true →
        LeapFollows world.leap (world.labelAt (keeper.count + 1)) →
          keeper.sync.status.leapKept.announced = world.leap)
  | .resync => True
  | .setLeap leap => world.NotFalse leap
  | .setTime utcSeconds epochSequence slotMs =>
      (keeper.sync.syncSetTime utcSeconds epochSequence slotMs).1 = false

/-- What every act of a truthful run keeps. -/
structure Kept (world : TrueTime) (keeper : Keeper) : Prop where
  settled : keeper.sync.manualTime.pending = false
  link : world.NotFalse keeper.sync.status.linkLeap
  time : keeper.sync.status.TimeTrue world keeper.count

variable {world : TrueTime} {keeper : Keeper}

theorem Kept.update (kept : keeper.Kept world) {input : EpochInput}
    (truthful : keeper.Truthful world (.update input)) :
    (keeper.step (.update input)).Kept world := by
  obtain ⟨tells, leap⟩ := truthful
  have turned := keeper.sync.chosen_turned kept.settled input
  have usable := @SyncStatus.placed_of_usable (keeper.sync.chosen input).status
  have ran : ((keeper.sync.chosen input).runLoop input).2.status = (keeper.sync.chosen input).status ∧
      ((keeper.sync.chosen input).runLoop input).2.manualTime =
        (keeper.sync.chosen input).manualTime := ⟨rfl, rfl⟩
  simp only [step, Synchroniser.syncUpdate]
  generalize keeper.sync.chosen input = chosen at *
  obtain ⟨followed, time, linkLeap, sources, source, after, link, manual⟩ :=
    (chosen.runLoop input).2.afterLoop_time input (chosen.runLoop input).1
      (Synchroniser.edgeUsable chosen.status)
      (keeper.sync.status.state == .locked || keeper.sync.status.state == .holdover)
  rw [ran.1] at time linkLeap sources source link
  rw [ran.2] at manual
  refine ⟨(congrArg ManualTime.pending manual).trans turned.settled, ?_, ?_⟩
  · rw [link, turned.linkLeap]
    exact kept.link
  · have leapInUse (report : SyncSourceReport) :
        followed.leapInUse report = keeper.sync.status.leapInUse report := by
      rw [SyncStatus.leapInUse, SyncStatus.leapInUse, linkLeap, turned.linkLeap]
    have before : followed.TimeTrue world keeper.count := by
      refine ⟨?_, ?_, ?_⟩ <;> rw [time, turned.time]
      · exact kept.time.label
      · exact kept.time.leap
      · exact kept.time.uncorrected
    have tell (id : SyncSourceId) (placed : (followed.sources id).check.placed = true) :
        followed.Tells input.snapshot world (keeper.count + 1) (followed.sources id).report := by
      rw [sources] at placed ⊢
      obtain ⟨marks, before, next⟩ := tells id (turned.placed id placed)
      rw [turned.report]
      exact ⟨marks, by rw [leapInUse]; exact before, by rw [leapInUse]; exact next⟩
    have leapKept : followed.leapKept = keeper.sync.status.leapKept := by
      rw [SyncStatus.leapKept, SyncStatus.leapKept, linkLeap, turned.linkLeap, time, turned.time]
    have known (known : followed.time.known = true) :
        world.Knows followed.leapKept (keeper.count + 1) := by
      rw [time, turned.time] at known
      rw [leapKept]
      refine ⟨?_, leap known⟩
      rw [SyncStatus.leapKept]
      split
      · exact kept.link
      · exact (kept.time.leap known).notFalse
    have fit (usable_ : Synchroniser.edgeUsable chosen.status = true) (id : SyncSourceId)
        (selected : followed.source = some id) : (followed.sources id).check.placed = true := by
      rw [sources]
      exact usable (source.symm.trans selected) usable_
    have true_ := SyncStatus.keepTime_true before tell known fit
      (keeper.sync.status.state == .locked || keeper.sync.status.state == .holdover)
    exact ⟨by rw [after]; exact true_.label, by rw [after]; exact true_.leap,
      by rw [after]; exact true_.uncorrected⟩

theorem kept_invariant (world : TrueTime) : machine.Invariant (Truthful world) (Kept world) where
  start keeper started := by
    rw [started]
    refine ⟨rfl, .inl rfl, fun known => ?_, fun known => ?_, rfl⟩ <;> cases known
  step keeper act kept truthful := by
    cases act with
    | update input => exact kept.update truthful
    | resync => exact ⟨kept.settled, kept.link, kept.time⟩
    | setLeap leap =>
        refine ⟨kept.settled, ?_, ⟨kept.time.label, kept.time.leap, kept.time.uncorrected⟩⟩
        have told : world.NotFalse leap := truthful
        simp only [machine, step, synchroniser, Synchroniser.syncSetLeap]
        split
        · next none =>
            refine .inl ?_
            rw [UtcLeap.announced]
            exact if_pos none
        · exact told
    | setTime utcSeconds epochSequence slotMs =>
        have refused : (keeper.sync.syncSetTime utcSeconds epochSequence slotMs).1 = false := truthful
        have same : (keeper.sync.syncSetTime utcSeconds epochSequence slotMs).2 = keeper.sync := by
          rw [Synchroniser.syncSetTime] at refused ⊢
          split at refused
          · next refuses => rw [if_pos refuses]
          · cases refused
        simp only [machine, step, synchroniser]
        rw [same]
        exact kept

end Keeper

/-- **The time kept is the time.** Whatever the sources do and whichever is used, with every
labelled edge its own second's and the leap second known by the second before it: once the
synchroniser knows the time, it keeps the true label of the second its epoch is nearest, and no
label has ever corrected it. -/
theorem time_kept_true {world : TrueTime} {keeper : Keeper}
    (reached : Keeper.machine.Reachable (Keeper.Truthful world) keeper)
    (known : keeper.sync.status.time.known = true) :
    (keeper.sync.status.time.utcSeconds, keeper.sync.status.time.leapSecond) =
        world.labelAt keeper.count ∧
      keeper.sync.status.time.corrections = 0 :=
  have kept := (Keeper.kept_invariant world).reachable reached
  ⟨kept.time.label known, kept.time.uncorrected⟩

/-- The end of 2016, on a crystal without error. -/
def endOf2016 : TrueTime where
  first := (1483228798, false)
  leap := some ⟨1483228800, 1⟩
  secondAt count := count * timingNominalTicks
  paced count := by
    have exact_ : ((count + 1 : Nat) : Int) * timingNominalTicks - count * timingNominalTicks -
        timingNominalTicks = 0 := by
      push_cast
      ring
    rw [exact_]
    decide

/-- The receiver's last edge, half a millisecond before the epoch at 23:59:59. -/
def lastEdge : EpochInput where
  snapshot := { sequence := 1, epochCapture := 40020000, epochCaptureValid := true }
  reports
    | .gnss =>
        { present := true
          timeValid := true
          edge := true
          edgeStamp := 40000000
          labelled := true
          utcSeconds := 1483228799
          uncertaintyNs := 1000 }
    | _ => {}

/-- The ESP announces the leap second, the receiver labels the second before it and is gone:
the inserted second is counted. -/
theorem time_kept_true_2016 :
    let keeper := [SyncAct.setLeap ⟨1483228800, 1⟩, .update lastEdge, .update {}].foldl
      Keeper.machine.step ⟨{}, 0⟩
    (keeper.sync.status.time.utcSeconds, keeper.sync.status.time.leapSecond) =
        endOf2016.labelAt 2 ∧
      keeper.sync.status.time.corrections = 0 ∧ endOf2016.labelAt 2 = (1483228799, true) := by
  have announced : (UtcLeap.mk 1483228800 1).announced = endOf2016.leap := rfl
  have knows (count : Nat) : endOf2016.Knows ⟨1483228800, 1⟩ count := ⟨.inr announced, fun _ => announced⟩
  have first : Keeper.machine.Reachable (Keeper.Truthful endOf2016)
      (Keeper.machine.step ⟨{}, 0⟩ (.setLeap ⟨1483228800, 1⟩)) :=
    .step (.start rfl) _ (.inr announced)
  have second : Keeper.machine.Reachable (Keeper.Truthful endOf2016)
      ([SyncAct.setLeap ⟨1483228800, 1⟩, .update lastEdge].foldl Keeper.machine.step ⟨{}, 0⟩) := by
    refine first.step (.update lastEdge) ⟨fun id labelled => ?_, fun known => by cases known⟩
    cases id with
    | gnss =>
        refine ⟨⟨1, .inl rfl, rfl, ?_⟩, fun second _ => knows second, knows 1⟩
        exact ⟨40020000, 40000000, rfl, rfl, by decide, by decide⟩
    | ntp => cases labelled
    | rtc => cases labelled
  have third : Keeper.machine.Reachable (Keeper.Truthful endOf2016)
      ([SyncAct.setLeap ⟨1483228800, 1⟩, .update lastEdge, .update {}].foldl
        Keeper.machine.step ⟨{}, 0⟩) := by
    refine second.step (.update {}) ⟨fun id labelled => ?_, fun _ _ => rfl⟩
    cases id <;> cases labelled
  have kept := time_kept_true third (by decide)
  exact ⟨kept.1, kept.2, by decide⟩

end GpsClock.Sync
