import GpsClock.Platform.Timeline
import GpsClock.Sync.Synchroniser

/-! # The second an epoch is placed on

`label_epoch` gives our epoch a second from a source's edge, and `judge_sources` gives it
a phase against that source, each with its own threshold. They part the same distance
into whole seconds and what is left (`GpsClock.Sync.label_and_phase_agree`).
-/

namespace GpsClock.Sync

open GpsClock.Platform GpsClock.Timing

/-- Our epoch less the UTC second its source's edge marks, in ticks. -/
def rawPhase (snapshot : TimingSnapshot) (report : SyncSourceReport) : Int :=
  (snapshot.epochCapture - report.edgeStamp).toInt + nsToTicks report.edgeOffsetNs

/-- How many seconds after the edge's our epoch is labelled: none, or one from half a
second on. -/
def secondsOn (raw : Int) : BitVec 32 :=
  if timingHalfSecondTicks ≤ raw then 1 else 0

theorem secondsOn_wrapPhase {raw : Int} (early : -timingHalfSecondTicks ≤ raw)
    (late : raw < timingHalfSecondTicks + timingNominalTicks) :
    (secondsOn raw).toNat * timingNominalTicks + wrapPhase raw timingNominalTicks = raw ∧
      |wrapPhase raw timingNominalTicks| ≤ timingHalfSecondTicks := by
  have half : timingNominalTicks.tdiv 2 = timingHalfSecondTicks := by decide
  rw [secondsOn, wrapPhase, half, if_neg (not_lt.mpr early), abs_le]
  split
  · refine ⟨?_, ?_⟩
    · change 1 * timingNominalTicks + (raw - timingNominalTicks) = raw
      omega
    · dsimp only [timingHalfSecondTicks, timingNominalTicks] at *
      omega
  · next near =>
    refine ⟨?_, early, (not_le.mp near).le⟩
    change 0 * timingNominalTicks + raw = raw
    omega

namespace SyncStatus

variable {status : SyncStatus} {snapshot : TimingSnapshot} {report : SyncSourceReport}

theorem judge_report (tracker : SyncSourceTracker) (maxUncertaintyNs : Nat) (epoch : BitVec 32) :
    (tracker.judge report maxUncertaintyNs epoch).report = report := by
  have recorded (tracker : SyncSourceTracker) (check : SyncCheck) :
      (tracker.record report check epoch).report = report := by
    rw [SyncSourceTracker.record, SyncSourceTracker.recordCrossCheck]
    split <;> rfl
  rw [SyncSourceTracker.judge]
  dsimp only
  split <;> exact recorded _ _

theorem judgeSource_phase (status : SyncStatus) (id : SyncSourceId) (edge : report.edge = true)
    (captured : snapshot.epochCaptureValid = true) :
    (status.judgeSource snapshot report id).report = report ∧
      (status.judgeSource snapshot report id).phaseValid = true ∧
      (status.judgeSource snapshot report id).phaseTicks =
        wrapPhase (rawPhase snapshot report) timingNominalTicks := by
  refine ⟨judge_report _ _ _, ?_, ?_⟩
  · simp only [judgeSource, edge, captured, Bool.and_self]
  · simp only [judgeSource, edge, captured, Bool.and_self, if_true, rawPhase]

theorem labelEpoch_eq (report : SyncSourceReport) (leap : UtcLeap) (captured : snapshot.epochCaptureValid = true) :
    labelEpoch snapshot report leap =
      advance leap.announced (report.utcSeconds, report.leapSecond)
        (secondsOn (rawPhase snapshot report)) := by
  have half : timingNominalTicks.tdiv 2 = timingHalfSecondTicks := by decide
  rw [labelEpoch, secondsOn, rawPhase, captured, half]
  split
  · next far => rw [if_pos far.2]
  · next near => rw [if_neg fun far => near ⟨rfl, far⟩, advance_zero]

/-- **The label and the phase agree.** For an epoch within half a second before its
source's second and half a second after the next, the label is so many seconds on from
the edge's by `utc_advance`, leap second or not, and what the phase says is left is at
most half a second and makes up the distance; with no leap second between, the labels'
difference is that many seconds. -/
theorem label_and_phase_agree (status : SyncStatus) (id : SyncSourceId) (leap : UtcLeap)
    (edge : report.edge = true) (captured : snapshot.epochCaptureValid = true)
    (early : -timingHalfSecondTicks ≤ rawPhase snapshot report)
    (late : rawPhase snapshot report < timingHalfSecondTicks + timingNominalTicks) :
    let tracker := status.judgeSource snapshot report id
    let label := labelEpoch snapshot tracker.report leap
    tracker.phaseValid = true ∧ |tracker.phaseTicks| ≤ timingHalfSecondTicks ∧
      (∃ seconds : BitVec 32,
        label = advance leap.announced (report.utcSeconds, report.leapSecond) seconds ∧
          seconds.toNat * timingNominalTicks + tracker.phaseTicks = rawPhase snapshot report) ∧
      (¬LeapFollows leap.announced (report.utcSeconds, report.leapSecond) →
        (label.1 - report.utcSeconds).toNat * timingNominalTicks + tracker.phaseTicks =
          rawPhase snapshot report) := by
  obtain ⟨same, valid, phase⟩ := judgeSource_phase status id edge captured
  obtain ⟨parts, small⟩ := secondsOn_wrapPhase early late
  have label := labelEpoch_eq report leap captured
  dsimp only
  rw [same, valid, phase, label]
  refine ⟨rfl, small, ⟨_, rfl, parts⟩, fun none => ?_⟩
  have apart : (advance leap.announced (report.utcSeconds, report.leapSecond)
      (secondsOn (rawPhase snapshot report))).1 - report.utcSeconds =
        secondsOn (rawPhase snapshot report) := by
    rw [secondsOn]
    split
    · rw [advance_one none]
      grind
    · rw [advance_zero]
      grind
  rw [apart]
  exact parts

/-- Three quarters of a second after a source's edge. -/
def lateSnapshot : TimingSnapshot where
  epochCaptureValid := true
  epochCapture := 30000000

def edgeReport : SyncSourceReport where
  edge := true
  labelled := true
  utcSeconds := 1483228798

theorem label_and_phase_agree_late :
    |(({} : SyncStatus).judgeSource lateSnapshot edgeReport .gnss).phaseTicks| ≤
      timingHalfSecondTicks :=
  (label_and_phase_agree {} .gnss leap2016 rfl rfl (by decide) (by decide)).2.1

example : labelEpoch lateSnapshot edgeReport leap2016 = (1483228799, false) := by decide

end SyncStatus

end GpsClock.Sync
