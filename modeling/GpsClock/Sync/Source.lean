import GpsClock.Platform.Utc

/-! # Judging one source's reports

`sync_source.c`: every source is reduced to one report an epoch, and each report is
judged the same way whatever the source. The verdict is the most fundamental
failure, or GOOD; two runs count the epochs in a row that were GOOD, and that were
GOOD but for their accuracy.
-/

namespace GpsClock.Sync

open GpsClock.Platform

structure SyncSourceReport where
  present : Bool := false
  timeValid : Bool := false
  edge : Bool := false
  edgeSequence : BitVec 32 := 0
  captured : Bool := false
  edgeStamp : BitVec 32 := 0
  edgeOffsetNs : Int := 0
  stepped : Bool := false
  labelled : Bool := false
  utcSeconds : BitVec 32 := 0
  leapSecond : Bool := false
  leap : UtcLeap := ⟨0, 0⟩
  uncertaintyNs : Nat := 0
  crossCheck : Bool := false
  crossCheckNs : Int := 0
  deriving DecidableEq, Repr

/-- `SYNC_CHECK_*`. -/
inductive SyncCheck
  | absent
  | noTime
  | noEdge
  | unlabelled
  | inaccurate
  | inconsistent
  | good
  deriving DecidableEq, Repr

/-- GOOD, or only INACCURATE. -/
def SyncCheck.placed (check : SyncCheck) : Bool :=
  check == .good || check == .inaccurate

structure SyncSourceTracker where
  check : SyncCheck := .absent
  report : SyncSourceReport := {}
  goodRun : Nat := 0
  usableRun : Nat := 0
  lastGoodEpoch : BitVec 32 := 0
  boundNs : Nat := 0
  phaseValid : Bool := false
  phaseTicks : Int := 0
  hasLabel : Bool := false
  lastLabel : BitVec 32 := 0
  lastLabelLeap : Bool := false
  lastLabelEdge : BitVec 32 := 0
  labelJumps : BitVec 32 := 0
  verdicts : SyncCheck → BitVec 32 := fun _ => 0
  crossChecks : BitVec 32 := 0
  crossCheckMinNs : Int := 0
  crossCheckMaxNs : Int := 0

/-- A `uint16_t` run, saturating. -/
def countRun (going : Bool) (run : Nat) : Nat :=
  if going then (if run < 0xFFFF then run + 1 else run) else 0

/-- `classify`: the first failure that applies. -/
def classify (report : SyncSourceReport) (maxUncertaintyNs : Nat) : SyncCheck :=
  if !report.present then .absent
  else if !report.timeValid then .noTime
  else if !report.edge then .noEdge
  else if !report.labelled then .unlabelled
  else if maxUncertaintyNs ≠ 0 ∧ maxUncertaintyNs < report.uncertaintyNs then .inaccurate
  else .good

namespace SyncSourceTracker

/-- Whether the label is the last one advanced by the edges in between. -/
def labelExpected (tracker : SyncSourceTracker) (report : SyncSourceReport) : Bool :=
  !tracker.hasLabel ||
    utcAdvance tracker.lastLabel tracker.lastLabelLeap
        (report.edgeSequence - tracker.lastLabelEdge) report.leap.announced ==
      (report.utcSeconds, report.leapSecond)

/-- `label_follows_on`. The new label is the one to follow either way. -/
def labelFollowsOn (tracker : SyncSourceTracker) (report : SyncSourceReport) :
    Bool × SyncSourceTracker :=
  let follows := tracker.labelExpected report
  (follows,
    { tracker with
      labelJumps := if follows then tracker.labelJumps else tracker.labelJumps + 1
      hasLabel := true
      lastLabel := report.utcSeconds
      lastLabelLeap := report.leapSecond
      lastLabelEdge := report.edgeSequence })

/-- `record_cross_check`. -/
def recordCrossCheck (tracker : SyncSourceTracker) (report : SyncSourceReport) :
    SyncSourceTracker :=
  if !report.crossCheck then tracker
  else
    { tracker with
      crossCheckMinNs :=
        if tracker.crossChecks = 0 ∨ report.crossCheckNs < tracker.crossCheckMinNs then
          report.crossCheckNs
        else tracker.crossCheckMinNs
      crossCheckMaxNs :=
        if tracker.crossChecks = 0 ∨ tracker.crossCheckMaxNs < report.crossCheckNs then
          report.crossCheckNs
        else tracker.crossCheckMaxNs
      crossChecks := tracker.crossChecks + 1 }

/-- `sync_source_judge`, the record of the verdict. -/
def record (tracker : SyncSourceTracker) (report : SyncSourceReport) (check : SyncCheck)
    (epoch : BitVec 32) : SyncSourceTracker :=
  recordCrossCheck
    { tracker with
      report := report
      check := check
      verdicts := fun other =>
        if other = check then tracker.verdicts other + 1 else tracker.verdicts other
      goodRun := countRun (check == .good) tracker.goodRun
      usableRun := countRun check.placed tracker.usableRun
      lastGoodEpoch := if check = .good then epoch else tracker.lastGoodEpoch }
    report

/-- `sync_source_judge`. -/
def judge (tracker : SyncSourceTracker) (report : SyncSourceReport) (maxUncertaintyNs : Nat)
    (epoch : BitVec 32) : SyncSourceTracker :=
  let check := classify report maxUncertaintyNs
  let tracker :=
    if !report.present || !report.edge then { tracker with hasLabel := false } else tracker
  -- Every labelled edge is followed, whatever else is wrong with its epoch.
  if report.present && report.timeValid && report.edge && report.labelled then
    let (follows, tracker) := tracker.labelFollowsOn report
    tracker.record report (if !follows ∧ check = .good then .inconsistent else check) epoch
  else tracker.record report check epoch

end SyncSourceTracker

end GpsClock.Sync
