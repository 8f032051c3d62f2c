import GpsClock.Lib.Response
import GpsClock.Lib.Truncation
import GpsClock.Sync.Source
import GpsClock.Timing.EpochControl

/-! # NTP as a source

`source_ntp.c`: the ESP's edge, watched by `pps_monitor.c` and captured where it is routed
to the captures, labelled by the TIME-NTP that comes after it. A message is paired with
the latest edge seen by then, and a label is counted on from the last edge that was
labelled; the edge is corrected by a running average of the ESP's own estimates of it.
From anywhere near, and where there is none yet, the average settles at a value that
comes with every message (`GpsClock.Sync.NtpWorld.phase_settles`).
-/

namespace GpsClock.Sync

open GpsClock.Platform GpsClock.Timing

/-- `SOURCE_NTP_PRESENT_MS`. -/
abbrev sourceNtpPresentMs : BitVec 32 := 3000

/-- `SOURCE_NTP_ASSOCIATION_MS`. -/
abbrev sourceNtpAssociationMs : BitVec 32 := 500

/-- `SOURCE_NTP_FRESH_MS`. -/
abbrev sourceNtpFreshMs : BitVec 32 := 5000

/-- `SOURCE_NTP_PHASE_WEIGHT`. -/
abbrev sourceNtpPhaseWeight : Int := 16

/-- `SOURCE_NTP_PHASE_OUTLIER_NS`. -/
abbrev sourceNtpPhaseOutlierNs : Int := 20000

/-- `SOURCE_NTP_PPS_DELAY_NS`. -/
abbrev sourceNtpPpsDelayNs : Int := 0

/-- `PPS_MONITOR_LATENCY_TICKS`. -/
abbrev ppsMonitorLatencyTicks : BitVec 32 := 33

/-- `SOURCE_EDGE_PAIR_TICKS`. -/
abbrev sourceEdgePairTicks : BitVec 32 := 40000

/-- `time_ms_elapsed`. -/
def timeMsElapsed (nowMs previousMs : BitVec 32) : BitVec 32 :=
  nowMs - previousMs

/-! ## The watched edges -/

inductive PpsInput
  | gnss
  | esp
  deriving DecidableEq, Repr

/-- What a sample copies of an input's watch. -/
structure PpsMonitorEdge where
  stamp : BitVec 32 := 0
  sequence : BitVec 32 := 0
  observedMs : BitVec 32 := 0
  valid : Bool := false
  deriving DecidableEq, Repr

/-- `PpsEdge`. -/
structure PpsEdge where
  sequence : BitVec 32
  observedMs : BitVec 32
  valid : Bool
  deriving DecidableEq, Repr

/-- One input's `Watch`; `valid` is cleared by every sample, `seen` never. -/
structure Watch extends PpsMonitorEdge where
  seen : Bool := false
  deriving DecidableEq, Repr

namespace Watch

/-- `rising_edge`. -/
def risingEdge (watch : Watch) (stamp nowMs : BitVec 32) : Watch :=
  { watch with
    stamp := stamp
    sequence := watch.sequence + 1
    observedMs := nowMs
    valid := true
    seen := true }

/-- `pps_monitor_sample`, for one input. -/
def sample (watch : Watch) : PpsMonitorEdge × Watch :=
  (watch.toPpsMonitorEdge, { watch with valid := false })

/-- `pps_monitor_edge`. -/
def edge (watch : Watch) : PpsEdge :=
  ⟨watch.sequence, watch.observedMs, watch.seen⟩

end Watch

/-- A snapshot with the watched edges, and the input the captured edge is of. -/
structure MonitorSnapshot extends TimingSnapshot where
  inputs : PpsInput → PpsMonitorEdge := fun _ => {}
  referenceInput : PpsInput := .gnss

namespace MonitorSnapshot

/-- `source_edge_latency`: the watched edge's lag behind the capture, where they pair up. -/
def sourceEdgeLatency (snapshot : MonitorSnapshot) (input : PpsInput) : Option (BitVec 32) :=
  let watched := snapshot.inputs input
  if !watched.valid || !snapshot.referenceCaptureValid || snapshot.referenceInput != input then none
  else
    let latency := watched.stamp - snapshot.referenceCapture
    if sourceEdgePairTicks < latency then none else some latency

/-- `source_edge_fill`. -/
def sourceEdgeFill (snapshot : MonitorSnapshot) (input : PpsInput) (report : SyncSourceReport) :
    SyncSourceReport :=
  let watched := snapshot.inputs input
  let captured := (snapshot.sourceEdgeLatency input).isSome
  { report with
    edge := watched.valid
    edgeSequence := watched.sequence
    captured := captured
    edgeStamp := if captured then snapshot.referenceCapture else watched.stamp - ppsMonitorLatencyTicks }

end MonitorSnapshot

/-! ## The source -/

/-- `SML_TIME_NTP_PAYLOAD`, the fields the source reads. -/
structure SmlTimeNtpPayload where
  flags : BitVec 16 := 0
  utcSeconds : BitVec 32 := 0
  utcPhaseNs : BitVec 32 := 0
  uncertaintyNs : BitVec 32 := 0
  ppsSequence : BitVec 32 := 0
  lastUpdateUtc : BitVec 32 := 0
  deriving DecidableEq, Repr

namespace SmlTimeNtpPayload

/-- `SML_NTP_TIME_VALID`. -/
def timeValid (ntp : SmlTimeNtpPayload) : Bool := ntp.flags &&& 0x0002 != 0

/-- `SML_NTP_UPDATE_VALID`. -/
def updateValid (ntp : SmlTimeNtpPayload) : Bool := ntp.flags &&& 0x0004 != 0

/-- `SML_NTP_UNCERTAINTY_VALID`. -/
def uncertaintyValid (ntp : SmlTimeNtpPayload) : Bool := ntp.flags &&& 0x0020 != 0

/-- `SML_NTP_CORRECTING`. -/
def correcting (ntp : SmlTimeNtpPayload) : Bool := ntp.flags &&& 0x0040 != 0

end SmlTimeNtpPayload

structure SourceNtpState where
  messages : BitVec 32 := 0
  labelled : BitVec 32 := 0
  unassociated : BitVec 32 := 0
  sequenceSlips : BitVec 32 := 0
  receivedMs : BitVec 32 := 0
  hasLabel : Bool := false
  labelEdge : BitVec 32 := 0
  labelEspSequence : BitVec 32 := 0
  labelUtc : BitVec 32 := 0
  labelPhaseNs : BitVec 32 := 0
  hasPhase : Bool := false
  phaseAverageNs : BitVec 32 := 0
  phaseOutliers : BitVec 32 := 0
  updates : BitVec 32 := 0
  corrections : BitVec 32 := 0
  lastUpdateUtc : BitVec 32 := 0
  deriving DecidableEq, Repr

/-- The file's statics. -/
structure SourceNtp where
  state : SourceNtpState := {}
  latest : SmlTimeNtpPayload := {}
  hasLatest : Bool := false
  pending : Bool := false
  received : SmlTimeNtpPayload := {}
  correcting : Bool := false
  deriving DecidableEq, Repr

namespace SourceNtpState

/-- `average_phase`; the difference is an `int32_t`. -/
def averagePhase (state : SourceNtpState) (phaseNs : BitVec 32) : SourceNtpState :=
  if !state.hasPhase then { state with hasPhase := true, phaseAverageNs := phaseNs }
  else
    let difference := (phaseNs - state.phaseAverageNs).toInt
    if sourceNtpPhaseOutlierNs < difference ∨ difference < -sourceNtpPhaseOutlierNs then
      { state with phaseOutliers := state.phaseOutliers + 1 }
    else
      { state with
        phaseAverageNs :=
          state.phaseAverageNs + BitVec.ofInt 32 (difference.tdiv sourceNtpPhaseWeight) }

/-- `source_ntp_service`, what is counted of every message. -/
def take (state : SourceNtpState) (ntp : SmlTimeNtpPayload) (correcting : Bool)
    (nowMs : BitVec 32) : SourceNtpState :=
  let update := ntp.updateValid && ntp.lastUpdateUtc != state.lastUpdateUtc
  { state with
    messages := state.messages + 1
    receivedMs := nowMs
    updates := if update then state.updates + 1 else state.updates
    lastUpdateUtc := if update then ntp.lastUpdateUtc else state.lastUpdateUtc
    corrections :=
      if ntp.correcting && !correcting then state.corrections + 1 else state.corrections }

/-- `source_ntp_service`, the pairing of a message with an edge. -/
def pair (state : SourceNtpState) (ntp : SmlTimeNtpPayload) (edge : PpsEdge) : SourceNtpState :=
  let slipped :=
    state.hasLabel && edge.sequence - state.labelEdge != ntp.ppsSequence - state.labelEspSequence
  let labelled :=
    { state with
      sequenceSlips := if slipped then state.sequenceSlips + 1 else state.sequenceSlips
      hasLabel := true
      labelEdge := edge.sequence
      labelEspSequence := ntp.ppsSequence
      labelUtc := ntp.utcSeconds
      labelPhaseNs := ntp.utcPhaseNs }.averagePhase ntp.utcPhaseNs
  { labelled with labelled := labelled.labelled + 1 }

/-- The latest edge is too old to be the one a message labels, or there is none. -/
def unpaired (edge : PpsEdge) (nowMs : BitVec 32) : Bool :=
  !edge.valid || decide (sourceNtpAssociationMs < timeMsElapsed nowMs edge.observedMs)

end SourceNtpState

namespace SourceNtp

/-- `source_ntp_received`. -/
def receive (source : SourceNtp) (ntp : SmlTimeNtpPayload) : SourceNtp :=
  { source with received := ntp, pending := true }

/-- `source_ntp_service`. -/
def service (source : SourceNtp) (edge : PpsEdge) (nowMs : BitVec 32) : SourceNtp :=
  if !source.pending then source
  else
    let taken := source.state.take source.received source.correcting nowMs
    { source with
      pending := false
      latest := source.received
      hasLatest := true
      correcting := source.received.correcting
      state :=
        if SourceNtpState.unpaired edge nowMs then
          { taken with unassociated := taken.unassociated + 1 }
        else taken.pair source.received edge }

/-- Whether an epoch has an edge that a label can be counted on to, never backwards. -/
def countsOn (source : SourceNtp) (edge : PpsMonitorEdge) : Bool :=
  edge.valid && source.state.hasLabel &&
    decide (0 ≤ (edge.sequence - source.state.labelEdge).toInt)

/-- `source_ntp_report`. -/
def report (source : SourceNtp) (snapshot : MonitorSnapshot) (nowMs : BitVec 32) :
    SyncSourceReport :=
  let elapsed := timeMsElapsed nowMs source.state.receivedMs
  let present := source.hasLatest && decide (elapsed < sourceNtpPresentMs)
  let timeValid := present && source.latest.timeValid && source.latest.uncertaintyValid
  let report : SyncSourceReport :=
    { present := present
      timeValid := timeValid
      uncertaintyNs := if timeValid then source.latest.uncertaintyNs.toNat else 0
      stepped := present && source.correcting }
  let report := snapshot.sourceEdgeFill .esp report
  if source.countsOn (snapshot.inputs .esp) && decide (elapsed < sourceNtpFreshMs) then
    { report with
      labelled := true
      utcSeconds :=
        (utcAdvance source.state.labelUtc false (report.edgeSequence - source.state.labelEdge) none).1
      edgeOffsetNs := source.state.phaseAverageNs.toInt + sourceNtpPpsDelayNs }
  else report

/-- What a service pairs: a message not yet taken, with an edge recent enough. -/
def pairs (source : SourceNtp) (edge : PpsEdge) (nowMs : BitVec 32) : Bool :=
  source.pending && !SourceNtpState.unpaired edge nowMs

end SourceNtp

/-! ## The source in its surroundings -/

/-- The millisecond count, as it would be did it not wrap, and as it was when the
scheduler's pass began; the ESP input's watch; the source. -/
structure NtpWorld where
  nowMs : Nat := 0
  passMs : Nat := 0
  watch : Watch := {}
  source : SourceNtp := {}
  deriving DecidableEq, Repr

inductive NtpAct
  | elapse (ms : Nat)
  | pass
  | edge (stamp : BitVec 32)
  | sample
  | received (ntp : SmlTimeNtpPayload)
  | service
  deriving DecidableEq, Repr

namespace NtpWorld

/-- `epoch_timer_ms`. -/
def epochTimerMs (world : NtpWorld) : BitVec 32 := .ofNat 32 world.nowMs

/-- `scheduler_now_ms`. -/
def schedulerNowMs (world : NtpWorld) : BitVec 32 := .ofNat 32 world.passMs

def step (world : NtpWorld) : NtpAct → NtpWorld
  | .elapse ms => { world with nowMs := world.nowMs + ms }
  | .pass => { world with passMs := world.nowMs }
  | .edge stamp => { world with watch := world.watch.risingEdge stamp world.epochTimerMs }
  | .sample => { world with watch := world.watch.sample.2 }
  | .received ntp => { world with source := world.source.receive ntp }
  | .service =>
      { world with source := world.source.service world.watch.edge world.schedulerNowMs }

def report (world : NtpWorld) (snapshot : MonitorSnapshot) : SyncSourceReport :=
  world.source.report snapshot world.epochTimerMs

end NtpWorld

def ntpMachine : Machine NtpWorld NtpAct where
  start world := world = {}
  step := NtpWorld.step

namespace NtpWorld

/-- An act that pairs a message with an edge. -/
def pairs (world : NtpWorld) : NtpAct → Bool
  | .service => world.source.pairs world.watch.edge world.schedulerNowMs
  | _ => false

/-- Every message taken brings one estimate of its edge. -/
def Brings (phaseNs : BitVec 32) (world : NtpWorld) (act : NtpAct) : Prop :=
  act = .service → world.source.pending = true → world.source.received.utcPhaseNs = phaseNs

instance (phaseNs : BitVec 32) (world : NtpWorld) (act : NtpAct) :
    Decidable (Brings phaseNs world act) :=
  inferInstanceAs (Decidable (_ → _ → _))

end NtpWorld

namespace SourceNtpState

/-- How far the average is from a value. -/
def apart (state : SourceNtpState) (phaseNs : BitVec 32) : Nat :=
  (phaseNs.toInt - state.phaseAverageNs.toInt).natAbs

/-- There is no average yet, or one that a value is not left out of. -/
def Near (phaseNs : BitVec 32) (state : SourceNtpState) : Prop :=
  state.hasPhase = true → (state.apart phaseNs : Int) ≤ sourceNtpPhaseOutlierNs

/-- An average within the weight of a value. -/
def Settled (phaseNs : BitVec 32) (state : SourceNtpState) : Prop :=
  state.hasPhase = true ∧ (state.apart phaseNs : Int) < sourceNtpPhaseWeight

/-- An average that a value is left out of. -/
def Outlying (phaseNs : BitVec 32) (state : SourceNtpState) : Prop :=
  state.hasPhase = true ∧ sourceNtpPhaseOutlierNs < (state.apart phaseNs : Int) ∧
    state.apart phaseNs < 2 ^ 31

variable {state : SourceNtpState} {phaseNs : BitVec 32}

instance : Decidable (state.Near phaseNs) := inferInstanceAs (Decidable (_ → _))

instance : Decidable (state.Settled phaseNs) := inferInstanceAs (Decidable (_ ∧ _))

instance : Decidable (state.Outlying phaseNs) := inferInstanceAs (Decidable (_ ∧ _ ∧ _))

/-- Differences that fit are exact. -/
theorem difference_eq (fits : state.apart phaseNs < 2 ^ 31) :
    (phaseNs - state.phaseAverageNs).toInt = phaseNs.toInt - state.phaseAverageNs.toInt := by
  rw [apart] at fits
  rw [BitVec.toInt_sub]
  exact Int.bmod_eq_of_le (by omega) (by omega)

theorem averagePhase_first (none : state.hasPhase = false) :
    state.averagePhase phaseNs = { state with hasPhase := true, phaseAverageNs := phaseNs } := by
  rw [averagePhase, none]
  rfl

/-- A value that is not left out moves the average towards it, by its share. -/
theorem averagePhase_near (known : state.hasPhase = true) (near : state.Near phaseNs) :
    (state.averagePhase phaseNs).hasPhase = true ∧
      (state.averagePhase phaseNs).apart phaseNs =
        state.apart phaseNs - state.apart phaseNs / 16 := by
  have close : (phaseNs.toInt - state.phaseAverageNs.toInt).natAbs ≤ 20000 :=
    Int.ofNat_le.mp (near known)
  have exact : (phaseNs - state.phaseAverageNs).toInt =
      phaseNs.toInt - state.phaseAverageNs.toInt := difference_eq (lt_of_le_of_lt close (by decide))
  have kept : ¬(sourceNtpPhaseOutlierNs < (phaseNs - state.phaseAverageNs).toInt ∨
      (phaseNs - state.phaseAverageNs).toInt < -sourceNtpPhaseOutlierNs) := by
    rw [exact]
    change ¬(20000 < _ ∨ _ < (-20000 : Int))
    omega
  rw [averagePhase, known, if_neg (by simp), if_neg kept, exact]
  refine ⟨rfl, ?_⟩
  change (phaseNs.toInt - (state.phaseAverageNs + BitVec.ofInt 32
    ((phaseNs.toInt - state.phaseAverageNs.toInt).tdiv 16)).toInt).natAbs =
      (phaseNs.toInt - state.phaseAverageNs.toInt).natAbs -
        (phaseNs.toInt - state.phaseAverageNs.toInt).natAbs / 16
  have low := BitVec.le_toInt phaseNs
  have high := BitVec.toInt_lt (x := phaseNs)
  have averageLow := BitVec.le_toInt state.phaseAverageNs
  have averageHigh := BitVec.toInt_lt (x := state.phaseAverageNs)
  rw [BitVec.toInt_add, BitVec.toInt_ofInt, Int.add_bmod_bmod]
  generalize phaseNs.toInt = target at *
  generalize state.phaseAverageNs.toInt = average at *
  have closer : (target - average - (target - average).tdiv 16).natAbs =
      (target - average).natAbs - (target - average).natAbs / 16 := Truncation.closer _ (by decide)
  have share : ((target - average).tdiv 16).natAbs = (target - average).natAbs / 16 :=
    Int.natAbs_tdiv _ 16
  rw [Int.bmod_eq_of_le (by omega) (by omega)]
  omega

/-- A value that is left out leaves the average as it is. -/
theorem averagePhase_outlying (outlying : state.Outlying phaseNs) :
    (state.averagePhase phaseNs).hasPhase = true ∧
      (state.averagePhase phaseNs).phaseAverageNs = state.phaseAverageNs := by
  obtain ⟨known, far, fits⟩ := outlying
  have out : sourceNtpPhaseOutlierNs < (phaseNs - state.phaseAverageNs).toInt ∨
      (phaseNs - state.phaseAverageNs).toInt < -sourceNtpPhaseOutlierNs := by
    rw [difference_eq fits]
    change (20000 : Int) < _ at far
    change 20000 < _ ∨ _ < (-20000 : Int)
    rw [apart] at far
    omega
  rw [averagePhase, known, if_neg (by simp), if_pos out]
  exact ⟨rfl, rfl⟩

/-- A settled average stays settled, and one that is not comes closer. -/
theorem averagePhase_nears (near : state.Near phaseNs) :
    (state.averagePhase phaseNs).Near phaseNs ∧
      ((state.averagePhase phaseNs).Settled phaseNs ∨
        state.hasPhase = true ∧
          (state.averagePhase phaseNs).apart phaseNs + 1 ≤ state.apart phaseNs) := by
  cases known : state.hasPhase with
  | false =>
      rw [averagePhase_first known]
      have same : ({ state with hasPhase := true, phaseAverageNs := phaseNs } :
          SourceNtpState).apart phaseNs = 0 := by
        simp [apart]
      refine ⟨fun _ => ?_, .inl ⟨rfl, ?_⟩⟩
      · rw [same]
        decide
      · rw [same]
        decide
  | true =>
      obtain ⟨still, moved⟩ := averagePhase_near known near
      have close := near known
      refine ⟨fun _ => by rw [moved]; omega, ?_⟩
      by_cases within : (state.apart phaseNs : Int) < 16
      · exact .inl ⟨still, by rw [moved]; change _ < (16 : Int); omega⟩
      · exact .inr ⟨rfl, by rw [moved]; omega⟩

theorem averagePhase_settled (settled : state.Settled phaseNs) :
    (state.averagePhase phaseNs).Settled phaseNs := by
  obtain ⟨known, within⟩ := settled
  change (state.apart phaseNs : Int) < 16 at within
  have near : state.Near phaseNs := fun _ => by
    change _ ≤ (20000 : Int)
    omega
  obtain ⟨still, moved⟩ := averagePhase_near known near
  refine ⟨still, ?_⟩
  change _ < (16 : Int)
  rw [moved]
  omega

/-- Two states whose averages agree are as far from every value. -/
def SameAverage (state other : SourceNtpState) : Prop :=
  other.hasPhase = state.hasPhase ∧ other.phaseAverageNs = state.phaseAverageNs

variable {other : SourceNtpState}

theorem SameAverage.symm (same : state.SameAverage other) : other.SameAverage state :=
  ⟨same.1.symm, same.2.symm⟩

theorem SameAverage.trans {last : SourceNtpState} (first : state.SameAverage other)
    (second : other.SameAverage last) : state.SameAverage last :=
  ⟨second.1.trans first.1, second.2.trans first.2⟩

theorem SameAverage.apart (same : state.SameAverage other) :
    other.apart phaseNs = state.apart phaseNs := by
  rw [SourceNtpState.apart, SourceNtpState.apart, same.2]

theorem SameAverage.near (same : state.SameAverage other) (near : state.Near phaseNs) :
    other.Near phaseNs := by
  rw [Near, same.1, same.apart]
  exact near

theorem SameAverage.settled (same : state.SameAverage other) (settled : state.Settled phaseNs) :
    other.Settled phaseNs := by
  rw [Settled, same.1, same.apart]
  exact settled

theorem SameAverage.outlying (same : state.SameAverage other) (outlying : state.Outlying phaseNs) :
    other.Outlying phaseNs := by
  rw [Outlying, same.1, same.apart]
  exact outlying

theorem averagePhase_same (phaseNs : BitVec 32) (same : state.SameAverage other) :
    (state.averagePhase phaseNs).SameAverage (other.averagePhase phaseNs) := by
  obtain ⟨hasPhase, average⟩ := same
  rw [averagePhase, averagePhase, hasPhase, average]
  split
  · exact ⟨rfl, rfl⟩
  · dsimp only
    split
    · exact ⟨rfl, rfl⟩
    · exact ⟨rfl, rfl⟩

/-- Of the average, a pairing does what averaging in its estimate does. -/
theorem pair_same (ntp : SmlTimeNtpPayload) (correcting : Bool) (nowMs : BitVec 32)
    (edge : PpsEdge) :
    (state.averagePhase ntp.utcPhaseNs).SameAverage
      ((state.take ntp correcting nowMs).pair ntp edge) :=
  averagePhase_same ntp.utcPhaseNs ⟨rfl, rfl⟩

end SourceNtpState

namespace SourceNtp

/-- A service that pairs a message averages its estimate in; any other leaves the average. -/
theorem service_average (source : SourceNtp) (edge : PpsEdge) (nowMs : BitVec 32) :
    (if source.pairs edge nowMs then source.state.averagePhase source.received.utcPhaseNs
      else source.state).SameAverage (source.service edge nowMs).state := by
  rw [pairs, service]
  cases source.pending with
  | false => exact ⟨rfl, rfl⟩
  | true =>
      cases SourceNtpState.unpaired edge nowMs with
      | true => exact ⟨rfl, rfl⟩
      | false => exact SourceNtpState.pair_same ..

theorem averagePhase_frame (state : SourceNtpState) (phaseNs : BitVec 32) :
    (state.averagePhase phaseNs).receivedMs = state.receivedMs ∧
      (state.averagePhase phaseNs).hasLabel = state.hasLabel := by
  rw [SourceNtpState.averagePhase]
  split
  · exact ⟨rfl, rfl⟩
  · dsimp only
    split <;> exact ⟨rfl, rfl⟩

/-- When the latest message was taken, and whether there is a label, after a service. -/
theorem service_label (source : SourceNtp) (edge : PpsEdge) (nowMs : BitVec 32) :
    (source.service edge nowMs).state.receivedMs =
        (if source.pending then nowMs else source.state.receivedMs) ∧
      (source.service edge nowMs).state.hasLabel =
        (source.pairs edge nowMs || source.state.hasLabel) := by
  rw [pairs, service]
  cases source.pending with
  | false => exact ⟨rfl, rfl⟩
  | true =>
      cases SourceNtpState.unpaired edge nowMs with
      | true => exact ⟨rfl, rfl⟩
      | false => exact averagePhase_frame _ source.received.utcPhaseNs

/-- A labelled epoch is one that a fresh label can be counted on to. -/
theorem report_labelled (source : SourceNtp) (snapshot : MonitorSnapshot) (nowMs : BitVec 32) :
    (source.report snapshot nowMs).labelled =
      (source.countsOn (snapshot.inputs .esp) &&
        decide (timeMsElapsed nowMs source.state.receivedMs < sourceNtpFreshMs)) := by
  rw [report]
  split
  · next fresh => exact fresh.symm
  · next stale => exact (Bool.not_eq_true _ ▸ stale).symm

/-- A labelled edge is corrected by the average. -/
theorem report_offset {source : SourceNtp} {snapshot : MonitorSnapshot} {nowMs : BitVec 32}
    (labelled : (source.report snapshot nowMs).labelled = true) :
    (source.report snapshot nowMs).edgeOffsetNs =
      source.state.phaseAverageNs.toInt + sourceNtpPpsDelayNs := by
  rw [report] at labelled ⊢
  split
  · rfl
  · next stale =>
      rw [if_neg stale] at labelled
      cases labelled

end SourceNtp

namespace NtpWorld

variable {world : NtpWorld} {phaseNs : BitVec 32}

theorem step_average (world : NtpWorld) (act : NtpAct) :
    (if world.pairs act then world.source.state.averagePhase world.source.received.utcPhaseNs
      else world.source.state).SameAverage (world.step act).source.state := by
  cases act with
  | service => exact SourceNtp.service_average ..
  | elapse | pass | edge | sample | received => exact ⟨rfl, rfl⟩

/-- A message that is paired brings the estimate that every message brings. -/
theorem Brings.paired {act : NtpAct} (brings : Brings phaseNs world act)
    (paired : world.pairs act = true) : world.source.received.utcPhaseNs = phaseNs := by
  cases act with
  | service => exact brings rfl (Bool.and_eq_true_iff.mp paired).1
  | elapse | pass | edge | sample | received => cases paired

theorem step_settled {act : NtpAct} (settled : world.source.state.Settled phaseNs)
    (brings : Brings phaseNs world act) :
    (ntpMachine.step world act).source.state.Settled phaseNs := by
  have same := step_average world act
  cases paired : world.pairs act with
  | false =>
      rw [paired] at same
      exact same.settled settled
  | true =>
      rw [paired, if_pos rfl, brings.paired paired] at same
      exact same.settled (SourceNtpState.averagePhase_settled settled)

/-- A value that is left out stays left out, and the average as it is. -/
theorem step_outlying {act : NtpAct} (outlying : world.source.state.Outlying phaseNs)
    (brings : Brings phaseNs world act) :
    world.source.state.SameAverage (ntpMachine.step world act).source.state := by
  have same := step_average world act
  cases paired : world.pairs act with
  | false =>
      rw [paired] at same
      exact same
  | true =>
      rw [paired, if_pos rfl, brings.paired paired] at same
      obtain ⟨known, average⟩ := SourceNtpState.averagePhase_outlying outlying
      exact ⟨same.1.trans (known.trans outlying.1.symm), same.2.trans average⟩

/-- How far the average is from a value, if there is one. -/
def toGo (phaseNs : BitVec 32) (world : NtpWorld) : Nat :=
  if world.source.state.hasPhase then world.source.state.apart phaseNs else 0

/-- Until the average has settled at a value, every pairing brings it closer. -/
theorem settles_ranked (phaseNs : BitVec 32) :
    ntpMachine.Ranked (Brings phaseNs) (fun world => world.source.state.Near phaseNs)
      (fun world => world.source.state.Settled phaseNs) pairs (toGo phaseNs) where
  step world act near _ brings := by
    have same := step_average world act
    cases paired : world.pairs act with
    | false =>
        rw [paired] at same
        refine .inr ⟨same.near near, le_of_eq ?_⟩
        change (if (world.step act).source.state.hasPhase then
          (world.step act).source.state.apart phaseNs else 0) + 0 = _
        rw [same.1, same.apart]
        rfl
    | true =>
        rw [paired, if_pos rfl, brings.paired paired] at same
        obtain ⟨nearer, settled | ⟨known, closer⟩⟩ := SourceNtpState.averagePhase_nears near
        · exact .inl (same.settled settled)
        · refine .inr ⟨same.near nearer, ?_⟩
          rw [if_pos rfl, toGo, toGo, if_pos known]
          change (if (world.step act).source.state.hasPhase then
            (world.step act).source.state.apart phaseNs else 0) + 1 ≤ _
          rw [same.apart]
          split
          · exact closer
          · omega

/-- With an edge still recent, any number of messages can be paired with it. -/
theorem exists_rounds (phaseNs : BitVec 32) (count : Nat) (world : NtpWorld)
    (recent : SourceNtpState.unpaired world.watch.edge world.schedulerNowMs = false) :
    ∃ acts final, ntpMachine.Run (Brings phaseNs) world acts final ∧
      count ≤ ntpMachine.visits pairs world acts := by
  induction count generalizing world with
  | zero => exact ⟨[], world, .nil world, Nat.zero_le _⟩
  | succ count ih =>
      obtain ⟨acts, final, run, paired⟩ :=
        ih (ntpMachine.step (ntpMachine.step world (.received { utcPhaseNs := phaseNs })) .service)
          recent
      have pairs_once :
          (world.step (.received { utcPhaseNs := phaseNs })).pairs NtpAct.service = true := by
        change (true && !SourceNtpState.unpaired world.watch.edge world.schedulerNowMs) = true
        rw [recent]
        rfl
      refine ⟨.received { utcPhaseNs := phaseNs } :: .service :: acts, final,
        .cons _ (fun other => by cases other) (.cons _ (fun _ _ => rfl) run), ?_⟩
      rw [Machine.visits, Machine.visits]
      change count + 1 ≤ 0 + ((if (world.step _).pairs NtpAct.service then 1 else 0) + _)
      rw [pairs_once, if_pos rfl]
      omega

/-- An edge, and a message with it that brings so early an estimate. -/
def early : NtpWorld :=
  [.edge 0, .received { utcPhaseNs := 100000 }, .service].foldl step {}

end NtpWorld

end GpsClock.Sync
