import GpsClock.Lib.Machine
import GpsClock.Sync.Source
import GpsClock.Timing.EpochControl

/-! # The synchroniser

`sync.c`: once an epoch every source is judged, the candidates are ranked by their
bounds, the state machine follows the sources and then the control loop, and the
UTC second of the epoch is kept. `SYNC_SOURCE_NONE` is `none`. An epoch's reports and
the loop's numbers are inputs of `syncUpdate`; between two epochs a resync, a leap
second or a time set by hand may be asked for (`synchroniser`).
-/

namespace GpsClock.Sync

open GpsClock.Platform GpsClock.Timing

/-- In order of preference, when the bounds are equal. -/
inductive SyncSourceId
  | gnss
  | ntp
  | rtc
  deriving DecidableEq, Repr

/-- The order in which every loop over the sources goes. -/
def sourceIds : List SyncSourceId := [.gnss, .ntp, .rtc]

/-- A source, holdover, or neither (`SYNC_SOURCE_NONE`). -/
inductive Candidate
  | source (id : SyncSourceId)
  | none
  | holdover
  deriving DecidableEq, Repr

def Candidate.ofSource : Option SyncSourceId → Candidate
  | .some id => .source id
  | .none => .none

/-- `SYNC_BOUND_NONE`. -/
abbrev syncBoundNone : Nat := 0xFFFFFFFF

/-- `SYNC_QUALIFY_EPOCHS`. -/
abbrev syncQualifyEpochs : Nat := 3

/-- `SYNC_SWITCH_EPOCHS`. -/
abbrev syncSwitchEpochs : Nat := 10

/-- `SYNC_SWITCH_RATIO`. -/
abbrev syncSwitchRatio : Nat := 2

/-- `SYNC_ALIGN_WAIT_EPOCHS`. -/
abbrev syncAlignWaitEpochs : BitVec 32 := 6

/-- `SYNC_HOLDOVER_DRIFT_PPT_PER_S`. -/
abbrev syncHoldoverDriftPptPerS : Nat := 5

/-- `SYNC_SYNCHRONISED_LIMIT_NS`. -/
abbrev syncSynchronisedLimitNs : Nat := 100000000

/-- `SYNC_CAPTURE_RESOLUTION_NS`. -/
abbrev syncCaptureResolutionNs : Nat := 25

structure SyncSourceDefinition where
  qualifyNs : Nat
  holdNs : Nat
  boundScale : Nat
  boundFloorNs : Nat
  profile : Option EpochProfile
  holdoverFrequencyNs : Nat
  steers : Bool

/-- `ntp_profile`. -/
def ntpProfile : EpochProfile := ⟨12000⟩

/-- The table `sources[]`. -/
def definition : SyncSourceId → SyncSourceDefinition
  | .gnss => ⟨10000, 100000, 3, syncCaptureResolutionNs, some epochProfilePrecise, 40, true⟩
  | .ntp => ⟨50000000, 100000000, 1, 20000, some ntpProfile, 1000, true⟩
  | .rtc => ⟨1000000000, 1000000000, 1, 0, none, 0, false⟩

inductive SyncState
  | freeRun
  | acquire
  | locked
  | holdover
  deriving DecidableEq, Repr

inductive SyncReason
  | qualified
  | tracking
  | phaseLost
  | sourceLost
  | sourceBack
  | alternative
  | betterSource
  | expired
  | resync
  deriving DecidableEq, Repr

structure SyncTransition where
  epoch : BitVec 32
  fromState : SyncState
  toState : SyncState
  source : Option SyncSourceId
  reason : SyncReason
  verdict : SyncCheck
  deriving DecidableEq, Repr

structure SyncHoldover where
  ready : Bool := false
  source : Option SyncSourceId := some .gnss
  age : Nat := 0
  baseNs : Nat := 0
  frequencyNs : Nat := 0
  boundNs : Nat := syncBoundNone
  deriving DecidableEq, Repr

structure SyncTime where
  known : Bool := false
  utcSeconds : BitVec 32 := 0
  leapSecond : Bool := false
  leap : UtcLeap := ⟨0, 0⟩
  corrections : BitVec 32 := 0
  source : Option SyncSourceId := none
  deriving DecidableEq, Repr

structure SyncStatus where
  state : SyncState := .freeRun
  source : Option SyncSourceId := none
  fallback : Bool := false
  stateEpochs : BitVec 32 := 0
  holdoverEpochs : BitVec 32 := 0
  sources : SyncSourceId → SyncSourceTracker := fun _ => {}
  holdover : SyncHoldover := {}
  time : SyncTime := {}
  linkLeap : UtcLeap := ⟨0, 0⟩
  second : Candidate := .none
  secondBoundNs : Nat := syncBoundNone
  challenger : Option SyncSourceId := none
  challengeRun : Nat := 0
  epochs : BitVec 32 := 0
  phaseValid : Bool := false
  phaseTicks : Int := 0
  transitions : BitVec 32 := 0
  history : Fin 8 → SyncTransition := fun _ => ⟨0, .freeRun, .freeRun, some .gnss, .qualified, .absent⟩
  steered : Bool := false
  aligned : Bool := false
  alignedTo : Option SyncSourceId := none
  alignedTicks : Int := 0
  resyncSlew : Bool := false

structure ManualTime where
  pending : Bool := false
  utcSeconds : BitVec 32 := 0
  epoch : BitVec 32 := 0
  slotMs : Nat := 0
  deriving DecidableEq, Repr

/-- `sync.c`'s statics, and the loop it drives. The initial values are `sync_init`'s. -/
structure Synchroniser where
  status : SyncStatus := {}
  resyncPending : Bool := false
  manualTime : ManualTime := {}
  loop : EpochControl := {}

/-- What one epoch brings. -/
structure EpochInput where
  snapshot : TimingSnapshot := {}
  reports : SyncSourceId → SyncSourceReport := fun _ => {}
  numbers : LoopNumbers := {}

structure SyncUpdate where
  loop : EpochUpdate
  usable : Bool
  transitioned : Bool

/-! ## Helpers -/

/-- `saturate`. -/
def saturate (value : Nat) : Nat :=
  if syncBoundNone ≤ value then syncBoundNone - 1 else value

/-- `ns_to_ticks`: nearest whole tick. -/
def nsToTicks (ns : Int) : Int :=
  (if 0 ≤ ns then ns + 12 else ns - 12).tdiv syncCaptureResolutionNs

/-- `ticks_to_ns`, in 32 bits. -/
def ticksToNs (ticks : Int) : Nat :=
  ticks.natAbs * syncCaptureResolutionNs % 2 ^ 32

def syncSourceSteers : Option SyncSourceId → Bool
  | some id => (definition id).steers
  | none => false

namespace SyncStatus

def isTracking (status : SyncStatus) : Bool :=
  status.state == .acquire || status.state == .locked

def sourceGood (status : SyncStatus) : Option SyncSourceId → Bool
  | some id => (status.sources id).check == .good
  | none => false

/-- `source_usable`: GOOD, or only INACCURATE if it was taken as a fallback. -/
def sourceUsable (status : SyncStatus) : Option SyncSourceId → Bool
  | some id =>
      status.sourceGood (some id) ||
        (some id == status.source && status.fallback && (status.sources id).check == .inaccurate)
  | none => false

/-- `source_fallback`. -/
def sourceFallback (status : SyncStatus) (id : SyncSourceId) : Bool :=
  syncQualifyEpochs ≤ (status.sources id).usableRun

/-! ## Source evaluation -/

/-- One round of `judge_sources`' loop. -/
def judgeSource (status : SyncStatus) (snapshot : TimingSnapshot) (report : SyncSourceReport)
    (id : SyncSourceId) : SyncSourceTracker :=
  let source := definition id
  let limit := if some id = status.source then source.holdNs else source.qualifyNs
  let tracker := (status.sources id).judge report limit snapshot.sequence
  let phaseValid := report.edge && snapshot.epochCaptureValid
  { tracker with
    boundNs :=
      if tracker.check.placed then
        saturate (report.uncertaintyNs * source.boundScale + source.boundFloorNs)
      else 0
    phaseValid := phaseValid
    phaseTicks :=
      if phaseValid then
        wrapPhase ((snapshot.epochCapture - report.edgeStamp).toInt + nsToTicks report.edgeOffsetNs)
          timingNominalTicks
      else 0 }

def judgeSources (status : SyncStatus) (input : EpochInput) : SyncStatus :=
  { status with
    sources := fun id => status.judgeSource input.snapshot (input.reports id) id }

/-- The polynomial of `update_holdover_bound`, in 64 bits. -/
def holdoverBound (baseNs frequencyNs age : Nat) : Nat :=
  saturate ((baseNs + frequencyNs * age +
    syncHoldoverDriftPptPerS * age * age % 2 ^ 64 / 2000) % 2 ^ 64)

def updateHoldoverBound (status : SyncStatus) : SyncStatus :=
  let holdover := status.holdover
  { status with
    holdover :=
      { holdover with
        boundNs :=
          if holdover.ready then holdoverBound holdover.baseNs holdover.frequencyNs holdover.age
          else syncBoundNone } }

/-- `sync_candidate_bound`. -/
def candidateBound (status : SyncStatus) : Candidate → Nat
  | .holdover =>
      if status.holdover.ready ∧ status.holdover.boundNs ≤ syncSynchronisedLimitNs then
        status.holdover.boundNs
      else syncBoundNone
  | .none => syncBoundNone
  | .source id =>
      if !(definition id).steers then syncBoundNone
      -- the one in use, while fit to steer by
      else if some id = status.source ∧ status.isTracking then
        if status.sourceUsable (some id) then (status.sources id).boundNs else syncBoundNone
      else if !status.sourceGood (some id) ∨ (status.sources id).goodRun < syncQualifyEpochs then
        syncBoundNone
      else (status.sources id).boundNs

/-- The loop of `best_source`, `best_fallback` and `seed_time`: the first of the lowest. -/
def lowest (eligible : SyncSourceId → Bool) (bound : SyncSourceId → Nat) :
    List SyncSourceId → Option SyncSourceId → Nat → Option SyncSourceId
  | [], best, _ => best
  | id :: rest, best, bestBound =>
      if eligible id ∧ bound id < bestBound then lowest eligible bound rest (some id) (bound id)
      else lowest eligible bound rest best bestBound

def bestSource (status : SyncStatus) (except : Option SyncSourceId) : Option SyncSourceId :=
  lowest (fun id => some id != except) (fun id => status.candidateBound (.source id)) sourceIds
    none syncBoundNone

def bestFallback (status : SyncStatus) : Option SyncSourceId :=
  lowest (fun id => (definition id).steers && status.sourceFallback id)
    (fun id => (status.sources id).boundNs) sourceIds none syncBoundNone

def currentBound (status : SyncStatus) : Nat :=
  match status.state with
  | .acquire | .locked => status.candidateBound (.ofSource status.source)
  | .holdover => status.holdover.boundNs
  | .freeRun => syncBoundNone

/-- The challenger beats the incumbent's bound by `SYNC_SWITCH_RATIO`. -/
def outbids (status : SyncStatus) (challenger : Option SyncSourceId) (incumbentBound : Nat) :
    Prop :=
  challenger ≠ none ∧ status.candidateBound (.ofSource challenger) ≠ syncBoundNone ∧
    status.candidateBound (.ofSource challenger) * syncSwitchRatio < incumbentBound

instance (status : SyncStatus) (challenger : Option SyncSourceId) (incumbentBound : Nat) :
    Decidable (status.outbids challenger incumbentBound) :=
  inferInstanceAs (Decidable (_ ∧ _))

/-- What `challenge` leaves behind. -/
def countChallenge (status : SyncStatus) (challenger : Option SyncSourceId)
    (incumbentBound : Nat) : SyncStatus :=
  { status with
    challenger := if status.outbids challenger incumbentBound then challenger else none
    challengeRun :=
      countRun (status.outbids challenger incumbentBound)
        (if challenger = status.challenger then status.challengeRun else 0) }

/-- What `challenge` returns. -/
def challengeWon (status : SyncStatus) (challenger : Option SyncSourceId)
    (incumbentBound : Nat) : Prop :=
  status.outbids challenger incumbentBound ∧
    syncSwitchEpochs ≤ (status.countChallenge challenger incumbentBound).challengeRun

instance (status : SyncStatus) (challenger : Option SyncSourceId) (incumbentBound : Nat) :
    Decidable (status.challengeWon challenger incumbentBound) :=
  inferInstanceAs (Decidable (_ ∧ _))

/-- What is in use, as a candidate. -/
def current (status : SyncStatus) : Candidate :=
  if status.state = .holdover then .holdover
  else if status.isTracking then .ofSource status.source
  else .none

/-- The loop of `rank_second`. -/
def lowestCandidate (status : SyncStatus) : List Candidate → Candidate → Nat → Candidate × Nat
  | [], second, secondBound => (second, secondBound)
  | candidate :: rest, second, secondBound =>
      if candidate ≠ status.current ∧ candidate ≠ .none ∧
          status.candidateBound candidate < secondBound then
        lowestCandidate status rest candidate (status.candidateBound candidate)
      else lowestCandidate status rest second secondBound

def rankSecond (status : SyncStatus) : SyncStatus :=
  let second :=
    status.lowestCandidate [.source .gnss, .source .ntp, .source .rtc, .none, .holdover] .none
      syncBoundNone
  { status with second := second.1, secondBoundNs := second.2 }

/-- The end of `sync_update`. -/
def countEpoch (status : SyncStatus) (update : EpochUpdate) : SyncStatus :=
  { status with
    epochs := status.epochs + 1
    phaseValid := update.phaseValid
    phaseTicks := update.utcOffsetTicks
    stateEpochs := status.stateEpochs + 1
    holdoverEpochs :=
      if status.state = .holdover then status.holdoverEpochs + 1 else status.holdoverEpochs }

/-! ## State machine -/

/-- There are slots to number. -/
scoped instance someSlots : NeZero 8 := ⟨by decide⟩

def historySlot (transitions : BitVec 32) : Fin 8 := Fin.ofNat 8 transitions.toNat

def enter (status : SyncStatus) (state : SyncState) (source : Option SyncSourceId)
    (reason : SyncReason) (epoch : BitVec 32) : SyncStatus :=
  { status with
    history := Function.update status.history (historySlot status.transitions)
      { epoch := epoch
        fromState := status.state
        toState := state
        source := source
        reason := reason
        verdict := (status.source.map fun id => (status.sources id).check).getD .absent }
    transitions := status.transitions + 1
    fallback := status.fallback && source == status.source
    state := state
    source := source
    stateEpochs := 0
    challenger := none
    challengeRun := 0
    holdoverEpochs := if state = .holdover then status.holdoverEpochs else 0 }

/-- What `apply_resync` does to the status: every record starts afresh, and holdover is
dropped. -/
def startAfresh (status : SyncStatus) (epoch : BitVec 32) : SyncStatus :=
  enter
    { status with
      resyncSlew := status.state == .locked || status.state == .holdover
      sources := fun _ => {}
      holdover := { status.holdover with ready := false, boundNs := syncBoundNone } }
    .freeRun none .resync epoch

/-- `time_of_day_pending`. -/
def timeOfDayPending (status : SyncStatus) : Bool :=
  !(status.aligned || status.steered || syncAlignWaitEpochs ≤ status.epochs) &&
    sourceIds.any fun id =>
      let report := (status.sources id).report
      !(definition id).steers && report.present && report.timeValid && !report.edge

/-- The time-of-day source `align_to_time_of_day` puts the epoch on, if it may. -/
def alignment (status : SyncStatus) : Option SyncSourceId :=
  if status.state ≠ .freeRun ∨ status.aligned ∨ status.steered then none
  else
    sourceIds.find? fun id =>
      !(definition id).steers && (status.sources id).check.placed && (status.sources id).phaseValid

/-- `follow_loop`. -/
def followLoop (status : SyncStatus) (loop : EpochControl) (snapshot : TimingSnapshot)
    (update : EpochUpdate) : SyncStatus :=
  if status.state = .acquire ∧ loop.state = .track ∧ loop.lastResync ≠ snapshot.sequence ∧
      update.kind = .measured then
    status.enter .locked status.source .tracking snapshot.sequence
  else if status.state = .locked ∧ loop.state ≠ .track then
    status.enter .acquire status.source .phaseLost snapshot.sequence
  else status

/-- `follow_holdover`. -/
def followHoldover (status : SyncStatus) (update : EpochUpdate) : SyncStatus :=
  if status.state = .locked ∧ update.kind = .measured then
    { status with
      holdover :=
        { status.holdover with
          ready := true
          source := status.source
          age := 0
          baseNs :=
            saturate ((status.source.map fun id => (status.sources id).boundNs).getD 0 +
              ticksToNs update.utcOffsetTicks)
          frequencyNs :=
            (status.source.map fun id => (definition id).holdoverFrequencyNs).getD 0 } }
  else if status.holdover.ready ∧ status.holdover.age < 0xFFFFFFFF then
    { status with holdover := { status.holdover with age := status.holdover.age + 1 } }
  else status

/-! ## Time of day -/

/-- `label_epoch`. -/
def labelEpoch (snapshot : TimingSnapshot) (report : SyncSourceReport) (leap : UtcLeap) :
    BitVec 32 × Bool :=
  let raw := (snapshot.epochCapture - report.edgeStamp).toInt + nsToTicks report.edgeOffsetNs
  if snapshot.epochCaptureValid ∧ timingNominalTicks.tdiv 2 ≤ raw then
    utcAdvance report.utcSeconds report.leapSecond 1 leap.announced
  else (report.utcSeconds, report.leapSecond)

/-- The leap second to label by: the source's, or the one announced by the ESP. -/
def leapInUse (status : SyncStatus) (report : SyncSourceReport) : UtcLeap :=
  if report.leap.change ≠ 0 then report.leap else status.linkLeap

/-- `seed_time`. -/
def seedTime (status : SyncStatus) (snapshot : TimingSnapshot) : SyncTime :=
  let eligible (id : SyncSourceId) :=
    (status.sources id).check.placed && (status.sources id).report.labelled
  match lowest eligible (fun id => (status.sources id).boundNs) sourceIds none syncBoundNone with
  | none => status.time
  | some best =>
      let report := (status.sources best).report
      let leap := status.leapInUse report
      let label := labelEpoch snapshot report leap
      { status.time with
        leap := leap
        utcSeconds := label.1
        leapSecond := label.2
        known := true
        source := some best }

/-- `keep_time`. -/
def keepTime (status : SyncStatus) (snapshot : TimingSnapshot) (usable wasLocked : Bool) :
    SyncStatus :=
  let time := status.time
  let counted := utcAdvance time.utcSeconds time.leapSecond 1 time.leap.announced
  { status with
    time :=
      match usable, status.source with
      | true, some id =>
          let report := (status.sources id).report
          let leap := status.leapInUse report
          let label := labelEpoch snapshot report leap
          { time with
            leap := leap
            corrections :=
              if wasLocked ∧ time.known ∧ label ≠ counted then time.corrections + 1
              else time.corrections
            utcSeconds := label.1
            leapSecond := label.2
            known := true
            source := some id }
      | _, _ =>
          if time.known then
            { time with
              utcSeconds := counted.1
              leapSecond := counted.2
              leap := if status.linkLeap.change ≠ 0 then status.linkLeap else time.leap }
          else status.seedTime snapshot }

end SyncStatus

/-- The step that puts the epochs on the seconds counted from a time set by hand. -/
def ManualTime.step (manual : ManualTime) : Int :=
  if 500 < manual.slotMs then -((1000 - (manual.slotMs : Int)) * timingTicksPerMs)
  else manual.slotMs * timingTicksPerMs

/-- The label of the epoch before, from which `keep_time` counts on. -/
def ManualTime.label (manual : ManualTime) (epoch : BitVec 32) : BitVec 32 :=
  manual.utcSeconds + (epoch - manual.epoch) - (if 500 < manual.slotMs then 1 else 0) - 1

/-- What `apply_manual_time` does to the status. -/
def SyncStatus.setTime (status : SyncStatus) (label : BitVec 32) : SyncStatus :=
  { status with
    time :=
      { status.time with
        corrections :=
          if status.time.known then status.time.corrections + 1 else status.time.corrections
        known := true
        leapSecond := false
        utcSeconds := label
        source := none }
    aligned := true }

namespace Synchroniser

/-- `apply_resync`. -/
def applyResync (sync : Synchroniser) (epoch : BitVec 32) : Synchroniser :=
  if !sync.resyncPending then sync
  else { sync with resyncPending := false, status := sync.status.startAfresh epoch }

/-- `apply_manual_time`. -/
def applyManualTime (sync : Synchroniser) (epoch : BitVec 32) : Synchroniser :=
  if !sync.manualTime.pending then sync
  else if sync.status.state ≠ .freeRun ∨ sync.status.steered then
    { sync with manualTime := { sync.manualTime with pending := false } }
  else
    { sync with
      manualTime := { sync.manualTime with pending := false }
      loop := sync.loop.requestFreeRunStep sync.manualTime.step
      status := sync.status.setTime (sync.manualTime.label epoch) }

/-- `align_to_time_of_day`. -/
def alignToTimeOfDay (sync : Synchroniser) : Synchroniser :=
  match sync.status.alignment with
  | none => sync
  | some id =>
      let ticks := -(sync.status.sources id).phaseTicks
      { sync with
        status :=
          { sync.status with aligned := true, alignedTo := some id, alignedTicks := ticks }
        loop := sync.loop.requestFreeRunStep ticks }

/-- Whether `acquire` slews onto the source: the loop tracks, and the source's edge is
within half its profile's gate. -/
def slews (sync : Synchroniser) (source : SyncSourceId) : Bool :=
  let status := sync.status
  let tracker := status.sources source
  let limit := (((definition source).profile.map EpochProfile.gateTicks).getD 0).tdiv 2
  (status.state == .locked || status.state == .holdover || status.resyncSlew) &&
    tracker.phaseValid && sync.loop.state == .track &&
    tracker.phaseTicks ≤ limit && -limit ≤ tracker.phaseTicks

/-- `acquire`. Only a source that steers is acquired, so its profile is there. -/
def acquire (sync : Synchroniser) (source : SyncSourceId) (reason : SyncReason)
    (epoch : BitVec 32) (fallback : Bool) : Synchroniser :=
  { sync with
    loop := sync.loop.restart (definition source).profile (sync.slews source)
    status :=
      { sync.status.enter .acquire (some source) reason epoch with
        fallback := fallback
        steered := true
        resyncSlew := false } }

/-- `enter`, with the rest of the synchroniser. -/
def enter (sync : Synchroniser) (state : SyncState) (source : Option SyncSourceId)
    (reason : SyncReason) (epoch : BitVec 32) : Synchroniser :=
  { sync with status := sync.status.enter state source reason epoch }

/-- `challenge`: the source that has won, if any. -/
def challenge (sync : Synchroniser) (best : Option SyncSourceId) (incumbentBound : Nat) :
    Option SyncSourceId × Synchroniser :=
  (if sync.status.challengeWon best incumbentBound then best else none,
    { sync with status := sync.status.countChallenge best incumbentBound })

/-- `follow_sources` in free run. -/
def followFreeRun (sync : Synchroniser) (epoch : BitVec 32) : Synchroniser :=
  if sync.status.timeOfDayPending then sync
  else
    match sync.status.bestSource none with
    | some best => sync.acquire best .qualified epoch false
    | none =>
        -- Nothing accurate enough: still a clock. Take what there is.
        match sync.status.bestFallback with
        | some best =>
            sync.acquire best .qualified epoch (!sync.status.sourceGood (some best))
        | none => sync

/-- `follow_sources` while tracking. -/
def followTracking (sync : Synchroniser) (epoch : BitVec 32) : Synchroniser :=
  let status := sync.status
  if status.sourceUsable status.source then
    match sync.challenge (status.bestSource status.source) status.currentBound with
    | (some best, sync) => sync.acquire best .betterSource epoch false
    | (none, sync) => sync
  else if status.candidateBound .holdover ≠ syncBoundNone then
    sync.enter .holdover status.holdover.source .sourceLost epoch
  else
    match status.bestSource status.source with
    | some best => sync.acquire best .alternative epoch false
    | none => sync.enter .freeRun none .sourceLost epoch

/-- Whether the source held over from is back: usable, captured and no worse than
holdover. -/
def sourceBack (status : SyncStatus) : Bool :=
  match status.source with
  | some id =>
      status.sourceUsable (some id) && (status.sources id).report.captured &&
        (status.sources id).boundNs ≤ status.holdover.boundNs
  | none => false

/-- Back, but its edge is no longer routed to the capture. -/
def sourceUncaptured (status : SyncStatus) : Bool :=
  match status.source with
  | some id => status.bestSource none == some id && !(status.sources id).report.captured
  | none => false

/-- `follow_sources` in holdover. -/
def followInHoldover (sync : Synchroniser) (epoch : BitVec 32) : Synchroniser :=
  let status := sync.status
  if sourceBack status then sync.enter .locked status.source .sourceBack epoch
  else
    match sourceUncaptured status, status.source with
    | true, some selected => sync.acquire selected .sourceBack epoch false
    | _, _ =>
        match sync.challenge (status.bestSource none) status.holdover.boundNs with
        | (some best, sync) => sync.acquire best .alternative epoch false
        | (none, sync) =>
            if syncSynchronisedLimitNs < sync.status.holdover.boundNs then
              sync.enter .freeRun none .expired epoch
            else sync

/-- `follow_sources`. -/
def followSources (sync : Synchroniser) (epoch : BitVec 32) : Synchroniser :=
  match sync.status.state with
  | .freeRun => sync.followFreeRun epoch
  | .acquire | .locked => sync.followTracking epoch
  | .holdover => sync.followInHoldover epoch

/-- `judge_sources`, with the rest of the synchroniser. -/
def judgeSources (sync : Synchroniser) (input : EpochInput) : Synchroniser :=
  { sync with status := sync.status.judgeSources input }

/-- A fallback that has met its accuracy limit is a source like any other; and
`update_holdover_bound`. -/
def settleFallback (sync : Synchroniser) : Synchroniser :=
  { sync with
    status :=
      SyncStatus.updateHoldoverBound
        { sync.status with
          fallback := sync.status.fallback && !sync.status.sourceGood sync.status.source } }

/-- `sync_update` up to `follow_sources`. -/
def beforeSources (sync : Synchroniser) (input : EpochInput) : Synchroniser :=
  let epoch := input.snapshot.sequence
  let judged := (sync.applyResync epoch).judgeSources input
  (judged.applyManualTime epoch).settleFallback.alignToTimeOfDay

/-- The selected source's edge may be used this epoch. -/
def edgeUsable (status : SyncStatus) : Bool :=
  match status.source with
  | some id =>
      status.isTracking && status.sourceUsable (some id) && (status.sources id).report.captured
  | none => false

/-- The selected source's report, as far as the loop is told of it: whether it has
corrected its own time, and its edge's offset. -/
def selectedReport (status : SyncStatus) : SyncSourceReport :=
  (status.source.map fun id => (status.sources id).report).getD {}

/-- The loop, told if the selected source has just corrected its own time. -/
def loopTold (sync : Synchroniser) : EpochControl :=
  if sync.status.isTracking && (selectedReport sync.status).stepped then sync.loop.sourceStepped
  else sync.loop

/-- `sync_update`'s call of the control loop. -/
def runLoop (sync : Synchroniser) (input : EpochInput) : EpochUpdate × Synchroniser :=
  let usable := edgeUsable sync.status
  let offsetTicks := if usable then nsToTicks (selectedReport sync.status).edgeOffsetNs else 0
  let ran := sync.loopTold.update input.snapshot usable offsetTicks input.numbers
  (ran.1, { sync with loop := ran.2 })

/-- `sync_update` from the loop's update to the ranking. -/
def afterLoop (sync : Synchroniser) (input : EpochInput) (update : EpochUpdate)
    (usable wasLocked : Bool) : Synchroniser :=
  let followed := (sync.status.followLoop sync.loop input.snapshot update).followHoldover update
  { sync with
    status :=
      ((followed.updateHoldoverBound.keepTime input.snapshot usable wasLocked).rankSecond).countEpoch
        update }

/-- `sync_update` up to the control loop. -/
def chosen (sync : Synchroniser) (input : EpochInput) : Synchroniser :=
  (sync.beforeSources input).followSources input.snapshot.sequence

/-- `sync_update`. -/
def syncUpdate (sync : Synchroniser) (input : EpochInput) : SyncUpdate × Synchroniser :=
  let wasLocked := sync.status.state == .locked || sync.status.state == .holdover
  let usable := edgeUsable (sync.chosen input).status
  let ran := (sync.chosen input).runLoop input
  let after := ran.2.afterLoop input ran.1 usable wasLocked
  (⟨ran.1, usable, after.status.transitions != sync.status.transitions⟩, after)

/-! ## Interface -/

/-- `sync_set_time`: whether it is taken, and what becomes of it. -/
def syncSetTime (sync : Synchroniser) (utcSeconds epochSequence : BitVec 32) (slotMs : Nat) :
    Bool × Synchroniser :=
  if sync.status.state ≠ .freeRun ∨ sync.status.steered ∨ 1000 ≤ slotMs then (false, sync)
  else (true, { sync with manualTime := ⟨true, utcSeconds, epochSequence, slotMs⟩ })

/-- `sync_resync`. -/
def syncResync (sync : Synchroniser) : Synchroniser :=
  { sync with resyncPending := true }

/-- `sync_set_leap`. -/
def syncSetLeap (sync : Synchroniser) (leap : UtcLeap) : Synchroniser :=
  { sync with
    status :=
      { sync.status with
        linkLeap := if leap.change = 0 then { leap with eventUtc := 0 } else leap } }

end Synchroniser

/-- `sync_is_synchronised`. -/
def SyncStatus.isSynchronised (status : SyncStatus) : Bool :=
  (status.state == .locked || status.state == .holdover) &&
    status.currentBound ≤ syncSynchronisedLimitNs

/-- What can happen to the synchroniser. -/
inductive SyncAct
  | update (input : EpochInput)
  | resync
  | setLeap (leap : UtcLeap)
  | setTime (utcSeconds epochSequence : BitVec 32) (slotMs : Nat)

/-- The synchroniser from `sync_init` on. -/
def synchroniser : Machine Synchroniser SyncAct where
  start sync := sync = {}
  step sync
    | .update input => (sync.syncUpdate input).2
    | .resync => sync.syncResync
    | .setLeap leap => sync.syncSetLeap leap
    | .setTime utcSeconds epochSequence slotMs =>
        (sync.syncSetTime utcSeconds epochSequence slotMs).2

end GpsClock.Sync
