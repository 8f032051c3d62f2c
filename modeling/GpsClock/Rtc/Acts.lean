import GpsClock.Rtc.System

/-! # What each call can do

The source less what only decides when: its second, its rate, its anchor, its last
setting, what is searched for or written, and the transfers. Each call's effect on it is
stated once, and the invariants about what the source believes of the chip are derived
from that.
-/

namespace GpsClock.Rtc

open GpsClock.Platform GpsClock.Sync GpsClock.Timing

/-- What the last setting is said to be. -/
structure RtcWritten where
  valid : Bool
  aligned : Bool
  utc : BitVec 32

/-- The source and its driver, less when things are due. -/
structure RtcCore where
  activity : SourceRtcActivity
  second : RtcSecond
  rate : RtcRate
  offsetMs : Option Int
  anchor : SourceRtcAnchor
  written : RtcWritten
  purpose : SearchPurpose
  sampleValid : Bool
  sampleUtc : BitVec 32
  sampleStamp : BitVec 32
  readsSeen : BitVec 32
  done : Bool
  found : Bool
  expectStamp : BitVec 32
  expectLabel : BitVec 32
  writesSeen : BitVec 32
  releasesSeen : BitVec 32
  ourEpoch : OurEpoch
  status : Pcf8563Status
  transfers : Pcf8563Transfer → I2cTransfer
  writeBuffer : Registers

namespace RtcCore

/-- A transfer submitted for a request. -/
def asks (core : RtcCore) (transfer : Pcf8563Transfer) (request : Pcf8563Request) : RtcCore :=
  { core with
    transfers :=
      Function.update core.transfers transfer
        { core.transfers transfer with result := .queued }
    status := { core.status with request := request } }

/-- A time submitted for the chip. -/
def writes (core : RtcCore) (utcSeconds : BitVec 32) (control1 : BitVec 8)
    (request : Pcf8563Request) : RtcCore :=
  { core with writeBuffer := encode utcSeconds control1 }.asks .write request

/-- A plain write submitted, and recorded. -/
def wrote (core : RtcCore) (utcSeconds : BitVec 32) : RtcCore :=
  { core.writes utcSeconds 0 .writing with
    anchor :=
      { valid := true
        aligned := false
        utcSeconds := utcSeconds
        offsetNs := 0
        boundNs := sourceRtcUncertaintyNs }
    written := { valid := true, aligned := false, utc := utcSeconds }
    second := { core.second with valid := false }
    rate := { core.rate with baselineValid := false } }

/-- A search begun. -/
def searches (core : RtcCore) (why : SearchPurpose) : RtcCore :=
  { core.asks .read .reading with
    activity := if why = .confirm then .confirming else .searching
    purpose := why
    sampleValid := false
    readsSeen := core.status.reads
    done := false }

/-- A search ended. -/
def ends (core : RtcCore) (found : Bool) : RtcCore :=
  { core with activity := .idle, done := true, found := found }

/-- `confirmed`, whether the write landed within tolerance. -/
def landsWithin (core : RtcCore) : Bool :=
  let error := (core.second.stamp - core.expectStamp).toInt
  core.second.label == core.expectLabel &&
    decide (error ≤ sourceRtcAlignToleranceTicks ∧ -sourceRtcAlignToleranceTicks ≤ error)

/-- `search_result`, whether a second found confirms a write. -/
def confirms (core : RtcCore) : Bool :=
  core.purpose == .confirm && core.landsWithin

/-- The last setting once a second found is acted on. -/
def writtenBy (core : RtcCore) (acts : Bool) : RtcWritten :=
  if acts && core.confirms then { valid := true, aligned := true, utc := core.expectLabel }
  else core.written

/-- An aligned write planned, to land at a stamp with a label. -/
def planned (core : RtcCore) (stamp label : BitVec 32) : RtcCore :=
  { core with
    activity := .loading
    anchor := { core.anchor with valid := false }
    rate := { core.rate with baselineValid := false }
    expectStamp := stamp
    expectLabel := label
    writesSeen := core.status.writes }

/-- What an idle source does at an epoch, the driver free. -/
inductive Acts (core : RtcCore) : RtcCore → Prop
  | rests : Acts core core
  | writes (utcSeconds : BitVec 32) : Acts core (core.wrote utcSeconds)
  | loads (stamp label : BitVec 32) :
      Acts core ((core.planned stamp label).writes (label - 1) pcf8563Stop .writingStopped)
  | refused (stamp label : BitVec 32) :
      Acts core { core.planned stamp label with activity := .idle }
  | releases :
      Acts core
        { core.asks .release .releasing with
          second := { core.second with valid := false }
          anchor := { core.anchor with valid := false } }
  | reads : Acts core (core.asks .read .reading)
  | searches (why : SearchPurpose) (other : why ≠ .confirm) : Acts core (core.searches why)

/-- The stamp between the last read before an increment and the first after. -/
def between (core : RtcCore) : BitVec 32 :=
  core.sampleStamp + (core.status.readStamp - core.sampleStamp) / 2 + sourceRtcReadLatchTicks

/-- The increments counted by a second found. -/
def edgesFound (core : RtcCore) : BitVec 32 :=
  if core.second.valid then
    let apart := (core.between - core.second.stamp).toInt
    let seconds := (apart + 20000000).tdiv 40000000
    core.second.edges + BitVec.ofInt 32 (if 0 < seconds then seconds else 0)
  else core.second.edges + 1

/-- The second found between the sample and the latest read. -/
def finds (core : RtcCore) (rateValid : Bool) (rateQ8 : Int) : RtcCore :=
  { core with
    activity := .idle
    readsSeen := core.status.reads
    done := true
    found := true
    rate :=
      { valid := rateValid
        q8 := rateQ8
        baselineValid := true
        baselineStamp := core.between
        baselineLabel := core.status.utcSeconds }
    second :=
      { valid := true
        stamp := core.between
        label := core.status.utcSeconds
        edges := core.edgesFound
        measuredEpoch := core.ourEpoch.sequence
        resolutionTicks := core.status.readStamp - core.sampleStamp
        fractionQ8 := 0 } }

/-- The latest read bounds the increment from the sample. -/
structure Brackets (core : RtcCore) : Prop where
  fresh : core.status.reads ≠ core.readsSeen
  calendarValid : core.status.calendarValid = true
  running : core.status.stopped = false
  sampled : core.sampleValid = true
  next : core.status.utcSeconds = core.sampleUtc + 1
  near : core.status.readStamp - core.sampleStamp ≤ sourceRtcSearchResolutionTicks

/-- The sample once the reads that finished are looked at, the increment not found. -/
inductive Samples (core : RtcCore) : RtcCore → Prop
  | none (seen : core.status.reads = core.readsSeen) : Samples core core
  | drops : Samples core { core with readsSeen := core.status.reads, sampleValid := false }
  | keeps (calendarValid : core.status.calendarValid = true) (running : core.status.stopped = false) :
      Samples core
        { core with
          readsSeen := core.status.reads
          sampleValid := true
          sampleUtc := core.status.utcSeconds
          sampleStamp := core.status.readStamp }

/-- A search kept up, the next read asked for. -/
inductive Searches (core : RtcCore) : RtcCore → Prop
  | rests : Searches core core
  | fails : Searches core (core.ends false)
  | reads (free : core.status.request.waitsFor = .none) : Searches core (core.asks .read .reading)

/-- What a poll does. -/
inductive Polls (core : RtcCore) : RtcCore → Prop
  | rests : Polls core core
  | searches (idle : core.activity = .idle) (free : core.status.request.waitsFor = .none) :
      Polls core (core.searches .measure)
  | finds (searching : core.activity = .searching ∨ core.activity = .confirming)
      (brackets : core.Brackets) (rateValid : Bool) (rateQ8 : Int)
      (learns : core.rate.baselineValid = false →
        rateValid = core.rate.valid ∧ rateQ8 = core.rate.q8) :
      Polls core (core.finds rateValid rateQ8)
  | looks (searching : core.activity = .searching ∨ core.activity = .confirming)
      {sampled after : RtcCore} (samples : core.Samples sampled) (onward : sampled.Searches after) :
      Polls core after
  | loaded (loading : core.activity = .loading) (free : core.status.request.waitsFor = .none)
      (worked : core.status.writes ≠ core.writesSeen) : Polls core { core with activity := .waiting }
  | releases (waiting : core.activity = .waiting) (free : core.status.request.waitsFor = .none) :
      Polls core
        { core.asks .release .releasing with
          releasesSeen := core.status.releases
          activity := .releasing }
  | confirms (releasing : core.activity = .releasing)
      (free : core.status.request.waitsFor = .none)
      (worked : core.status.releases ≠ core.releasesSeen) : Polls core (core.searches .confirm)
  | aborts (releasesSeen : BitVec 32) (writing : core.activity = .loading ∨ core.activity = .waiting ∨
        core.activity = .releasing) :
      Polls core { core with activity := .idle, releasesSeen := releasesSeen }

/-- A transfer that ended, taken up: what the chip's flags then are is not followed. -/
inductive Finishes (core : RtcCore) : RtcCore → Prop
  | rests : Finishes core core
  | failed {transfer : Pcf8563Transfer} (waits : core.status.request.waitsFor = some transfer)
      (bad : (core.transfers transfer).result ≠ .ok) (present calendarValid timeValid : Bool) :
      Finishes core
        { core with
          status :=
            { core.status with
              present := present
              calendarValid := calendarValid
              timeValid := timeValid
              request := .failed } }
  | loaded (loading : core.status.request = .writingStopped)
      (ok : (core.transfers .write).result = .ok) :
      Finishes core
        { core with
          status :=
            { core.status with present := true, writes := core.status.writes + 1, request := .done } }
  | released (releasing : core.status.request = .releasing)
      (ok : (core.transfers .release).result = .ok) :
      Finishes core
        { core with
          status :=
            { core.status with
              present := true, releases := core.status.releases + 1, request := .done } }
  | written (writing : core.status.request = .writing)
      (ok : (core.transfers .write).result = .ok) :
      Finishes core
        { core.asks .read .reading with
          status :=
            { core.status with
              present := true, writes := core.status.writes + 1, request := .reading } }
  | read (reading : core.status.request = .reading) (ok : (core.transfers .read).result = .ok) :
      Finishes core
        { core with
          status :=
            { core.status with
              present := true
              reads := core.status.reads + 1
              readStamp := (core.transfers .read).startStamp
              request := .done }.decode }

/-- A service, the periodic read with it. -/
inductive Serves (core : RtcCore) : RtcCore → Prop
  | finishes {after : RtcCore} (finished : core.Finishes after) : Serves core after
  | reads {after : RtcCore} (finished : core.Finishes after) (idle : core.activity = .idle)
      (free : after.status.request.waitsFor = .none) : Serves core (after.asks .read .reading)

end RtcCore

namespace SourceRtc

/-- The source less when things are due. -/
def core (source : SourceRtc) : RtcCore where
  activity := source.activity
  second := source.second
  rate := source.rate
  offsetMs := source.offsetMs
  anchor := source.anchor
  written := ⟨source.lastWrite.valid, source.lastWrite.aligned, source.lastWrite.utc⟩
  purpose := source.search.purpose
  sampleValid := source.search.sampleValid
  sampleUtc := source.search.sampleUtc
  sampleStamp := source.search.sampleStamp
  readsSeen := source.search.readsSeen
  done := source.search.done
  found := source.search.found
  expectStamp := source.write.expectStamp
  expectLabel := source.write.expectLabel
  writesSeen := source.write.writesSeen
  releasesSeen := source.write.releasesSeen
  ourEpoch := source.ourEpoch
  status := source.rtc.status
  transfers := source.rtc.transfers
  writeBuffer := source.rtc.writeBuffer

variable {source : SourceRtc} {stopped : Bool}

theorem checkBy_core (source : SourceRtc) (epoch : BitVec 32) :
    (source.checkBy epoch).core = source.core := by
  rw [checkBy]
  split <;> rfl

/-! ## What it asks of the driver -/

/-- The source with what it has asked of the driver. -/
theorem asked_core (sound : source.Sound stopped) (free : source.rtc.busy = false)
    (transfer : Pcf8563Transfer) (request : Pcf8563Request) :
    core { source with rtc := (source.rtc.start transfer request).2 } =
      source.core.asks transfer request := by
  rw [Pcf8563.start_accepted sound.driver.settled free]
  rfl

theorem read_core (sound : source.Sound stopped) (free : source.rtc.busy = false) :
    core { source with rtc := source.rtc.read.2 } = source.core.asks .read .reading := by
  rw [(Pcf8563.read_accepted sound.driver.settled free).1]
  exact asked_core sound free .read .reading

theorem release_core (sound : source.Sound stopped) (free : source.rtc.busy = false) :
    source.rtc.release.1 = true ∧
      core { source with rtc := source.rtc.release.2 } =
        source.core.asks .release .releasing := by
  obtain ⟨asked, accepted⟩ := Pcf8563.release_accepted sound.driver.settled free
  refine ⟨accepted, ?_⟩
  rw [asked]
  exact asked_core sound free .release .releasing

/-- A time is written, or it is one the chip cannot hold and nothing is done. -/
theorem writeTime_core (sound : source.Sound stopped) (free : source.rtc.busy = false)
    (utcSeconds : BitVec 32) (control1 : BitVec 8) (request : Pcf8563Request) :
    source.rtc.writeTime utcSeconds control1 request = (false, source.rtc) ∨
      (source.rtc.writeTime utcSeconds control1 request).1 = true ∧
        core { source with rtc := (source.rtc.writeTime utcSeconds control1 request).2 } =
          source.core.writes utcSeconds control1 request := by
  rw [Pcf8563.writeTime, free]
  by_cases early : utcSeconds < pcf8563FirstUtc
  · exact .inl (if_pos (decide_eq_true early))
  · rw [if_neg (by rwa [Bool.false_or, decide_eq_true_eq])]
    have settled : Pcf8563.Settled { source.rtc with writeBuffer := encode utcSeconds control1 } :=
      sound.driver.settled
    rw [Pcf8563.start_accepted settled free]
    exact .inr ⟨rfl, rfl⟩

theorem startSearch_core (sound : source.Sound stopped) (free : source.rtc.busy = false)
    (why : SearchPurpose) (epochs : BitVec 32) :
    (source.startSearch why epochs).core = source.core.searches why := by
  have reads (enabled : Bool) : (source.rtc.setAutoRead enabled).read =
      (source.rtc.setAutoRead enabled).start .read .reading :=
    (Pcf8563.read_accepted (show Pcf8563.Settled (source.rtc.setAutoRead enabled) from
      sound.driver.settled) free).1
  have started (enabled : Bool) :=
    Pcf8563.start_accepted (show Pcf8563.Settled (source.rtc.setAutoRead enabled) from
      sound.driver.settled) free .read .reading
  rw [startSearch]
  dsimp only [setActivity]
  rw [reads, started]
  rfl

/-! ## An epoch, up to whether there is anything to do -/

theorem abortWrite_core (source : SourceRtc) :
    source.abortWrite.core = { source.core with activity := .idle } := by
  rw [abortWrite]
  dsimp only
  split <;> rfl

theorem missed_core (source : SourceRtc) (labelOk : Bool) :
    (source.missed labelOk).core = source.core := by
  rw [missed]
  dsimp only
  split
  · rfl
  · split <;> rfl

theorem confirmed_core (source : SourceRtc) (confirming : source.search.purpose = .confirm) :
    source.confirmed.core = { source.core with written := source.core.writtenBy true } := by
  have learnt (correction errorTicks : Int) (labelOk : Bool) :
      core
        (if labelOk then
          { source with
            write := { source.write with correctionTicks := correction }
            lastWrite := { source.lastWrite with errorTicks := errorTicks } }
        else source) = source.core := by
    split <;> rfl
  have lands : source.core.confirms = source.core.landsWithin := by
    rw [RtcCore.confirms, core, confirming]
    rfl
  rw [confirmed, RtcCore.writtenBy, lands, Bool.true_and]
  dsimp only
  by_cases within : source.core.landsWithin = true
  · have labelled : (source.second.label == source.write.expectLabel) = true :=
      (Bool.and_eq_true_iff.mp within).1
    rw [if_pos within]
    refine (congrArg core (if_pos within)).trans ?_
    rw [if_pos labelled]
    rfl
  · rw [if_neg within]
    refine (congrArg core (if_neg within)).trans ?_
    rw [missed_core]
    exact learnt _ _ _

theorem compared_core (source : SourceRtc) (synchronised : Bool) :
    (source.compared synchronised).core = source.core := by
  rw [compared]
  dsimp only
  split
  · rfl
  · split <;> rfl

theorem useResult_core (source : SourceRtc) (synchronised : Bool) :
    (source.useResult synchronised).core =
      { source.core with written := source.core.writtenBy true } := by
  have unconfirmed (other : source.search.purpose ≠ .confirm) :
      source.core = { source.core with written := source.core.writtenBy true } := by
    have never : source.core.confirms = false :=
      Bool.and_eq_false_iff.mpr (.inl (beq_eq_false_iff_ne.mpr other))
    rw [RtcCore.writtenBy, never]
    rfl
  rw [useResult]
  split
  · next confirming => exact confirmed_core source confirming
  · next checks =>
      rw [compared_core]
      exact unconfirmed (by rw [checks]; decide)
  · next measures =>
      have same := unconfirmed (by rw [measures]; decide)
      split
      · exact (checkBy_core source _).trans same
      · exact same

theorem notFound_core (source : SourceRtc) :
    ∃ activity, (activity = source.activity ∨ activity = .idle) ∧
      source.notFound.core = { source.core with activity := activity } := by
  rw [notFound]
  split
  · exact ⟨.idle, .inr rfl, abortWrite_core source⟩
  · exact ⟨source.activity, .inl rfl, rfl⟩

theorem expire_core (source : SourceRtc) :
    ∃ activity done found, (activity = source.activity ∨ activity = .idle) ∧
      (done = source.search.done ∧ found = source.search.found ∨ found = false) ∧
      source.expire.core =
        { source.core with activity := activity, done := done, found := found } := by
  have given (write : Bool) :
      ∃ activity done found, (activity = source.activity ∨ activity = .idle) ∧
        (done = source.search.done ∧ found = source.search.found ∨ found = false) ∧
        core (if write then source.abortWrite else source) =
          { source.core with activity := activity, done := done, found := found } := by
    split
    · exact ⟨.idle, _, _, .inr rfl, .inl ⟨rfl, rfl⟩, abortWrite_core source⟩
    · exact ⟨_, _, _, .inl rfl, .inl ⟨rfl, rfl⟩, rfl⟩
  have ended (search : Bool) :
      ∃ activity done found, (activity = source.activity ∨ activity = .idle) ∧
        (done = source.search.done ∧ found = source.search.found ∨ found = false) ∧
        core (if search then source.endSearch false else source) =
          { source.core with activity := activity, done := done, found := found } := by
    split
    · exact ⟨.idle, true, false, .inr rfl, .inr rfl, rfl⟩
    · exact ⟨_, _, _, .inl rfl, .inl ⟨rfl, rfl⟩, rfl⟩
  rw [expire]
  split
  · exact ended _
  · exact ended _
  · exact given _
  · exact given _
  · exact given _
  · exact ⟨_, _, _, .inl rfl, .inl ⟨rfl, rfl⟩, rfl⟩

/-- Whether a second found is acted on at this epoch. -/
def acts (source : SourceRtc) (snapshot : TimingSnapshot) : Bool :=
  let expired := (source.takeEpoch snapshot).expire
  expired.search.done && expired.search.found

/-- Whether the second acted on anchors the RTC's time. -/
def anchors (source : SourceRtc) (snapshot : TimingSnapshot) (synchronised : Bool)
    (boundNs : Nat) : Bool :=
  source.acts snapshot && synchronised && snapshot.epochCaptureValid && boundNs != syncBoundNone

theorem anchorFound_core (source : SourceRtc) (time : SyncTime) (clockBoundNs : Nat) :
    ∃ anchor : SourceRtcAnchor, anchor.aligned = true ∧
      (source.anchorFound time clockBoundNs).core =
        { source.core with
          anchor :=
            if source.ourEpoch.valid && clockBoundNs != syncBoundNone then anchor
            else source.anchor } := by
  rw [anchorFound]
  cases source.ourEpoch.valid with
  | false => exact ⟨{ aligned := true }, rfl, rfl⟩
  | true =>
      by_cases bounded : clockBoundNs = syncBoundNone
      · rw [bounded]
        exact ⟨{ aligned := true }, rfl, rfl⟩
      · have unbounded : (clockBoundNs == syncBoundNone) = false := beq_eq_false_iff_ne.mpr bounded
        rw [bne, unbounded]
        exact ⟨_, rfl, rfl⟩

/-- Our clock is compared with the second, if it is known where it is. -/
theorem measureOffset_core (source : SourceRtc) (time : SyncTime) :
    ∃ offsetMs, (source.second.valid = false → offsetMs = none) ∧
      (source.measureOffset time).core = { source.core with offsetMs := offsetMs } := by
  rw [measureOffset]
  split
  · exact ⟨none, fun _ => rfl, rfl⟩
  · next known =>
      refine ⟨_, fun unknown => absurd ?_ known, rfl⟩
      rw [unknown, Bool.not_false, Bool.or_true]

/-- A search's result, acted on. -/
theorem searchResult_core (source : SourceRtc) (time : SyncTime) (synchronised : Bool)
    (boundNs : Nat) :
    ∃ activity offsetMs anchor, (activity = source.activity ∨ activity = .idle) ∧
      (source.search.found = true → source.second.valid = false → offsetMs = none) ∧
      (source.search.found = false → offsetMs = source.offsetMs) ∧
      anchor.aligned = true ∧
      (source.searchResult time synchronised boundNs).core =
        { source.core with
          activity := activity
          offsetMs := offsetMs
          done := false
          anchor :=
            if source.search.found && synchronised && source.ourEpoch.valid &&
                boundNs != syncBoundNone then anchor
            else source.anchor
          written := source.core.writtenBy source.search.found } := by
  rw [searchResult]
  cases found : source.search.found with
  | false =>
      obtain ⟨activity, either, notFound⟩ := notFound_core source.undone
      refine ⟨activity, source.offsetMs, { aligned := true }, either,
        fun wrong => absurd wrong Bool.false_ne_true, fun _ => rfl, rfl, ?_⟩
      exact notFound
  | true =>
      obtain ⟨offsetMs, unknown, measures⟩ := measureOffset_core source.undone time
      obtain ⟨anchor, aligned, anchored⟩ :=
        anchorFound_core (source.undone.measureOffset time) time boundNs
      refine ⟨source.activity, offsetMs, anchor, .inl rfl, fun _ => unknown,
        fun wrong => absurd wrong.symm Bool.false_ne_true, aligned, ?_⟩
      have epoch : (source.undone.measureOffset time).ourEpoch = source.ourEpoch :=
        congrArg RtcCore.ourEpoch measures
      have before : (source.undone.measureOffset time).anchor = source.anchor :=
        congrArg RtcCore.anchor measures
      have measured : (source.undone.measured time synchronised boundNs).core =
          { source.core with
            offsetMs := offsetMs
            done := false
            anchor :=
              if synchronised && source.ourEpoch.valid && boundNs != syncBoundNone then anchor
              else source.anchor } := by
        rw [measured]
        cases synchronised with
        | false => exact measures
        | true =>
            refine anchored.trans ?_
            rw [epoch, before, measures, Bool.true_and]
            rfl
      refine (useResult_core _ synchronised).trans ?_
      rw [measured, Bool.true_and]
      rfl

theorem followClock_core (source : SourceRtc) (time : SyncTime) (synchronised : Bool) :
    (source.followClock time synchronised).core = source.core := by
  have checked (epoch : BitVec 32) (due : Bool) :
      core (if due then source.checkBy epoch else source) = source.core := by
    split
    · exact checkBy_core source epoch
    · rfl
  rw [followClock]
  exact checked _ _

/-- What is acted on was found. -/
theorem found_of_acts {snapshot : TimingSnapshot} (acts : source.acts snapshot = true) :
    source.search.done = true ∧ source.search.found = true := by
  obtain ⟨_, done, found, _, either, expired⟩ := expire_core (source.takeEpoch snapshot)
  obtain ⟨isDone, isFound⟩ := Bool.and_eq_true_iff.mp acts
  rw [show (source.takeEpoch snapshot).expire.search.done = done from
    congrArg RtcCore.done expired] at isDone
  rw [show (source.takeEpoch snapshot).expire.search.found = found from
    congrArg RtcCore.found expired] at isFound
  rcases either with ⟨sameDone, sameFound⟩ | none
  · exact ⟨sameDone.symm.trans isDone, sameFound.symm.trans isFound⟩
  · exact absurd (none.symm.trans isFound) Bool.false_ne_true

theorem settle_core (source : SourceRtc) (snapshot : TimingSnapshot) (time : SyncTime)
    (synchronised : Bool) (boundNs : Nat) :
    ∃ activity found offsetMs anchor, (activity = source.activity ∨ activity = .idle) ∧
      (source.acts snapshot = true → source.second.valid = false → offsetMs = none) ∧
      (source.acts snapshot = false → offsetMs = source.offsetMs) ∧
      anchor.aligned = true ∧
      (source.settle snapshot time synchronised boundNs).core =
        { source.core with
          activity := activity
          second := (source.takeEpoch snapshot).second
          ourEpoch := (source.takeEpoch snapshot).ourEpoch
          offsetMs := offsetMs
          done := false
          found := found
          anchor :=
            if source.anchors snapshot synchronised boundNs then anchor else source.anchor
          written := source.core.writtenBy (source.acts snapshot) } := by
  obtain ⟨activity, done, found, either, _, expired⟩ := expire_core (source.takeEpoch snapshot)
  have acts : source.acts snapshot = (done && found) := by
    rw [SourceRtc.acts]
    exact congrArg₂ _ (congrArg RtcCore.done expired) (congrArg RtcCore.found expired)
  rw [settle, anchors, acts]
  dsimp only
  rw [followClock_core]
  generalize (source.takeEpoch snapshot).expire = after at expired ⊢
  have isDone : after.search.done = done := congrArg RtcCore.done expired
  have isFound : after.search.found = found := congrArg RtcCore.found expired
  rw [isDone]
  cases done with
  | false =>
      exact ⟨activity, found, source.offsetMs, { aligned := true }, either,
        fun wrong => absurd wrong Bool.false_ne_true, fun _ => rfl, rfl,
        expired⟩
  | true =>
      obtain ⟨onward, offsetMs, anchor, either', unknown, same, aligned, result⟩ :=
        searchResult_core after time synchronised boundNs
      have second : after.second = (source.takeEpoch snapshot).second :=
        congrArg RtcCore.second expired
      have epoch : after.ourEpoch = (source.takeEpoch snapshot).ourEpoch :=
        congrArg RtcCore.ourEpoch expired
      have before : after.anchor = source.anchor := congrArg RtcCore.anchor expired
      have offset : after.offsetMs = source.offsetMs := congrArg RtcCore.offsetMs expired
      have state : after.activity = activity := congrArg RtcCore.activity expired
      rw [isFound] at unknown same result
      rw [second] at unknown
      rw [offset] at same
      rw [epoch, before, expired] at result
      refine ⟨onward, found, offsetMs, anchor, ?_, ?_, same, aligned, ?_⟩
      · rw [state] at either'
        rcases either' with rfl | idle
        · exact either
        · exact .inr idle
      · refine fun acted invalid => unknown acted ?_
        rw [takeEpoch, invalid]
        rfl
      · exact result

/-! ## An epoch's action -/

theorem rtcChanged_core {after : SourceRtc} (same : after.anchor = source.anchor) :
    core (if source.anchor.valid then after.rtcChanged else after) =
      { after.core with anchor := { source.anchor with valid := false } } := by
  cases valid : source.anchor.valid with
  | true =>
      rw [← same]
      rfl
  | false =>
      have unchanged : { source.anchor with valid := false } = source.anchor := by
        rw [← valid]
      rw [unchanged, ← same]
      rfl

theorem writePlainly_acts (sound : source.Sound stopped) (free : source.rtc.busy = false)
    (time : SyncTime) (synchronised : Bool) :
    source.core.Acts (source.writePlainly time synchronised).core := by
  cases synchronised with
  | false => exact .rests
  | true =>
      rw [writePlainly]
      dsimp only
      rw [Bool.not_true, if_neg Bool.false_ne_true, Pcf8563.write]
      rcases writeTime_core sound free time.utcSeconds 0 .writing with refused | ⟨accepted, asked⟩
      · rw [refused]
        exact .rests
      · rw [if_pos accepted]
        have wrote := @RtcCore.Acts.writes source.core time.utcSeconds
        rw [RtcCore.wrote, ← asked] at wrote
        exact wrote

theorem beginWrite_acts (sound : source.Sound stopped) (free : source.rtc.busy = false)
    (time : SyncTime) : source.core.Acts (source.beginWrite time).core := by
  rw [beginWrite]
  dsimp only
  generalize leadSeconds source.releaseDelay = n
  split
  · exact .rests
  · have planned : (source.planWrite time n).core =
        source.core.planned (source.planWrite time n).write.expectStamp
          (source.planWrite time n).write.expectLabel := rfl
    rw [Pcf8563.writeStopped]
    rcases writeTime_core (planWrite_sound sound time n) free
        ((source.planWrite time n).write.expectLabel - 1) pcf8563Stop .writingStopped with
      refused | ⟨accepted, asked⟩
    · rw [refused, if_neg Bool.false_ne_true, abortWrite_core]
      exact .refused _ _
    · rw [if_pos accepted, asked, planned]
      exact .loads _ _

theorem foundStopped_acts (sound : source.Sound stopped) (free : source.rtc.busy = false) :
    source.core.Acts source.foundStopped.core := by
  rw [foundStopped]
  split
  · dsimp only
    rw [rtcChanged_core]
    · have releases := @RtcCore.Acts.releases source.core
      rw [← (release_core sound free).2] at releases
      exact releases
    · rfl
  · have reads := @RtcCore.Acts.reads source.core
    rw [← read_core sound free] at reads
    exact reads

theorem startDue_acts (sound : source.Sound stopped) (free : source.rtc.busy = false)
    (synchronised : Bool) : source.core.Acts (source.startDue synchronised).core := by
  rw [startDue]
  dsimp only
  split
  · split
    · exact .rests
    · rw [startSearch_core sound free]
      exact .searches .check (by decide)
  · split
    · have noted : Sound stopped
          { source with checks := { source.checks with rateDue := false } } := sound
      rw [startSearch_core noted free]
      exact .searches .measure (by decide)
    · split
      · rw [startSearch_core sound free]
        exact .searches .measure (by decide)
      · exact .rests

theorem act_acts (sound : source.Sound stopped) (free : source.rtc.busy = false)
    (time : SyncTime) (synchronised : Bool) :
    source.core.Acts (source.act time synchronised).core := by
  rw [act]
  split
  · exact writePlainly_acts sound free time synchronised
  · split
    · split
      · exact beginWrite_acts sound free time
      · split <;> exact .rests
    · split
      · exact foundStopped_acts sound free
      · exact startDue_acts sound free synchronised

/-- A free source acts at its epoch. -/
theorem epoch_core (sound : source.Sound stopped) {snapshot : TimingSnapshot}
    (advance : 0 < (snapshot.sequence - source.ourEpoch.sequence).toInt) (time : SyncTime)
    (synchronised : Bool) (boundNs : Nat) :
    let timed := synchronised && time.known && !time.leapSecond
    let settled := source.settle snapshot time timed boundNs
    (source.epoch snapshot time synchronised boundNs).core = settled.core ∨
      settled.activity = .idle ∧ settled.rtc.busy = false ∧
        settled.core.Acts (source.epoch snapshot time synchronised boundNs).core := by
  rw [epoch]
  dsimp only
  generalize (synchronised && time.known && !time.leapSecond) = timed
  have sound' := settle_sound sound advance time timed boundNs
  by_cases free : (source.settle snapshot time timed boundNs).free = true
  · rw [if_pos free]
    obtain ⟨available, unbusy⟩ := Bool.and_eq_true_iff.mp free
    have unbusy := Bool.not_eq_true' _ ▸ unbusy
    have idle := eq_of_beq (Bool.and_eq_true_iff.mp available).1
    exact .inr ⟨idle, unbusy, act_acts sound' unbusy time timed⟩
  · rw [if_neg free]
    exact .inl rfl

/-! ## Polls -/

/-- A rate is learnt only from a baseline. -/
theorem learnRate_core (source : SourceRtc) (stamp label : BitVec 32) :
    ∃ valid q8, (source.rate.baselineValid = false → valid = source.rate.valid ∧ q8 = source.rate.q8) ∧
      source.learnRate stamp label =
        { source with rate := { source.rate with valid := valid, q8 := q8 } } := by
  have kept : source = { source with rate := { source.rate with
      valid := source.rate.valid, q8 := source.rate.q8 } } := rfl
  rw [learnRate]
  dsimp only
  split
  · exact ⟨_, _, fun _ => ⟨rfl, rfl⟩, kept⟩
  · next based =>
      split
      · exact ⟨_, _, fun _ => ⟨rfl, rfl⟩, kept⟩
      · refine ⟨_, _, fun none => absurd ?_ based, rfl⟩
        rw [none]
        rfl

theorem foundAt_core (source : SourceRtc) (seen : source.search.readsSeen = source.rtc.status.reads) :
    ∃ rateValid rateQ8,
      (source.rate.baselineValid = false → rateValid = source.rate.valid ∧ rateQ8 = source.rate.q8) ∧
      (source.foundAt source.core.between source.rtc.status.utcSeconds
        (source.rtc.status.readStamp - source.search.sampleStamp)).core =
          source.core.finds rateValid rateQ8 := by
  have seen : source.core.readsSeen = source.core.status.reads := seen
  have edges : source.edgesFound source.core.between = source.core.edgesFound := rfl
  rw [foundAt, edges]
  dsimp only
  split
  · obtain ⟨valid, q8, learns, learnt⟩ :=
      learnRate_core source source.core.between source.rtc.status.utcSeconds
    refine ⟨valid, q8, learns, ?_⟩
    rw [learnt, RtcCore.finds, ← seen]
    rfl
  · refine ⟨_, _, fun _ => ⟨rfl, rfl⟩, ?_⟩
    rw [RtcCore.finds, ← seen]
    rfl

/-- The reads that finished, looked at by a search. -/
theorem takeReads_core (source : SourceRtc) :
    source.core.Samples source.takeReads.core ∧
        source.takeReads.activity = source.activity ∧ source.takeReads.rtc = source.rtc ∨
      source.core.Brackets ∧
        ∃ rateValid rateQ8,
          (source.rate.baselineValid = false →
            rateValid = source.rate.valid ∧ rateQ8 = source.rate.q8) ∧
          source.takeReads.core = source.core.finds rateValid rateQ8 := by
  rw [takeReads]
  by_cases fresh : source.rtc.status.reads ≠ source.search.readsSeen
  · rw [if_pos fresh, takeSample]
    dsimp only
    by_cases unusable : (!source.rtc.status.calendarValid || source.rtc.status.stopped) = true
    · rw [if_pos unusable]
      exact .inl ⟨.drops, rfl, rfl⟩
    · rw [if_neg unusable]
      obtain ⟨calendar, running⟩ := Bool.or_eq_false_iff.mp (Bool.eq_false_iff.mpr unusable)
      have calendar := Bool.not_eq_false' _ ▸ calendar
      by_cases found : (source.search.sampleValid &&
          source.rtc.status.utcSeconds == source.search.sampleUtc + 1 &&
          decide (source.rtc.status.readStamp - source.search.sampleStamp ≤
            sourceRtcSearchResolutionTicks)) = true
      · rw [if_pos found]
        obtain ⟨bounded, near⟩ := Bool.and_eq_true_iff.mp found
        obtain ⟨sampled, next⟩ := Bool.and_eq_true_iff.mp bounded
        refine .inr ⟨⟨fresh, calendar, running, sampled, eq_of_beq next, of_decide_eq_true near⟩, ?_⟩
        exact foundAt_core
          { source with search := { source.search with readsSeen := source.rtc.status.reads } } rfl
      · rw [if_neg found]
        exact .inl ⟨.keeps calendar running, rfl, rfl⟩
  · rw [if_neg fresh]
    exact .inl ⟨.none (not_not.mp fresh), rfl, rfl⟩

/-- Reads that bracket the increment are taken to find it. -/
theorem takeReads_found (brackets : source.core.Brackets) :
    source.takeReads =
      foundAt { source with search := { source.search with readsSeen := source.rtc.status.reads } }
        source.core.between source.rtc.status.utcSeconds
        (source.rtc.status.readStamp - source.search.sampleStamp) := by
  have bounded : (source.search.sampleValid &&
      source.rtc.status.utcSeconds == source.search.sampleUtc + 1 &&
      decide (source.rtc.status.readStamp - source.search.sampleStamp ≤
        sourceRtcSearchResolutionTicks)) = true := by
    refine Bool.and_eq_true_iff.mpr ⟨Bool.and_eq_true_iff.mpr ⟨brackets.sampled, ?_⟩, ?_⟩
    · exact beq_iff_eq.mpr brackets.next
    · exact decide_eq_true brackets.near
  have usable : (!source.rtc.status.calendarValid || source.rtc.status.stopped) = false :=
    Bool.or_eq_false_iff.mpr
      ⟨congrArg not (show source.rtc.status.calendarValid = true from brackets.calendarValid),
        brackets.running⟩
  have fresh : source.rtc.status.reads ≠ source.search.readsSeen := brackets.fresh
  rw [takeReads, if_pos fresh, takeSample]
  dsimp only
  rw [usable, if_neg Bool.false_ne_true, if_pos bounded]
  rfl

theorem readOn_core (sound : source.Sound stopped) : source.core.Searches source.readOn.core := by
  rw [readOn]
  by_cases busy : source.rtc.busy = true
  · rw [if_pos busy]
    exact .rests
  · rw [if_neg busy]
    have free := Bool.eq_false_iff.mpr busy
    split
    · exact .fails
    · rw [read_core sound free]
      exact .reads (Pcf8563.waitsFor_of_free free)

theorem keepSearching_core (sound : source.Sound stopped)
    (searching : source.activity = .searching ∨ source.activity = .confirming) :
    source.core.Polls source.keepSearching.core := by
  have sound' := takeReads_sound sound
  rcases takeReads_core source with ⟨samples, activity, _⟩ | ⟨brackets, valid, q8, learns, finds⟩
  · have onward : source.keepSearching = source.takeReads.readOn := by
      rw [keepSearching, activity]
      rcases searching with searching | confirming
      · rw [searching]
      · rw [confirming]
    rw [onward]
    exact .looks searching samples (readOn_core sound')
  · have idle : source.takeReads.activity = .idle := congrArg RtcCore.activity finds
    have ended : source.keepSearching = source.takeReads := by
      rw [keepSearching, idle]
    rw [ended, finds]
    exact .finds searching brackets valid q8 learns

theorem waitRelease_core (sound : source.Sound stopped) (waiting : source.activity = .waiting)
    (timebase : BitVec 32) : source.core.Polls (source.waitRelease timebase).core := by
  rw [waitRelease]
  dsimp only
  split
  · exact .rests
  · split
    · rw [abortWrite_core]
      exact .aborts _ (.inr (.inl waiting))
    · by_cases busy : source.rtc.busy = true
      · have refused : source.rtc.release = (false, source.rtc) := if_pos busy
        rw [refused, if_neg Bool.false_ne_true, abortWrite_core]
        exact .aborts _ (.inr (.inl waiting))
      · have free := Bool.eq_false_iff.mpr busy
        obtain ⟨accepted, asked⟩ := release_core sound free
        rw [if_pos accepted]
        have releases := @RtcCore.Polls.releases source.core waiting (Pcf8563.waitsFor_of_free free)
        rw [← asked] at releases
        exact releases

theorem poll_core (sound : source.Sound stopped) (timebase : BitVec 32) :
    source.core.Polls (source.poll timebase).core := by
  rw [poll]
  split
  · next idle =>
      split
      · next due =>
          have free := Bool.not_eq_true' _ ▸ (Bool.and_eq_true_iff.mp due).2
          rw [startSearch_core sound free]
          exact .searches idle (Pcf8563.waitsFor_of_free free)
      · exact .rests
  · next searching => exact keepSearching_core sound (.inl searching)
  · next confirming => exact keepSearching_core sound (.inr confirming)
  · next loading =>
      by_cases busy : source.rtc.busy = true
      · rw [if_pos busy]
        exact .rests
      · rw [if_neg busy]
        split
        · next worked =>
            exact .loaded loading (Pcf8563.waitsFor_of_free (Bool.eq_false_iff.mpr busy)) worked
        · rw [abortWrite_core]
          exact .aborts _ (.inl loading)
  · next waiting => exact waitRelease_core sound waiting timebase
  · next releasing =>
      by_cases busy : source.rtc.busy = true
      · rw [if_pos busy]
        exact .rests
      · rw [if_neg busy]
        have free := Bool.eq_false_iff.mpr busy
        split
        · next worked =>
            rw [startSearch_core sound free]
            exact .confirms releasing (Pcf8563.waitsFor_of_free free) worked
        · rw [abortWrite_core]
          exact .aborts _ (.inr (.inr releasing))

/-! ## A setting -/

/-- A setting is refused, or written plainly by an idle source. -/
theorem set_core (sound : source.Sound stopped) (utcSeconds : BitVec 32) :
    source.set utcSeconds = (false, source) ∨
      (source.set utcSeconds).1 = true ∧ source.activity = .idle ∧ source.rtc.busy = false ∧
        (source.set utcSeconds).2.core = source.core.wrote utcSeconds := by
  rw [set]
  by_cases active : source.activity ≠ .idle
  · exact .inl (if_pos active)
  · rw [if_neg active, Pcf8563.write]
    by_cases busy : source.rtc.busy = true
    · have refused : source.rtc.writeTime utcSeconds 0 .writing = (false, source.rtc) := by
        rw [Pcf8563.writeTime, busy]
        rfl
      rw [refused]
      exact .inl rfl
    · have free := Bool.eq_false_iff.mpr busy
      rcases writeTime_core sound free utcSeconds 0 .writing with refused | ⟨accepted, asked⟩
      · rw [refused]
        exact .inl rfl
      · dsimp only
        rw [if_pos accepted]
        refine .inr ⟨rfl, not_not.mp active, free, ?_⟩
        rw [RtcCore.wrote, ← asked]
        rfl

/-! ## The driver's service -/

/-- What a result says of the chip. -/
theorem answered_flags (driver : Pcf8563) (result : I2cResult) (nowMs : BitVec 32) :
    ∃ present calendarValid timeValid, (result = .ok →
        present = true ∧ calendarValid = driver.status.calendarValid ∧
          timeValid = driver.status.timeValid) ∧
      driver.answered result nowMs =
        { driver with
          lastAttemptMs := nowMs
          status :=
            { driver.status with
              present := present, calendarValid := calendarValid, timeValid := timeValid } } := by
  by_cases ok : result = .ok
  · rw [ok]
    exact ⟨true, _, _, fun _ => ⟨rfl, rfl, rfl⟩, rfl⟩
  · cases result with
    | nackAddress => exact ⟨false, false, false, fun same => absurd same ok, rfl⟩
    | nackData => exact ⟨true, _, _, fun same => absurd same ok, rfl⟩
    | ok => exact absurd rfl ok
    | idle => exact ⟨_, _, _, fun same => absurd same ok, rfl⟩
    | queued => exact ⟨_, _, _, fun same => absurd same ok, rfl⟩
    | busy => exact ⟨_, _, _, fun same => absurd same ok, rfl⟩
    | busError => exact ⟨_, _, _, fun same => absurd same ok, rfl⟩
    | timeout => exact ⟨_, _, _, fun same => absurd same ok, rfl⟩

theorem finishRequest_core (sound : source.Sound stopped) (nowMs : BitVec 32) :
    source.core.Finishes
      (core { source with rtc := (source.rtc.finishRequest nowMs).2 }) := by
  rcases Pcf8563.finishRequest_cases source.rtc nowMs with same | ⟨transfer, waits, ended, taken⟩
  · rw [same]
    exact .rests
  · obtain ⟨present, calendarValid, timeValid, well, answered⟩ :=
      answered_flags source.rtc (source.rtc.transfers transfer).result nowMs
    have cases := Pcf8563.finish_cases sound.driver.settled waits ended nowMs
    rw [taken]
    dsimp only at cases
    rw [answered] at cases
    rcases cases with
      ⟨bad, finished⟩ | ⟨ok, ⟨request, finished⟩ | ⟨request, finished⟩ | ⟨request, finished⟩ |
        ⟨request, finished⟩⟩
    · rw [finished]
      exact .failed waits bad present calendarValid timeValid
    all_goals
      obtain ⟨rfl, rfl, rfl⟩ := well ok
      rw [request] at waits
      cases waits
      rw [finished]
    · exact .loaded request ok
    · exact .released request ok
    · exact .written request ok
    · exact .read request ok

theorem service_core (sound : source.Sound stopped) (nowMs : BitVec 32) :
    source.core.Serves (core { source with rtc := (source.rtc.service nowMs).2 }) := by
  have finished := finishRequest_core sound nowMs
  have auto : (source.rtc.finishRequest nowMs).2.autoRead = (source.activity == .idle) := by
    rcases Pcf8563.finishRequest_cases source.rtc nowMs with same | ⟨transfer, waits, ended, taken⟩
    · rw [same]
      exact sound.autoRead
    · rw [taken]
      exact (Pcf8563.finish_autoRead sound.driver.settled waits ended nowMs).trans sound.autoRead
  have settled : (source.rtc.finishRequest nowMs).2.Settled := by
    rcases Pcf8563.finishRequest_cases source.rtc nowMs with same | ⟨transfer, waits, ended, taken⟩
    · rw [same]
      exact sound.driver.settled
    · rw [taken]
      exact (Pcf8563.finish_faithful sound.driver waits ended nowMs).settled
  rw [Pcf8563.service]
  dsimp only [Pcf8563.periodicRead]
  split
  · next due =>
      obtain ⟨free, _⟩ := Bool.and_eq_true_iff.mp due
      obtain ⟨reads, unbusy⟩ := Bool.and_eq_true_iff.mp free
      have unbusy := Bool.not_eq_true' _ ▸ unbusy
      have idle : source.activity = .idle := eq_of_beq (auto.symm.trans reads)
      have asked : (Pcf8563.read { (source.rtc.finishRequest nowMs).2 with
          lastAttemptMs := nowMs }) = _ :=
        (Pcf8563.read_accepted (show Pcf8563.Settled
          { (source.rtc.finishRequest nowMs).2 with lastAttemptMs := nowMs } from settled) unbusy).1
      rw [asked, Pcf8563.start_accepted (show Pcf8563.Settled
        { (source.rtc.finishRequest nowMs).2 with lastAttemptMs := nowMs } from settled) unbusy]
      exact .reads finished idle (Pcf8563.waitsFor_of_free unbusy)
  · exact .finishes finished

/-! ## The second counted on -/

theorem countOn_second (source : SourceRtc) (epochCapture : BitVec 32) (steps : Nat) :
    ∃ second, source.countOn epochCapture steps = { source with second := second } := by
  induction steps generalizing source with
  | zero => exact ⟨_, rfl⟩
  | succ steps ih =>
      rw [countOn]
      split
      · exact ⟨_, rfl⟩
      · next counted counts =>
          obtain ⟨second, onward⟩ := ih counted
          rw [countOne] at counts
          dsimp only at counts
          split at counts
          · cases counts
          · cases counts
            exact ⟨second, onward⟩

/-- A report changes nothing but the second counted on. -/
theorem report_second (source : SourceRtc) (snapshot : TimingSnapshot) :
    ∃ second, (source.report snapshot).2 = { source with second := second } := by
  have counted := countOn_second source snapshot.epochCapture 4
  rw [report]
  dsimp only
  split
  · split <;> exact ⟨_, rfl⟩
  · split <;> exact counted

end SourceRtc

end GpsClock.Rtc
