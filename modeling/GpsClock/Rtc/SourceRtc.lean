import GpsClock.Rtc.Pcf8563
import GpsClock.Sync.Synchroniser

/-! # The RTC as a time source, and keeping it set

`source_rtc.c`: the chip's second is searched for by reading it over and over, counted on
at the rate learnt, predicted against UTC from an anchor, and set by a write loaded
stopped and released at its moment. The driver is part of the state: what the source
asks of it, it asks here.
-/

namespace GpsClock.Rtc

open GpsClock.Platform GpsClock.Sync GpsClock.Timing

/-! ## Numbers -/

/-- `SECOND_TICKS`. -/
def secondTicks : BitVec 32 := 40000000

/-- `START_DELAY_TICKS`. -/
def startDelayTicks : Int := 19687500

/-- `TICKS_PER_MS`. -/
def ticksPerMs : Int := 40000

/-- `NS_PER_TICK`. -/
def nsPerTick : Int := 25

/-- `NS_PER_SECOND`. -/
def nsPerSecond : Int := 1000000000

/-- `SOURCE_RTC_UNCERTAINTY_NS`. -/
def sourceRtcUncertaintyNs : Nat := 999000000

/-- `SOURCE_RTC_ALLOWANCE_PPM`. -/
def sourceRtcAllowancePpm : Nat := 10

/-- `SOURCE_RTC_BOUND_MAX_NS`. -/
def sourceRtcBoundMaxNs : Nat := 0xFFFFFFFE

/-- `SOURCE_RTC_SEARCH_RESOLUTION_TICKS`. -/
def sourceRtcSearchResolutionTicks : BitVec 32 := 80000

/-- `SOURCE_RTC_SEARCH_EPOCHS`. -/
def sourceRtcSearchEpochs : BitVec 32 := 4

/-- `SOURCE_RTC_READ_LATCH_TICKS`. -/
def sourceRtcReadLatchTicks : BitVec 32 := 1000

/-- `SOURCE_RTC_CHECK_EPOCHS`. -/
def sourceRtcCheckEpochs : Nat := 21600

/-- `SOURCE_RTC_CHECK_MIN_EPOCHS`. -/
def sourceRtcCheckMinEpochs : Nat := 600

/-- `SOURCE_RTC_DRIFT_LIMIT_MS`. -/
def sourceRtcDriftLimitMs : Nat := 500

/-- `SOURCE_RTC_RATE_MIN_SECONDS`. -/
def sourceRtcRateMinSeconds : Nat := 300

/-- `SOURCE_RTC_RATE_EPOCHS`. -/
def sourceRtcRateEpochs : BitVec 32 := 600

/-- `SOURCE_RTC_RATE_LIMIT_PPM`. -/
def sourceRtcRateLimitPpm : Nat := 500

/-- `SOURCE_RTC_SECOND_MAX_AGE_EPOCHS`. -/
def sourceRtcSecondMaxAgeEpochs : BitVec 32 := 25200

/-- `SOURCE_RTC_SETTLE_EPOCHS`. -/
def sourceRtcSettleEpochs : BitVec 32 := 60

/-- `SOURCE_RTC_RETRY_EPOCHS`. -/
def sourceRtcRetryEpochs : BitVec 32 := 60

/-- `SOURCE_RTC_RESYNC_MS`. -/
def sourceRtcResyncMs : Int := 10

/-- `SOURCE_RTC_SYNC_ATTEMPTS`. -/
def sourceRtcSyncAttempts : BitVec 8 := 3

/-- `SOURCE_RTC_ALIGN_TOLERANCE_TICKS`. -/
def sourceRtcAlignToleranceTicks : Int := 80000

/-- `SOURCE_RTC_RELEASE_LATENCY_TICKS`. -/
def sourceRtcReleaseLatencyTicks : Int := 2800

/-- `SOURCE_RTC_RELEASE_EARLIEST_TICKS`. -/
def sourceRtcReleaseEarliestTicks : Int := 2000000

/-- `SOURCE_RTC_SPIN_TICKS`. -/
def sourceRtcSpinTicks : Int := 80000

/-- `SOURCE_RTC_LATE_TICKS`. -/
def sourceRtcLateTicks : Int := 4000

/-- `SOURCE_RTC_CORRECTION_LIMIT_TICKS`. -/
def sourceRtcCorrectionLimitTicks : Int := 24000000

/-- `OFFSET_LIMIT_S`. -/
def offsetLimitS : Int := 2000000

/-- The limit of a rate, Q8 ticks a second. -/
def rateLimitQ8 : Int := sourceRtcRateLimitPpm * 40 * 256

/-- `floor_div`, `floor_div64`. -/
def floorDiv (a b : Int) : Int :=
  if 0 ≤ a then a.tdiv b else -((-a + b - 1).tdiv b)

/-- `saturate_bound`. -/
def saturateBound (ns : Nat) : Nat :=
  if sourceRtcBoundMaxNs < ns then sourceRtcBoundMaxNs else ns

/-- `clamp_correction`. -/
def clampCorrection (ticks : Int) : Int :=
  if sourceRtcCorrectionLimitTicks < ticks then sourceRtcCorrectionLimitTicks
  else if ticks < -sourceRtcCorrectionLimitTicks then -sourceRtcCorrectionLimitTicks
  else ticks

/-! ## State -/

inductive SourceRtcActivity
  | idle
  | searching
  | loading
  | waiting
  | releasing
  | confirming
  deriving DecidableEq, Repr

inductive SearchPurpose
  | measure
  | check
  | confirm
  deriving DecidableEq, Repr

/-- The RTC's second against UTC, measured or set. -/
structure SourceRtcAnchor where
  valid : Bool := false
  aligned : Bool := false
  utcSeconds : BitVec 32 := 0
  offsetNs : Int := 0
  boundNs : Nat := 0
  deriving DecidableEq, Repr

/-- The RTC's second, as last found and counted on since. -/
structure RtcSecond where
  valid : Bool := false
  stamp : BitVec 32 := 0
  label : BitVec 32 := 0
  edges : BitVec 32 := 0
  measuredEpoch : BitVec 32 := 0
  resolutionTicks : BitVec 32 := 0
  fractionQ8 : Int := 0
  deriving DecidableEq, Repr

/-- Its rate, and the baseline it is learnt from. -/
structure RtcRate where
  valid : Bool := false
  q8 : Int := 0
  baselineValid : Bool := false
  baselineStamp : BitVec 32 := 0
  baselineLabel : BitVec 32 := 0
  deriving DecidableEq, Repr

structure RtcLastWrite where
  valid : Bool := false
  aligned : Bool := false
  errorTicks : Int := 0
  utc : BitVec 32 := 0
  epoch : BitVec 32 := 0
  deriving DecidableEq, Repr

/-- A search. -/
structure RtcSearch where
  purpose : SearchPurpose := .measure
  deadline : BitVec 32 := 0
  sampleValid : Bool := false
  sampleUtc : BitVec 32 := 0
  sampleStamp : BitVec 32 := 0
  readsSeen : BitVec 32 := 0
  done : Bool := false
  found : Bool := false
  searches : BitVec 32 := 0
  deriving DecidableEq, Repr

/-- An aligned write. -/
structure RtcWrite where
  wanted : Bool := false
  plainWanted : Bool := false
  releaseTarget : BitVec 32 := 0
  expectStamp : BitVec 32 := 0
  expectLabel : BitVec 32 := 0
  writesSeen : BitVec 32 := 0
  releasesSeen : BitVec 32 := 0
  attempts : BitVec 8 := 0
  correctionTicks : Int := 0
  deriving DecidableEq, Repr

/-- When things are due, and what the last epoch knew. -/
structure RtcChecks where
  nextCheckEpoch : BitVec 32 := 0
  measureDueEpoch : BitVec 32 := 0
  rateDue : Bool := false
  rateDueEpoch : BitVec 32 := 0
  wasSynchronised : Bool := false
  correctionsSeen : BitVec 32 := 0
  deriving DecidableEq, Repr

/-- Our latest epoch. -/
structure OurEpoch where
  sequence : BitVec 32 := 0
  valid : Bool := false
  stamp : BitVec 32 := 0
  deriving DecidableEq, Repr

/-- `SourceRtcState` and the statics of `source_rtc.c`, over the driver. -/
structure SourceRtc where
  activity : SourceRtcActivity := .idle
  activityEpoch : BitVec 32 := 0
  second : RtcSecond := {}
  rate : RtcRate := {}
  oscillatorQ16 : Int := 0
  offsetMs : Option Int := none
  anchor : SourceRtcAnchor := {}
  lastWrite : RtcLastWrite := {}
  search : RtcSearch := {}
  write : RtcWrite := {}
  checks : RtcChecks := {}
  ourEpoch : OurEpoch := {}
  stoppedReleased : Bool := false
  rtc : Pcf8563 := {}

/-- `SourceRtcKept`. -/
structure SourceRtcKept where
  anchor : SourceRtcAnchor := {}
  rateValid : Bool := false
  rateQ8 : Int := 0
  lastWriteValid : Bool := false
  lastWriteAligned : Bool := false
  lastWriteUtc : BitVec 32 := 0
  deriving DecidableEq, Repr

namespace SourceRtc

/-! ## Helpers -/

/-- `epoch_reached`. -/
def epochReached (source : SourceRtc) (epoch : BitVec 32) : Bool :=
  decide (0 ≤ (source.ourEpoch.sequence - epoch).toInt)

/-- `check_by`. -/
def checkBy (source : SourceRtc) (epoch : BitVec 32) : SourceRtc :=
  if (epoch - source.checks.nextCheckEpoch).toInt < 0 then
    { source with checks := { source.checks with nextCheckEpoch := epoch } }
  else source

/-- `writing`. -/
def writing (source : SourceRtc) : Bool :=
  match source.activity with
  | .loading | .waiting | .releasing | .confirming => true
  | .idle | .searching => false

/-- `set_activity`: the periodic reads would only get in the way. -/
def setActivity (source : SourceRtc) (activity : SourceRtcActivity) : SourceRtc :=
  { source with
    activity := activity
    activityEpoch := source.ourEpoch.sequence
    rtc := source.rtc.setAutoRead (activity == .idle) }

/-- `next_second`: its length, and the fraction left. -/
def nextSecond (source : SourceRtc) : BitVec 32 × Int :=
  let q := source.second.fractionQ8 + source.rate.q8
  let whole := floorDiv q 256
  (secondTicks + BitVec.ofInt 32 whole, q - whole * 256)

/-- `learn_rate`. -/
def learnRate (source : SourceRtc) (stamp label : BitVec 32) : SourceRtc :=
  let rate := source.rate
  let seconds := (label - rate.baselineLabel).toNat
  if !rate.baselineValid || decide (seconds < sourceRtcRateMinSeconds ∨ 200000 < seconds) then source
  else
    let predicted :=
      rate.baselineStamp + BitVec.ofNat 32 seconds * secondTicks +
        BitVec.ofInt 32 ((seconds * rate.q8).tdiv 256)
    let error := (stamp - predicted).toInt
    let learnt := rate.q8 + (error * 256).tdiv seconds
    if rateLimitQ8 < learnt ∨ learnt < -rateLimitQ8 then source
    else { source with rate := { rate with q8 := learnt, valid := true } }

/-- `source_rtc_check_interval`. -/
def checkInterval (source : SourceRtc) : BitVec 32 :=
  let ticksPerSecond := source.rate.q8.natAbs / 256
  if !source.rate.valid || ticksPerSecond == 0 then BitVec.ofNat 32 sourceRtcCheckEpochs
  else
    let seconds := sourceRtcDriftLimitMs * ticksPerMs.toNat / ticksPerSecond
    if sourceRtcCheckEpochs < seconds then BitVec.ofNat 32 sourceRtcCheckEpochs
    else if seconds < sourceRtcCheckMinEpochs then BitVec.ofNat 32 sourceRtcCheckMinEpochs
    else BitVec.ofNat 32 seconds

/-- `rtc_changed`. -/
def rtcChanged (source : SourceRtc) : SourceRtc :=
  { source with anchor := { source.anchor with valid := false } }

/-- `wrote_plainly`: where its second starts is not known. -/
def wrotePlainly (source : SourceRtc) (utcSeconds : BitVec 32) : SourceRtc :=
  { source with
    anchor :=
      { valid := true
        aligned := false
        utcSeconds := utcSeconds
        offsetNs := 0
        boundNs := sourceRtcUncertaintyNs }
    lastWrite :=
      { source.lastWrite with
        valid := true
        aligned := false
        utc := utcSeconds
        epoch := source.ourEpoch.sequence } }

/-- `anchor_found`: to within the clock's bound and half the search's resolution. -/
def anchorFound (source : SourceRtc) (time : SyncTime) (clockBoundNs : Nat) : SourceRtc :=
  if !source.ourEpoch.valid || clockBoundNs == syncBoundNone then source
  else
    { source with
      anchor :=
        { valid := true
          aligned := true
          utcSeconds := source.second.label
          offsetNs :=
            (time.utcSeconds - source.second.label).toInt * nsPerSecond +
              (source.second.stamp - source.ourEpoch.stamp).toInt * nsPerTick
          boundNs :=
            saturateBound
              (clockBoundNs + source.second.resolutionTicks.toNat * nsPerTick.toNat / 2) } }

/-- `predict`: where its second of that label starts minus UTC's, and the bound. -/
def predict (source : SourceRtc) (label : BitVec 32) : Option (Int × Nat) :=
  let elapsed := (label - source.anchor.utcSeconds).toInt
  let allowance := if source.rate.valid then sourceRtcAllowancePpm else sourceRtcRateLimitPpm
  if !source.anchor.valid || decide (elapsed < 0) then none
  else
    let drift :=
      if source.rate.valid then
        -- Its second less the nominal, less ours less the nominal.
        let rateQ8 := source.rate.q8 - source.oscillatorQ16.tdiv 256
        (elapsed * rateQ8 * nsPerTick).tdiv 256
      else 0
    some
      (source.anchor.offsetNs + drift,
        saturateBound (source.anchor.boundNs + elapsed.toNat * allowance * 1000))

/-- `current_label`: as counted, else as read. -/
def currentLabel (source : SourceRtc) : Option (BitVec 32) :=
  if !source.rtc.status.timeValid then none
  else some (if source.second.valid then source.second.label else source.rtc.status.utcSeconds)

/-- `bound_at`. -/
def boundAt (source : SourceRtc) (label : BitVec 32) : Nat :=
  match source.predict label with
  | none => sourceRtcUncertaintyNs
  | some (_, boundNs) =>
      if source.second.valid then
        saturateBound (boundNs + source.second.resolutionTicks.toNat * nsPerTick.toNat / 2)
      else boundNs

/-! ## Searching for the RTC's second -/

/-- `start_search`. -/
def startSearch (source : SourceRtc) (why : SearchPurpose) (epochs : BitVec 32) : SourceRtc :=
  let source :=
    { source with
      search :=
        { source.search with
          purpose := why
          deadline := source.ourEpoch.sequence + epochs
          sampleValid := false
          readsSeen := source.rtc.status.reads
          done := false
          searches := source.search.searches + 1 } }
  let source := source.setActivity (if why = .confirm then .confirming else .searching)
  { source with rtc := source.rtc.read.2 }

/-- `end_search`. -/
def endSearch (source : SourceRtc) (found : Bool) : SourceRtc :=
  setActivity { source with search := { source.search with done := true, found := found } } .idle

/-- `found`, the increments counted from the second it replaces. -/
def edgesFound (source : SourceRtc) (stamp : BitVec 32) : BitVec 32 :=
  if source.second.valid then
    let apart := (stamp - source.second.stamp).toInt
    let seconds := (apart + 20000000).tdiv 40000000
    source.second.edges + BitVec.ofInt 32 (if 0 < seconds then seconds else 0)
  else source.second.edges + 1

/-- `found`: the increment lies between the last read before it and the first after. -/
def foundAt (source : SourceRtc) (stamp label resolution : BitVec 32) : SourceRtc :=
  let edges := source.edgesFound stamp
  let source := if source.search.purpose ≠ .confirm then source.learnRate stamp label else source
  endSearch
    { source with
      rate :=
        { source.rate with baselineValid := true, baselineStamp := stamp, baselineLabel := label }
      second :=
        { valid := true
          stamp := stamp
          label := label
          edges := edges
          measuredEpoch := source.ourEpoch.sequence
          resolutionTicks := resolution
          fractionQ8 := 0 } }
    true

/-- `take_sample`, the read kept to bracket the increment. -/
def keepSample (source : SourceRtc) : SourceRtc :=
  { source with
    search :=
      { source.search with
        sampleValid := true
        sampleUtc := source.rtc.status.utcSeconds
        sampleStamp := source.rtc.status.readStamp } }

/-- `take_sample`. -/
def takeSample (source : SourceRtc) : SourceRtc :=
  let rtc := source.rtc.status
  if !rtc.calendarValid || rtc.stopped then
    { source with search := { source.search with sampleValid := false } }
  else
    let gap := rtc.readStamp - source.search.sampleStamp
    if source.search.sampleValid && rtc.utcSeconds == source.search.sampleUtc + 1 &&
        decide (gap ≤ sourceRtcSearchResolutionTicks) then
      source.foundAt (source.search.sampleStamp + gap / 2 + sourceRtcReadLatchTicks) rtc.utcSeconds gap
    else source.keepSample

/-- `keep_searching`, the reads that finished. -/
def takeReads (source : SourceRtc) : SourceRtc :=
  if source.rtc.status.reads ≠ source.search.readsSeen then
    takeSample
      { source with search := { source.search with readsSeen := source.rtc.status.reads } }
  else source

/-- `keep_searching`, the next read. -/
def readOn (source : SourceRtc) : SourceRtc :=
  if source.rtc.busy then source
  else if !source.rtc.status.present then source.endSearch false
  else { source with rtc := source.rtc.read.2 }

/-- `keep_searching`. -/
def keepSearching (source : SourceRtc) : SourceRtc :=
  let source := source.takeReads
  match source.activity with
  | .searching | .confirming => source.readOn
  | _ => source

/-! ## Aligned writing -/

/-- `abort_write` and `confirmed`, an attempt that missed: another, or written plainly. -/
def abortWrite (source : SourceRtc) : SourceRtc :=
  let attempts := source.write.attempts + 1
  let source :=
    setActivity { source with write := { source.write with attempts := attempts } } .idle
  if attempts < sourceRtcSyncAttempts then
    { source with write := { source.write with wanted := true } }
  else { source with write := { source.write with plainWanted := true } }

/-- `begin_write`, the delay allowed for. -/
def releaseDelay (source : SourceRtc) : Int :=
  startDelayTicks + source.write.correctionTicks + sourceRtcReleaseLatencyTicks

/-- `begin_write`, its loop: the least whole seconds, from one, that leave room for the load. -/
def leadSeconds (delay : Int) : Nat :=
  (max 1 ((delay + sourceRtcReleaseEarliestTicks + 39999999) / 40000000)).toNat

/-- The RTC cannot hold a leap second: whether one falls within the write. -/
def acrossLeap (time : SyncTime) (n : Nat) : Bool :=
  time.leap.change ≠ 0 && decide (time.utcSeconds < time.leap.eventUtc) &&
    decide (time.leap.eventUtc - time.utcSeconds ≤ BitVec.ofNat 32 (n + 1))

/-- `begin_write`, what is planned before the load. -/
def planWrite (source : SourceRtc) (time : SyncTime) (n : Nat) : SourceRtc :=
  let landing := source.ourEpoch.stamp + BitVec.ofNat 32 n * secondTicks
  let source :=
    rtcChanged
      { source with
        rate := { source.rate with baselineValid := false }
        write :=
          { source.write with
            wanted := false
            releaseTarget := landing - BitVec.ofInt 32 source.releaseDelay
            expectStamp := landing
            expectLabel := time.utcSeconds + BitVec.ofNat 32 n
            writesSeen := source.rtc.status.writes } }
  source.setActivity .loading

/-- `begin_write`. -/
def beginWrite (source : SourceRtc) (time : SyncTime) : SourceRtc :=
  let n := leadSeconds source.releaseDelay
  if acrossLeap time n then { source with write := { source.write with wanted := true } }
  else
    let source := source.planWrite time n
    let asked := source.rtc.writeStopped (source.write.expectLabel - 1)
    let source := { source with rtc := asked.2 }
    if asked.1 then source else source.abortWrite

/-- `wait_release`: `timebase` as it is read, then spun for. -/
def waitRelease (source : SourceRtc) (timebase : BitVec 32) : SourceRtc :=
  let remaining := (source.write.releaseTarget - timebase).toInt
  if sourceRtcSpinTicks < remaining then source
  else if remaining < -sourceRtcLateTicks then source.abortWrite
  else
    let asked := source.rtc.release
    let source :=
      { source with
        write := { source.write with releasesSeen := source.rtc.status.releases }
        rtc := asked.2 }
    if asked.1 then source.setActivity .releasing else source.abortWrite

/-! ## Results, at the epoch -/

/-- `measure_offset`: RTC minus our clock at the RTC's latest increment. -/
def measureOffset (source : SourceRtc) (time : SyncTime) : SourceRtc :=
  if !time.known || !source.ourEpoch.valid || !source.second.valid then
    { source with offsetMs := none }
  else
    let seconds := (source.second.label - time.utcSeconds).toInt
    let deltaMs := (source.second.stamp - source.ourEpoch.stamp).toInt.tdiv ticksPerMs
    let offsetMs :=
      if offsetLimitS < seconds then offsetLimitS * 1000
      else if seconds < -offsetLimitS then -offsetLimitS * 1000
      else seconds * 1000 - deltaMs
    { source with offsetMs := some offsetMs }

/-- `confirmed`, an aligned write that landed within tolerance. -/
def landed (source : SourceRtc) : SourceRtc :=
  { source with
    write := { source.write with attempts := 0 }
    lastWrite :=
      { source.lastWrite with
        valid := true
        aligned := true
        utc := source.write.expectLabel
        epoch := source.ourEpoch.sequence }
    checks :=
      { source.checks with
        nextCheckEpoch := source.ourEpoch.sequence + source.checkInterval
        rateDue := true
        rateDueEpoch := source.ourEpoch.sequence + sourceRtcRateEpochs } }

/-- `confirmed`, one that did not. -/
def missed (source : SourceRtc) (labelOk : Bool) : SourceRtc :=
  let attempts := source.write.attempts + 1
  let source := { source with write := { source.write with attempts := attempts } }
  if attempts < sourceRtcSyncAttempts then
    { source with write := { source.write with wanted := true } }
  else if !labelOk then { source with write := { source.write with plainWanted := true } }
  else
    { source with
      write := { source.write with attempts := 0 }
      checks :=
        { source.checks with
          nextCheckEpoch := source.ourEpoch.sequence + source.checkInterval } }

/-- `confirmed`. -/
def confirmed (source : SourceRtc) : SourceRtc :=
  let error := (source.second.stamp - source.write.expectStamp).toInt
  let labelOk := source.second.label == source.write.expectLabel
  let within :=
    decide (error ≤ sourceRtcAlignToleranceTicks ∧ -sourceRtcAlignToleranceTicks ≤ error)
  -- All of a miss, half of what is left within tolerance.
  let source :=
    if labelOk then
      { source with
        write :=
          { source.write with
            correctionTicks :=
              clampCorrection
                (source.write.correctionTicks + (if within then error.tdiv 2 else error)) }
        lastWrite := { source.lastWrite with errorTicks := error } }
    else source
  if labelOk && within then source.landed else source.missed labelOk

/-- `search_result`, a search that found nothing. -/
def notFound (source : SourceRtc) : SourceRtc :=
  match source.search.purpose with
  | .confirm => source.abortWrite
  | purpose =>
      let retry := source.ourEpoch.sequence + sourceRtcRetryEpochs
      { source with
        checks :=
          { source.checks with
            measureDueEpoch := retry
            nextCheckEpoch :=
              if purpose = .check then retry else source.checks.nextCheckEpoch } }

/-- `search_result`, a check: whether the RTC is far enough out to be set. -/
def compared (source : SourceRtc) (synchronised : Bool) : SourceRtc :=
  let source :=
    { source with
      checks :=
        { source.checks with
          nextCheckEpoch := source.ourEpoch.sequence + source.checkInterval } }
  match source.offsetMs with
  | none => source
  | some offsetMs =>
      if synchronised &&
          (!source.rtc.status.timeValid ||
            decide (sourceRtcResyncMs < offsetMs ∨ offsetMs < -sourceRtcResyncMs)) then
        { source with write := { source.write with attempts := 0, wanted := true } }
      else source

/-- `search_result`, by what the search was for. -/
def useResult (source : SourceRtc) (synchronised : Bool) : SourceRtc :=
  match source.search.purpose with
  | .confirm => source.confirmed
  | .check => source.compared synchronised
  | .measure =>
      if source.rate.valid && source.lastWrite.valid then
        source.checkBy (source.lastWrite.epoch + source.checkInterval)
      else source

/-- `search_result`, taken up. -/
def undone (source : SourceRtc) : SourceRtc :=
  { source with search := { source.search with done := false } }

/-- `search_result`, where the second found lies against our clock. -/
def measured (source : SourceRtc) (time : SyncTime) (synchronised : Bool)
    (clockBoundNs : Nat) : SourceRtc :=
  let source := source.measureOffset time
  if synchronised then source.anchorFound time clockBoundNs else source

/-- `search_result`. -/
def searchResult (source : SourceRtc) (time : SyncTime) (synchronised : Bool)
    (clockBoundNs : Nat) : SourceRtc :=
  if !source.search.found then source.undone.notFound
  else (source.undone.measured time synchronised clockBoundNs).useResult synchronised

/-! ## The epoch -/

/-- `source_rtc_epoch`, our epoch and a second too old to report. -/
def takeEpoch (source : SourceRtc) (snapshot : TimingSnapshot) : SourceRtc :=
  { source with
    ourEpoch :=
      { sequence := snapshot.sequence
        valid := snapshot.epochCaptureValid
        stamp := snapshot.epochCapture }
    second :=
      { source.second with
        valid :=
          source.second.valid &&
            !decide
              (sourceRtcSecondMaxAgeEpochs < snapshot.sequence - source.second.measuredEpoch) } }

/-- `source_rtc_epoch`, a search that ran out of time, a write step that never finished. -/
def expire (source : SourceRtc) : SourceRtc :=
  match source.activity with
  | .searching | .confirming =>
      if source.epochReached source.search.deadline then source.endSearch false else source
  | .loading | .waiting | .releasing =>
      if source.epochReached (source.activityEpoch + 4) then source.abortWrite else source
  | .idle => source

/-- `source_rtc_epoch`, a check soon after the clock is synchronised or corrected. -/
def followClock (source : SourceRtc) (time : SyncTime) (synchronised : Bool) : SourceRtc :=
  let source :=
    if synchronised &&
        (!source.checks.wasSynchronised || time.corrections != source.checks.correctionsSeen) then
      source.checkBy (source.ourEpoch.sequence + sourceRtcSettleEpochs)
    else source
  { source with
    checks :=
      { source.checks with
        wasSynchronised := synchronised
        correctionsSeen := time.corrections } }

/-- `source_rtc_epoch`, giving up on an aligned write. -/
def writePlainly (source : SourceRtc) (time : SyncTime) (synchronised : Bool) : SourceRtc :=
  let source :=
    { source with
      write := { source.write with plainWanted := false, attempts := 0 }
      checks :=
        { source.checks with
          nextCheckEpoch := source.ourEpoch.sequence + BitVec.ofNat 32 sourceRtcCheckEpochs } }
  if !synchronised then source
  else
    let asked := source.rtc.write time.utcSeconds
    let source := { source with rtc := asked.2 }
    if asked.1 then
      { source.wrotePlainly time.utcSeconds with
        second := { source.second with valid := false }
        rate := { source.rate with baselineValid := false } }
    else source

/-- `source_rtc_epoch`, found stopped: let it run, then see whether it does. -/
def foundStopped (source : SourceRtc) : SourceRtc :=
  if !source.stoppedReleased then
    let asked := source.rtc.release
    let source :=
      { source with
        rtc := asked.2
        stoppedReleased := asked.1
        second := { source.second with valid := false } }
    if source.anchor.valid then source.rtcChanged else source
  else
    let asked := source.rtc.read
    { source with rtc := asked.2, stoppedReleased := !asked.1 }

/-- `source_rtc_epoch`, what is due. -/
def startDue (source : SourceRtc) (synchronised : Bool) : SourceRtc :=
  let timeValid := source.rtc.status.timeValid
  if synchronised && source.epochReached source.checks.nextCheckEpoch then
    if !timeValid then
      -- Nothing to measure: set it.
      { source with write := { source.write with attempts := 0, wanted := true } }
    else source.startSearch .check sourceRtcSearchEpochs
  else if source.checks.rateDue && source.epochReached source.checks.rateDueEpoch && timeValid then
    startSearch { source with checks := { source.checks with rateDue := false } } .measure
      sourceRtcSearchEpochs
  else if !source.second.valid && timeValid && source.epochReached source.checks.measureDueEpoch then
    source.startSearch .measure sourceRtcSearchEpochs
  else source

/-- `source_rtc_epoch`, idle, with the chip there and free. -/
def act (source : SourceRtc) (time : SyncTime) (synchronised : Bool) : SourceRtc :=
  if source.write.plainWanted then source.writePlainly time synchronised
  else if source.write.wanted then
    if synchronised && source.ourEpoch.valid then source.beginWrite time
    else if !synchronised then
      -- No time to give it: the next check decides.
      { source with write := { source.write with wanted := false, attempts := 0 } }
    else source
  else if source.rtc.status.calendarValid && source.rtc.status.stopped then source.foundStopped
  else source.startDue synchronised

/-- `source_rtc_epoch`, up to whether there is anything to do. -/
def settle (source : SourceRtc) (snapshot : TimingSnapshot) (time : SyncTime)
    (synchronised : Bool) (boundNs : Nat) : SourceRtc :=
  let source := (source.takeEpoch snapshot).expire
  let source :=
    if source.search.done then source.searchResult time synchronised boundNs else source
  source.followClock time synchronised

/-- Whether the source is free to act: idle, with the chip there and not in use. -/
def free (source : SourceRtc) : Bool :=
  source.activity == .idle && source.rtc.status.present && !source.rtc.busy

/-- `source_rtc_epoch`. -/
def epoch (source : SourceRtc) (snapshot : TimingSnapshot) (time : SyncTime)
    (synchronised : Bool) (boundNs : Nat) : SourceRtc :=
  let synchronised := synchronised && time.known && !time.leapSecond
  let source := source.settle snapshot time synchronised boundNs
  if source.free then source.act time synchronised else source

/-! ## The rest of the interface -/

/-- `source_rtc_poll`. -/
def poll (source : SourceRtc) (timebase : BitVec 32) : SourceRtc :=
  let rtc := source.rtc.status
  match source.activity with
  | .idle =>
      if source.search.searches == 0 && !source.second.valid && rtc.reads != 0 && rtc.timeValid &&
          !source.rtc.busy then
        source.startSearch .measure sourceRtcSearchEpochs
      else source
  | .searching | .confirming => source.keepSearching
  | .loading =>
      if source.rtc.busy then source
      else if rtc.writes ≠ source.write.writesSeen then source.setActivity .waiting
      else source.abortWrite
  | .waiting => source.waitRelease timebase
  | .releasing =>
      if source.rtc.busy then source
      else if rtc.releases ≠ source.write.releasesSeen then
        source.startSearch .confirm sourceRtcSearchEpochs
      else source.abortWrite

/-- `source_rtc_set`. -/
def set (source : SourceRtc) (utcSeconds : BitVec 32) : Bool × SourceRtc :=
  if source.activity ≠ .idle then (false, source)
  else
    let asked := source.rtc.write utcSeconds
    let source := { source with rtc := asked.2 }
    if asked.1 then
      (true,
        { source.wrotePlainly utcSeconds with
          second := { source.second with valid := false }
          rate := { source.rate with baselineValid := false }
          checks := { source.checks with measureDueEpoch := source.ourEpoch.sequence }
          write := { source.write with wanted := false, plainWanted := false } })
    else (false, source)

/-- `source_rtc_report`, one increment counted on, if it is at or before our epoch. -/
def countOne (source : SourceRtc) (epochCapture : BitVec 32) : Option SourceRtc :=
  let (length, fraction) := source.nextSecond
  if (epochCapture - (source.second.stamp + length)).toInt < 0 then none
  else
    some
      { source with
        second :=
          { source.second with
            fractionQ8 := fraction
            stamp := source.second.stamp + length
            label := source.second.label + 1
            edges := source.second.edges + 1 } }

/-- `source_rtc_report`, the increments counted on, lost track of after too many. -/
def countOn (source : SourceRtc) (epochCapture : BitVec 32) : Nat → SourceRtc
  | 0 => { source with second := { source.second with valid := false } }
  | steps + 1 =>
      match source.countOne epochCapture with
      | none => source
      | some counted => counted.countOn epochCapture steps

/-- `source_rtc_report`, its second as it stands against UTC. -/
def placed (source : SourceRtc) (report : SyncSourceReport) : SyncSourceReport :=
  let report :=
    { report with
      edge := true
      edgeSequence := source.second.edges
      edgeStamp := source.second.stamp
      labelled := true
      utcSeconds := source.second.label
      uncertaintyNs := source.boundAt source.second.label }
  match source.predict source.second.label with
  | none => report
  | some (offsetNs, _) =>
      -- The UTC second nearest its start, and how far from it.
      let seconds := floorDiv (offsetNs + nsPerSecond / 2) nsPerSecond
      { report with
        utcSeconds := source.second.label + BitVec.ofInt 32 seconds
        edgeOffsetNs := offsetNs - seconds * nsPerSecond }

/-- `source_rtc_report`. -/
def report (source : SourceRtc) (snapshot : TimingSnapshot) : SyncSourceReport × SourceRtc :=
  let report : SyncSourceReport :=
    { present := source.rtc.status.present
      timeValid := source.rtc.status.timeValid && !source.writing
      uncertaintyNs := sourceRtcUncertaintyNs }
  if !source.second.valid || !snapshot.epochCaptureValid then
    match source.currentLabel with
    | none => (report, source)
    | some label => ({ report with uncertaintyNs := source.boundAt label }, source)
  else
    let source := source.countOn snapshot.epochCapture 4
    if !source.second.valid || source.writing then (report, source)
    else (source.placed report, source)

/-- `source_rtc_bound`. -/
def bound (source : SourceRtc) : Option Nat :=
  source.currentLabel.map source.boundAt

/-- `source_rtc_init`. -/
def init (rtc : Pcf8563) : SourceRtc :=
  setActivity
    { rtc := rtc
      checks := { nextCheckEpoch := BitVec.ofNat 32 sourceRtcCheckEpochs } }
    .idle

/-- `source_rtc_set_oscillator`. -/
def setOscillator (source : SourceRtc) (offsetQ16 : Int) : SourceRtc :=
  { source with oscillatorQ16 := offsetQ16 }

/-- `source_rtc_kept`. -/
def kept (source : SourceRtc) : SourceRtcKept where
  anchor := source.anchor
  rateValid := source.rate.valid
  rateQ8 := source.rate.q8
  lastWriteValid := source.lastWrite.valid
  lastWriteAligned := source.lastWrite.aligned
  lastWriteUtc := source.lastWrite.utc

/-- `source_rtc_restore`. -/
def restore (source : SourceRtc) (kept : SourceRtcKept) : SourceRtc :=
  let rateValid :=
    kept.rateValid && decide (kept.rateQ8 ≤ rateLimitQ8 ∧ -rateLimitQ8 ≤ kept.rateQ8)
  { source with
    anchor := kept.anchor
    rate :=
      { source.rate with
        valid := rateValid
        q8 := if rateValid then kept.rateQ8 else 0 }
    lastWrite :=
      { source.lastWrite with
        valid := kept.lastWriteValid
        aligned := kept.lastWriteAligned
        utc := kept.lastWriteUtc } }

end SourceRtc

end GpsClock.Rtc
