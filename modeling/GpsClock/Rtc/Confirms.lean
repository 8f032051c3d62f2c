import GpsClock.Rtc.InHand

/-! # An aligned write that lands

The confirming search finds the second an aligned write started, and the next epoch compares
it with the one expected. The report before that epoch counts the found second on, so the
write is confirmed exactly where the second after it starts past our epoch
(`GpsClock.Rtc.Attempt.confirmed_iff`). What is learnt from one attempt brings the next
within tolerance under the same condition.
-/

namespace GpsClock.Rtc

open GpsClock.Platform GpsClock.Sync GpsClock.Timing

namespace SourceRtc

variable {source : SourceRtc}

/-! ## Found, and counted on -/

/-- The second a confirming search found, not acted on yet. -/
structure FoundFor (source : SourceRtc) (write : RtcWrite) (rateQ8 : Int)
    (stamp label : BitVec 32) : Prop where
  idle : source.activity = .idle
  done : source.search.done = true
  found : source.search.found = true
  purpose : source.search.purpose = .confirm
  valid : source.second.valid = true
  stamp : source.second.stamp = stamp
  label : source.second.label = label
  fraction : source.second.fractionQ8 = 0
  rate : source.rate.q8 = rateQ8
  write : source.write = write

/-- The poll that finds it. -/
theorem poll_found (confirming : source.activity = .confirming)
    (purpose : source.search.purpose = .confirm) (brackets : source.core.Brackets)
    (timebase : BitVec 32) :
    (source.poll timebase).FoundFor source.write source.rate.q8 source.core.between
      source.rtc.status.utcSeconds := by
  have found : source.takeReads.FoundFor source.write source.rate.q8 source.core.between
      source.rtc.status.utcSeconds := by
    rw [takeReads_found brackets, foundAt]
    dsimp only
    rw [if_neg (not_not.mpr purpose)]
    exact ⟨rfl, rfl, rfl, purpose, rfl, rfl, rfl, rfl, rfl, rfl⟩
  have ended : source.poll timebase = source.takeReads := by
    rw [poll, confirming]
    dsimp only
    rw [keepSearching, found.idle]
  rw [ended]
  exact found

theorem countOn_first {epochCapture : BitVec 32} (later : source.countOne epochCapture = none)
    (steps : Nat) : source.countOn epochCapture (steps + 1) = source := by
  rw [countOn, later]

/-- Each increment counted is a second more. -/
theorem countOn_label (source : SourceRtc) (epochCapture : BitVec 32) (steps : Nat) :
    ∃ counted ≤ steps, (source.countOn epochCapture steps).second.label =
        source.second.label + BitVec.ofNat 32 counted ∧
      (source.countOne epochCapture ≠ none → 0 < steps → 0 < counted) := by
  induction steps generalizing source with
  | zero => exact ⟨0, Nat.le_refl _, (BitVec.add_zero _).symm, fun _ wrong => wrong⟩
  | succ steps ih =>
      cases counts : source.countOne epochCapture with
      | none =>
          rw [countOn_first counts]
          exact ⟨0, Nat.zero_le _, (BitVec.add_zero _).symm, fun wrong => absurd rfl wrong⟩
      | some counted =>
          obtain ⟨more, few, label, -⟩ := ih counted
          have next : counted.second.label = source.second.label + 1 := by
            rw [countOne] at counts
            dsimp only at counts
            split at counts
            · cases counts
            · cases counts
              rfl
          refine ⟨more + 1, Nat.succ_le_succ few, ?_, fun _ _ => Nat.succ_pos _⟩
          rw [countOn, counts]
          dsimp only
          rw [label, next, BitVec.ofNat_add, BitVec.add_assoc, BitVec.add_comm 1]
          rfl

/-- Whether the increment after the found one is still to come at an epoch, so that the report
before it counts nothing on. -/
def StillLatest (snapshot : TimingSnapshot) (stamp : BitVec 32) (rateQ8 : Int) : Prop :=
  snapshot.epochCaptureValid = false ∨
    (snapshot.epochCapture - (stamp + (secondTicks + BitVec.ofInt 32 (floorDiv rateQ8 256)))).toInt < 0

instance (snapshot : TimingSnapshot) (stamp : BitVec 32) (rateQ8 : Int) :
    Decidable (StillLatest snapshot stamp rateQ8) :=
  inferInstanceAs (Decidable (_ ∨ _))

variable {write : RtcWrite} {rateQ8 : Int} {stamp label : BitVec 32}

theorem FoundFor.countOne (found : source.FoundFor write rateQ8 stamp label)
    (epochCapture : BitVec 32) :
    source.countOne epochCapture = none ↔
      (epochCapture - (stamp + (secondTicks + BitVec.ofInt 32 (floorDiv rateQ8 256)))).toInt < 0 := by
  rw [SourceRtc.countOne, nextSecond, found.fraction, found.rate, found.stamp, zero_add]
  dsimp only
  split
  · next later => exact iff_of_true rfl later
  · next later => exact iff_of_false (fun wrong => by cases wrong) later

/-- The report leaves the found second where it is, or moves its label on. -/
theorem FoundFor.report (found : source.FoundFor write rateQ8 stamp label)
    (snapshot : TimingSnapshot) :
    StillLatest snapshot stamp rateQ8 ∧ (source.report snapshot).2 = source ∨
      ¬StillLatest snapshot stamp rateQ8 ∧
        ∃ second, (source.report snapshot).2 = { source with second := second } ∧
          second.label ≠ label := by
  have reports : snapshot.epochCaptureValid = true →
      (source.report snapshot).2 = source.countOn snapshot.epochCapture 4 := by
    intro captured
    rw [SourceRtc.report, found.valid, captured]
    dsimp only
    rw [Bool.not_true, Bool.or_false, if_neg Bool.false_ne_true]
    split <;> rfl
  by_cases still : StillLatest snapshot stamp rateQ8
  · refine .inl ⟨still, ?_⟩
    cases captured : snapshot.epochCaptureValid with
    | false =>
        rw [SourceRtc.report, captured, Bool.not_false, Bool.or_true]
        dsimp only
        rw [if_pos rfl]
        split <;> rfl
    | true =>
        have later := still.resolve_left fun wrong =>
          Bool.false_ne_true (wrong.symm.trans captured)
        rw [reports captured]
        exact countOn_first ((found.countOne _).mpr later) 3
  · refine .inr ⟨still, ?_⟩
    obtain ⟨captured, reached⟩ := not_or.mp still
    obtain ⟨counted, few, counts, some⟩ := source.countOn_label snapshot.epochCapture 4
    obtain ⟨second, changed⟩ := source.countOn_second snapshot.epochCapture 4
    refine ⟨second, (reports (Bool.not_eq_false _ ▸ captured)).trans changed, ?_⟩
    rw [changed, found.label] at counts
    rw [counts]
    intro same
    have positive := some (fun none => reached ((found.countOne _).mp none)) (by decide)
    have none : BitVec.ofNat 32 counted = 0 := by
      rw [← BitVec.add_right_inj label]
      exact same.trans (BitVec.add_zero _).symm
    have zero := congrArg BitVec.toNat none
    rw [BitVec.toNat_ofNat, Nat.mod_eq_of_lt (by omega)] at zero
    exact absurd zero positive.ne'

/-! ## Acted on -/

theorem settle_found (idle : source.activity = .idle) (done : source.search.done = true)
    (found : source.search.found = true) (purpose : source.search.purpose = .confirm)
    (snapshot : TimingSnapshot) (time : SyncTime) (synchronised : Bool) (boundNs : Nat) :
    source.settle snapshot time synchronised boundNs =
      ((source.takeEpoch snapshot).undone.measured time synchronised
        boundNs).confirmed.followClock time synchronised := by
  have done : (source.takeEpoch snapshot).search.done = true := done
  rw [settle, expire_idle idle, if_pos done]
  exact congrArg (SourceRtc.followClock · time synchronised)
    (@searchResult_confirmed (source.takeEpoch snapshot) purpose found time synchronised boundNs)

/-- An epoch so many after ours. -/
theorem epochReached_later (source : SourceRtc) {epochs : BitVec 32} (positive : 0 < epochs)
    (few : epochs ≤ 21600) : source.epochReached (source.ourEpoch.sequence + epochs) = false := by
  have below : 0 < epochs.toNat := positive
  have above : epochs.toNat ≤ 21600 := few
  rw [epochReached, decide_eq_false_iff_not, not_le]
  have back : source.ourEpoch.sequence - (source.ourEpoch.sequence + epochs) = 0 - epochs := by ring
  rw [back, BitVec.toInt_eq_toNat_cond, BitVec.toNat_sub]
  change (if 2 * ((2 ^ 32 - epochs.toNat + 0) % 2 ^ 32) < 2 ^ 32 then _ else _) < (0 : Int)
  omega

theorem checkInterval_within (source : SourceRtc) :
    0 < source.checkInterval ∧ source.checkInterval ≤ 21600 := by
  rw [checkInterval]
  dsimp only
  split
  · exact ⟨by decide, by decide⟩
  · split
    · exact ⟨by decide, by decide⟩
    · split
      · exact ⟨by decide, by decide⟩
      · next few many =>
          generalize sourceRtcDriftLimitMs * ticksPerMs.toNat / (source.rate.q8.natAbs / 256) =
            seconds at few many
          change ¬21600 < seconds at few
          change ¬seconds < 600 at many
          refine ⟨?_, ?_⟩
          · change 0 < (BitVec.ofNat 32 seconds).toNat
            rw [BitVec.toNat_ofNat]
            omega
          · change (BitVec.ofNat 32 seconds).toNat ≤ 21600
            rw [BitVec.toNat_ofNat]
            omega

/-- Following the clock brings no check forward to now. -/
theorem followClock_unreached (early : source.epochReached source.checks.nextCheckEpoch = false)
    (time : SyncTime) (synchronised : Bool) :
    (source.followClock time synchronised).epochReached
      (source.followClock time synchronised).checks.nextCheckEpoch = false := by
  rw [followClock]
  dsimp only
  split
  · rw [checkBy]
    split
    · exact epochReached_later source (by decide) (by decide)
    · exact early
  · exact early

/-- With no write wanted and no check due, what a free source does leaves the write alone. -/
theorem act_rests (idle : source.activity = .idle) (wanted : source.write.wanted = false)
    (plain : source.write.plainWanted = false)
    (early : source.epochReached source.checks.nextCheckEpoch = false) (time : SyncTime)
    (synchronised : Bool) :
    (source.act time synchronised).write = source.write ∧
      (source.act time synchronised).lastWrite = source.lastWrite ∧
      (source.act time synchronised).writing = false := by
  have unwriting : source.writing = false := not_writing (.inl idle)
  rw [act, plain, if_neg Bool.false_ne_true, wanted, if_neg Bool.false_ne_true]
  split
  · rw [foundStopped]
    split
    · dsimp only
      split
      · exact ⟨rfl, rfl, unwriting⟩
      · exact ⟨rfl, rfl, unwriting⟩
    · exact ⟨rfl, rfl, unwriting⟩
  · rw [startDue, early, Bool.and_false, if_neg Bool.false_ne_true]
    split
    · exact ⟨rfl, rfl, rfl⟩
    · split
      · exact ⟨rfl, rfl, rfl⟩
      · exact ⟨rfl, rfl, unwriting⟩

/-- Landed within tolerance. -/
theorem confirmed_landed (label : source.second.label = source.write.expectLabel)
    (within : (source.second.stamp - source.write.expectStamp).toInt ≤ sourceRtcAlignToleranceTicks ∧
      -sourceRtcAlignToleranceTicks ≤ (source.second.stamp - source.write.expectStamp).toInt) :
    source.confirmed.lastWrite =
        { valid := true
          aligned := true
          errorTicks := (source.second.stamp - source.write.expectStamp).toInt
          utc := source.write.expectLabel
          epoch := source.ourEpoch.sequence } ∧
      source.confirmed.write =
        { source.write with
          correctionTicks := source.confirmed.write.correctionTicks
          attempts := 0 } ∧
      source.confirmed.activity = source.activity ∧
      source.confirmed.epochReached source.confirmed.checks.nextCheckEpoch = false := by
  have labelled : (source.second.label == source.write.expectLabel) = true := beq_iff_eq.mpr label
  have early := epochReached_later source (checkInterval_within source).1 (checkInterval_within source).2
  rw [confirmed]
  dsimp only
  rw [labelled, decide_eq_true within, Bool.true_and, if_pos rfl, if_pos rfl, if_pos rfl]
  exact ⟨rfl, rfl, rfl, early⟩

/-- Found to be another second: another attempt, or a plain write. -/
theorem confirmed_mislabelled (label : source.second.label ≠ source.write.expectLabel) :
    source.confirmed.write.wanted = true ∨ source.confirmed.write.plainWanted = true := by
  have other : (source.second.label == source.write.expectLabel) = false :=
    beq_eq_false_iff_ne.mpr label
  rw [confirmed]
  dsimp only
  rw [other, Bool.false_and, if_neg Bool.false_ne_true, if_neg Bool.false_ne_true, missed]
  dsimp only
  split
  · exact .inl rfl
  · exact .inr rfl

end SourceRtc

/-! ## An attempt -/

/-- The calls that leave a second found alone, until the next epoch. -/
def RtcAct.quiet : RtcAct → Bool
  | .oscillator _ | .poll _ | .service _ | .bus .. => true
  | .report _ | .epoch .. | .set _ => false

theorem World.quiet_run {world : World} (idle : world.source.activity = .idle)
    (valid : world.source.second.valid = true) {acts : List RtcAct}
    (quiet : ∀ act ∈ acts, act.quiet = true) :
    ∃ rtc offsetQ16, (acts.foldl World.step world).source =
      { world.source with rtc := rtc, oscillatorQ16 := offsetQ16 } := by
  induction acts generalizing world with
  | nil => exact ⟨_, _, rfl⟩
  | cons act acts ih =>
      obtain ⟨rtc, offsetQ16, stepped⟩ : ∃ rtc offsetQ16, (world.step act).source =
          { world.source with rtc := rtc, oscillatorQ16 := offsetQ16 } := by
        have calm := quiet act (List.mem_cons_self ..)
        cases act with
        | oscillator => exact ⟨_, _, rfl⟩
        | service => exact ⟨_, _, rfl⟩
        | bus => exact ⟨_, _, rfl⟩
        | poll timebase =>
            refine ⟨world.source.rtc, world.source.oscillatorQ16, ?_⟩
            change world.source.poll timebase = world.source
            rw [SourceRtc.poll, idle, valid, Bool.not_true, Bool.and_false, Bool.false_and,
              Bool.false_and, Bool.false_and]
            exact if_neg Bool.false_ne_true
        | report => cases calm
        | epoch => cases calm
        | set => cases calm
      obtain ⟨rtc', offsetQ16', onward⟩ := @ih (world.step act) (by rw [stepped]; exact idle)
        (by rw [stepped]; exact valid) fun act among => quiet act (List.mem_cons_of_mem _ among)
      refine ⟨rtc', offsetQ16', onward.trans ?_⟩
      rw [stepped]

/-- An aligned write, from the poll at which the confirming search finds the second it
started: the calls from there to the next epoch, that epoch, and when the chip's first
increment after its release really was. -/
structure Attempt where
  world : World
  timebase : BitVec 32
  quiet : List RtcAct
  snapshot : TimingSnapshot
  time : SyncTime
  synchronised : Bool
  boundNs : Nat
  landing : BitVec 32

namespace Attempt

variable (attempt : Attempt)

/-- The source at the poll. -/
abbrev source : SourceRtc :=
  attempt.world.source

/-- The second found, and our epoch reached. -/
def found : World :=
  attempt.quiet.foldl World.step (attempt.world.step (.poll attempt.timebase))

/-- `sync_update` has taken the source's report. -/
def reported : World :=
  attempt.found.step (.report attempt.snapshot)

/-- `source_rtc_epoch`, the search's result acted on. -/
def settled : SourceRtc :=
  attempt.reported.source.settle attempt.snapshot attempt.time
    (attempt.synchronised && attempt.time.known && !attempt.time.leapSecond) attempt.boundNs

/-- `source_rtc_epoch` has returned. -/
def after : World :=
  attempt.reported.step
    (.epoch attempt.snapshot attempt.time attempt.synchronised attempt.boundNs)

/-- The stamp from which the read before the increment does not show it. -/
def sampledFrom : BitVec 32 :=
  attempt.source.search.sampleStamp + sourceRtcReadLatchTicks

def resolution : Nat :=
  (attempt.source.rtc.status.readStamp - attempt.source.search.sampleStamp).toNat

/-- How far the increment was from where it was to land. -/
def errorTicks : Int :=
  (attempt.landing - attempt.source.write.expectStamp).toInt

/-- The second found is the one the write started: the increment came after what the sample
shows, and no later than what the latest read shows. -/
structure Lands : Prop where
  reached : rtcMachine.Reachable World.Admits attempt.world
  confirming : attempt.source.activity = .confirming
  brackets : attempt.source.core.Brackets
  label : attempt.source.rtc.status.utcSeconds = attempt.source.write.expectLabel
  later : 0 < (attempt.landing - attempt.sampledFrom).toNat
  by_then : (attempt.landing - attempt.sampledFrom).toNat ≤ attempt.resolution
  quietly : ∀ act ∈ attempt.quiet, act.quiet = true

/-- Within the tolerance. -/
def Within : Prop :=
  |attempt.errorTicks| ≤ sourceRtcAlignToleranceTicks

/-- Within the tolerance less half the search's resolution. -/
def WellWithin : Prop :=
  2 * |attempt.errorTicks| + attempt.resolution ≤ 2 * sourceRtcAlignToleranceTicks

instance : Decidable attempt.WellWithin :=
  inferInstanceAs (Decidable (_ ≤ _))

/-- The second found is still the latest at the epoch that acts on it. -/
def InTime : Prop :=
  SourceRtc.StillLatest attempt.snapshot attempt.source.core.between attempt.source.rate.q8

instance : Decidable attempt.InTime :=
  inferInstanceAs (Decidable (SourceRtc.StillLatest _ _ _))

/-- The result is taken as confirmed, as far out as it was, and no further attempt is made. -/
structure Confirmed : Prop where
  written : attempt.settled.core.written = ⟨true, true, attempt.source.write.expectLabel⟩
  epoch : attempt.settled.lastWrite.epoch = attempt.snapshot.sequence
  error : |attempt.settled.lastWrite.errorTicks - attempt.errorTicks| ≤
    attempt.resolution / 2 + 1
  attempts : attempt.settled.write.attempts = 0
  wanted : attempt.settled.write.wanted = false
  plainWanted : attempt.settled.write.plainWanted = false
  write : attempt.after.source.write = attempt.settled.write
  lastWrite : attempt.after.source.lastWrite = attempt.settled.lastWrite
  unwriting : attempt.after.source.writing = false

/-- The chip's first increment comes so much later after the release than is assumed with
nothing learnt. -/
def Delayed (delay : Int) : Prop :=
  attempt.landing = attempt.source.write.releaseTarget +
    BitVec.ofInt 32 (startDelayTicks + delay + sourceRtcReleaseLatencyTicks)

/-- The next to be found, after however many that were given up. -/
def Follows (attempt next : Attempt) : Prop :=
  ∃ between, rtcMachine.Run (fun world act => ¬world.Confirms act) attempt.after between next.world

variable {attempt}

theorem Lands.resolution_le (lands : attempt.Lands) : attempt.resolution ≤ 80000 :=
  lands.brackets.near

/-- Where the increment was found to be. -/
theorem Lands.measured (lands : attempt.Lands) (near : |attempt.errorTicks| ≤ 1000000000) :
    (attempt.source.core.between - attempt.source.write.expectStamp).toInt =
      attempt.errorTicks + (attempt.resolution / 2 : Nat) -
        (attempt.landing - attempt.sampledFrom).toNat := by
  have few := lands.resolution_le
  have by_then := lands.by_then
  have shift : attempt.source.core.between - attempt.source.write.expectStamp =
      (attempt.landing - attempt.source.write.expectStamp) +
        ((attempt.source.rtc.status.readStamp - attempt.source.search.sampleStamp) / 2 -
          (attempt.landing - attempt.sampledFrom)) := by
    have apart (sample middle latch expect landing : BitVec 32) :
        sample + middle + latch - expect =
          (landing - expect) + (middle - (landing - (sample + latch))) := by ring
    exact apart _ _ _ _ _
  have half :
      ((attempt.source.rtc.status.readStamp - attempt.source.search.sampleStamp) / 2).toNat =
        attempt.resolution / 2 :=
    BitVec.toNat_udiv
  generalize (attempt.source.rtc.status.readStamp - attempt.source.search.sampleStamp) / 2 =
    middle at shift half
  generalize attempt.landing - attempt.sampledFrom = since at shift by_then ⊢
  have apart : (middle - since).toInt = (attempt.resolution / 2 : Nat) - (since.toNat : Int) := by
    rw [BitVec.toInt_eq_toNat_cond, BitVec.toNat_sub]
    omega
  rw [shift, BitVec.toInt_add, apart, ← errorTicks]
  obtain ⟨low, high⟩ := abs_le.mp near
  rw [Int.bmod_eq_of_le]
  · ring
  · change -2147483648 ≤ _
    omega
  · change _ < 2147483648
    omega

theorem Lands.underway (lands : attempt.Lands) : attempt.source.Underway :=
  (World.underway lands.reached).2

theorem Lands.inHand (lands : attempt.Lands) : attempt.source.InHand := by
  refine .inl ?_
  rw [SourceRtc.writing, lands.confirming]

theorem Lands.foundFor (lands : attempt.Lands) :
    attempt.found.source.FoundFor attempt.source.write attempt.source.rate.q8
      attempt.source.core.between attempt.source.write.expectLabel := by
  have polled := SourceRtc.poll_found lands.confirming (lands.underway.confirming lands.confirming)
    lands.brackets attempt.timebase
  rw [lands.label] at polled
  obtain ⟨rtc, offsetQ16, quietly⟩ :=
    @World.quiet_run (attempt.world.step (.poll attempt.timebase)) polled.idle polled.valid _
      lands.quietly
  have same : attempt.found.source =
      { attempt.source.poll attempt.timebase with rtc := rtc, oscillatorQ16 := offsetQ16 } := quietly
  rw [same]
  exact ⟨polled.idle, polled.done, polled.found, polled.purpose, polled.valid, polled.stamp,
    polled.label, polled.fraction, polled.rate, polled.write⟩

/-- What the epoch compares with what was expected. -/
structure ActsOn (attempt : Attempt) (acted : SourceRtc) : Prop where
  settled : attempt.settled = acted.confirmed.followClock attempt.time
    (attempt.synchronised && attempt.time.known && !attempt.time.leapSecond)
  write : acted.write = attempt.source.write
  idle : acted.activity = .idle
  sequence : acted.ourEpoch.sequence = attempt.snapshot.sequence
  second :
    attempt.InTime ∧ acted.second.label = attempt.source.write.expectLabel ∧
        acted.second.stamp = attempt.source.core.between ∨
      ¬attempt.InTime ∧ acted.second.label ≠ attempt.source.write.expectLabel

theorem Lands.actsOn (lands : attempt.Lands) : ∃ acted, attempt.ActsOn acted := by
  have found := lands.foundFor
  have reports : ∃ second,
      attempt.reported.source = { attempt.found.source with second := second } ∧
      (attempt.InTime ∧ second.label = attempt.source.write.expectLabel ∧
          second.stamp = attempt.source.core.between ∨
        ¬attempt.InTime ∧ second.label ≠ attempt.source.write.expectLabel) := by
    rcases found.report attempt.snapshot with ⟨still, same⟩ | ⟨moved, second, counted, other⟩
    · exact ⟨attempt.found.source.second, same, .inl ⟨still, found.label, found.stamp⟩⟩
    · exact ⟨second, counted, .inr ⟨moved, other⟩⟩
  obtain ⟨second, reported, either⟩ := reports
  obtain ⟨offsetMs, anchor, measured⟩ :=
    (attempt.reported.source.takeEpoch attempt.snapshot).undone.measured_same attempt.time
      (attempt.synchronised && attempt.time.known && !attempt.time.leapSecond) attempt.boundNs
  have settled : attempt.settled = _ := SourceRtc.settle_found
    (by rw [reported]; exact found.idle) (by rw [reported]; exact found.done)
    (by rw [reported]; exact found.found) (by rw [reported]; exact found.purpose)
    attempt.snapshot attempt.time _ attempt.boundNs
  refine ⟨_, settled, ?_, ?_, ?_, ?_⟩
  · rw [measured, reported]
    exact found.write
  · rw [measured, reported]
    exact found.idle
  · rw [measured]
    rfl
  · rw [measured, reported]
    exact either

theorem ActsOn.core {acted : SourceRtc} (acts : attempt.ActsOn acted) :
    attempt.settled.core = acted.confirmed.core := by
  rw [acts.settled]
  exact SourceRtc.followClock_core _ _ _

/-- Following the clock changes neither the write nor the last setting. -/
theorem ActsOn.same {acted : SourceRtc} (acts : attempt.ActsOn acted) :
    attempt.settled.write = acted.confirmed.write ∧
      attempt.settled.lastWrite = acted.confirmed.lastWrite ∧
      attempt.settled.activity = acted.confirmed.activity := by
  obtain ⟨checks, followed⟩ := SourceRtc.followClock_same acted.confirmed attempt.time
    (attempt.synchronised && attempt.time.known && !attempt.time.leapSecond)
  rw [acts.settled, followed]
  exact ⟨rfl, rfl, rfl⟩

/-- The increment lies within half the search's resolution of where it was found. -/
theorem Lands.measured_near (lands : attempt.Lands) (near : |attempt.errorTicks| ≤ 1000000000) :
    |(attempt.source.core.between - attempt.source.write.expectStamp).toInt - attempt.errorTicks| ≤
      ((attempt.resolution + 1) / 2 : Nat) := by
  have later := lands.later
  have by_then := lands.by_then
  rw [lands.measured near, abs_le]
  omega

theorem Lands.confirmed_of_inTime (lands : attempt.Lands) (well : attempt.WellWithin)
    (inTime : attempt.InTime) : attempt.Confirmed := by
  obtain ⟨acted, acts⟩ := lands.actsOn
  obtain ⟨label, stamp⟩ : acted.second.label = acted.write.expectLabel ∧
      acted.second.stamp = attempt.source.core.between := by
    rw [acts.write]
    exact (acts.second.resolve_right fun other => other.1 inTime).2
  have few := lands.resolution_le
  have within : |attempt.errorTicks| ≤ 80000 := by
    change 2 * |attempt.errorTicks| + (attempt.resolution : Int) ≤ 160000 at well
    omega
  have near := lands.measured_near (within.trans (by decide))
  have tolerated : (acted.second.stamp - acted.write.expectStamp).toInt ≤
        sourceRtcAlignToleranceTicks ∧
      -sourceRtcAlignToleranceTicks ≤ (acted.second.stamp - acted.write.expectStamp).toInt := by
    rw [stamp, acts.write]
    change _ ≤ 80000 ∧ -80000 ≤ _
    change 2 * |attempt.errorTicks| + (attempt.resolution : Int) ≤ 160000 at well
    rw [abs_le] at near
    rcases abs_cases attempt.errorTicks with ⟨size, sign⟩ | ⟨size, sign⟩
    · rw [size] at well
      omega
    · rw [size] at well
      omega
  obtain ⟨lastWrite, write, activity, early⟩ := SourceRtc.confirmed_landed label tolerated
  obtain ⟨sameWrite, sameLast, sameActivity⟩ := acts.same
  have wanted : attempt.settled.write.wanted = false := by
    rw [sameWrite, write, acts.write]
    exact lands.underway.wanted lands.inHand
  have plainWanted : attempt.settled.write.plainWanted = false := by
    rw [sameWrite, write, acts.write]
    exact lands.underway.plainWanted lands.inHand
  have idle : attempt.settled.activity = .idle := (sameActivity.trans activity).trans acts.idle
  have unreached : attempt.settled.epochReached attempt.settled.checks.nextCheckEpoch = false := by
    rw [acts.settled]
    exact SourceRtc.followClock_unreached early _ _
  have rests : attempt.after.source.write = attempt.settled.write ∧
      attempt.after.source.lastWrite = attempt.settled.lastWrite ∧
      attempt.after.source.writing = false := by
    change (attempt.reported.source.epoch _ _ _ _).write = _ ∧
      (attempt.reported.source.epoch _ _ _ _).lastWrite = _ ∧
      (attempt.reported.source.epoch _ _ _ _).writing = _
    rw [SourceRtc.epoch]
    change (if attempt.settled.free = true then attempt.settled.act _ _ else attempt.settled).write =
        _ ∧ (if attempt.settled.free = true then attempt.settled.act _ _
          else attempt.settled).lastWrite = _ ∧
        (if attempt.settled.free = true then attempt.settled.act _ _ else attempt.settled).writing = _
    split
    · exact SourceRtc.act_rests idle wanted plainWanted unreached _ _
    · exact ⟨rfl, rfl, SourceRtc.not_writing (.inl idle)⟩
  refine ⟨?_, ?_, ?_, ?_, wanted, plainWanted, rests.1, rests.2.1, rests.2.2⟩
  · change RtcWritten.mk attempt.settled.lastWrite.valid attempt.settled.lastWrite.aligned
      attempt.settled.lastWrite.utc = _
    rw [sameLast, lastWrite, acts.write]
  · rw [sameLast, lastWrite]
    exact acts.sequence
  · have bound : (((attempt.resolution + 1) / 2 : Nat) : Int) ≤ attempt.resolution / 2 + 1 := by omega
    have errorTicks : attempt.settled.lastWrite.errorTicks =
        (attempt.source.core.between - attempt.source.write.expectStamp).toInt := by
      rw [sameLast, lastWrite, stamp, acts.write]
    rw [errorTicks]
    exact near.trans bound
  · exact (congrArg RtcWrite.attempts sameWrite).trans (congrArg RtcWrite.attempts write)

theorem Lands.not_confirmed (lands : attempt.Lands) (late : ¬attempt.InTime) :
    ¬attempt.Confirmed := by
  intro confirmed
  obtain ⟨acted, acts⟩ := lands.actsOn
  have label := (acts.second.resolve_left fun inTime => late inTime.1).2
  rw [← acts.write] at label
  obtain ⟨sameWrite, -, -⟩ := acts.same
  rcases SourceRtc.confirmed_mislabelled label with wanted | plainWanted
  · exact Bool.false_ne_true (confirmed.wanted.symm.trans ((congrArg _ sameWrite).trans wanted))
  · exact Bool.false_ne_true
      (confirmed.plainWanted.symm.trans ((congrArg _ sameWrite).trans plainWanted))

/-! ## The next attempt -/

/-- What is known of the delay once the epoch has acted. -/
theorem Lands.correction (lands : attempt.Lands) :
    attempt.after.source.write.correctionTicks =
      if attempt.InTime then
        let error := (attempt.source.core.between - attempt.source.write.expectStamp).toInt
        clampCorrection
          (attempt.source.write.correctionTicks +
            if error ≤ sourceRtcAlignToleranceTicks ∧ -sourceRtcAlignToleranceTicks ≤ error then
              error.tdiv 2
            else error)
      else attempt.source.write.correctionTicks := by
  obtain ⟨acted, acts⟩ := lands.actsOn
  have onward : attempt.after.source.write.correctionTicks =
      acted.confirmed.write.correctionTicks := by
    change (attempt.reported.source.epoch _ _ _ _).write.correctionTicks = _
    rw [SourceRtc.epoch]
    change (if attempt.settled.free = true then attempt.settled.act _ _
      else attempt.settled).write.correctionTicks = _
    rw [← acts.same.1]
    split
    · exact SourceRtc.act_correction _ _ _
    · rfl
  rw [onward, SourceRtc.confirmed_correction, acts.write]
  rcases acts.second with ⟨inTime, label, stamp⟩ | ⟨late, label⟩
  · rw [if_pos inTime, if_pos label, stamp]
  · rw [if_neg late, if_neg label]

/-- How far out a write lands is how far the delay is from the one assumed. -/
theorem Lands.errorTicks_eq (lands : attempt.Lands) {delay : Int}
    (small : |delay| ≤ sourceRtcCorrectionLimitTicks) (delayed : attempt.Delayed delay) :
    attempt.errorTicks = delay - attempt.source.write.correctionTicks := by
  have apart : attempt.landing - attempt.source.write.expectStamp =
      BitVec.ofInt 32 (delay - attempt.source.write.correctionTicks) := by
    have difference : delay - attempt.source.write.correctionTicks =
        (startDelayTicks + delay + sourceRtcReleaseLatencyTicks) - attempt.source.releaseDelay := by
      rw [SourceRtc.releaseDelay]
      ring
    rw [delayed, lands.underway.expects lands.inHand, difference]
    generalize startDelayTicks + delay + sourceRtcReleaseLatencyTicks = given
    rw [Int.sub_eq_add_neg, BitVec.ofInt_add, BitVec.ofInt_neg]
    ring
  have correction := abs_le.mp lands.underway.correction
  have small := abs_le.mp small
  change -24000000 ≤ _ ∧ _ ≤ (24000000 : Int) at correction small
  rw [errorTicks, apart, BitVec.toInt_ofInt]
  apply Int.bmod_eq_of_le
  · change -2147483648 ≤ _
    omega
  · change _ < 2147483648
    omega

/-- A correction learnt from an error measured to within half the tolerance leaves no more than
the tolerance of the delay unallowed for. -/
theorem learnt_within {delay correction measured : Int}
    (small : |delay| ≤ sourceRtcCorrectionLimitTicks)
    (near : |measured - (delay - correction)| ≤ 40000) :
    |delay -
        clampCorrection
          (correction +
            if measured ≤ sourceRtcAlignToleranceTicks ∧ -sourceRtcAlignToleranceTicks ≤ measured then
              measured.tdiv 2
            else measured)| ≤ sourceRtcAlignToleranceTicks := by
  have left : ∀ learnt, |delay - (correction + learnt)| ≤ sourceRtcAlignToleranceTicks →
      |delay - clampCorrection (correction + learnt)| ≤ sourceRtcAlignToleranceTicks := by
    intro learnt close
    -- Clamping moves it no further from a delay that is within the limit.
    generalize correction + learnt = learnt at close ⊢
    rw [clampCorrection]
    rw [abs_le] at small close ⊢
    change -24000000 ≤ delay ∧ delay ≤ (24000000 : Int) at small
    change -80000 ≤ _ ∧ _ ≤ (80000 : Int) at close
    change -80000 ≤ _ ∧ _ ≤ (80000 : Int)
    split
    · next above =>
        change (24000000 : Int) < learnt at above
        change -80000 ≤ delay - 24000000 ∧ delay - 24000000 ≤ (80000 : Int)
        omega
    · split
      · next below =>
          change learnt < (-24000000 : Int) at below
          change -80000 ≤ delay - -24000000 ∧ delay - -24000000 ≤ (80000 : Int)
          omega
      · exact close
  apply left
  obtain ⟨low, high⟩ := abs_le.mp near
  refine abs_le.mpr ?_
  change -80000 ≤ _ ∧ _ ≤ (80000 : Int)
  split
  · next within =>
      change measured ≤ 80000 ∧ (-80000 : Int) ≤ measured at within
      have halves := Int.mul_tdiv_add_tmod measured 2
      have above := Int.tmod_lt_of_pos measured (by decide : (0 : Int) < 2)
      have below := Int.lt_tmod_of_pos measured (by decide : (0 : Int) < 2)
      omega
  · omega

theorem Follows.correction {next : Attempt} (follows : attempt.Follows next) :
    next.source.write.correctionTicks = attempt.after.source.write.correctionTicks := by
  obtain ⟨between, run⟩ := follows
  exact run.keeps (fun world => world.source.write.correctionTicks =
    attempt.after.source.write.correctionTicks)
    (fun world act same other => (World.step_correction world other).trans same) rfl

/-- The next attempt lands within tolerance exactly where this one was acted on in time, or
landed within it. -/
theorem Lands.next_within (lands : attempt.Lands) {next : Attempt} (lands' : next.Lands)
    (follows : attempt.Follows next) {delay : Int} (small : |delay| ≤ sourceRtcCorrectionLimitTicks)
    (delayed : attempt.Delayed delay) (delayed' : next.Delayed delay) :
    next.Within ↔ attempt.InTime ∨ attempt.Within := by
  have error := lands.errorTicks_eq small delayed
  have few := lands.resolution_le
  have near : |attempt.errorTicks| ≤ 1000000000 := by
    have correction := abs_le.mp lands.underway.correction
    have small := abs_le.mp small
    change -24000000 ≤ _ ∧ _ ≤ (24000000 : Int) at correction small
    rw [error, abs_le]
    omega
  rw [Within, lands'.errorTicks_eq small delayed', follows.correction, lands.correction]
  by_cases inTime : attempt.InTime
  · rw [if_pos inTime]
    refine iff_of_true (learnt_within small ?_) (.inl inTime)
    rw [← error]
    exact (lands.measured_near near).trans (by omega)
  · rw [if_neg inTime, ← error]
    exact ⟨.inr, fun either => either.resolve_left inTime⟩

/-- The later attempts all land within tolerance exactly where the first was acted on in time,
or landed within it. -/
theorem Lands.later_within {later : List Attempt} (lands : attempt.Lands)
    (land : ∀ next ∈ later, next.Lands) (follow : (attempt :: later).IsChain Follows) {delay : Int}
    (small : |delay| ≤ sourceRtcCorrectionLimitTicks) (delayed : attempt.Delayed delay)
    (delays : ∀ next ∈ later, next.Delayed delay) (some : later ≠ []) :
    (∀ next ∈ later, next.Within) ↔ attempt.InTime ∨ attempt.Within := by
  induction later generalizing attempt with
  | nil => exact absurd rfl some
  | cons next later ih =>
      obtain ⟨follows, rest⟩ := List.isChain_cons_cons.mp follow
      have lands' := land next (List.mem_cons_self ..)
      have delayed' := delays next (List.mem_cons_self ..)
      have step := lands.next_within lands' follows small delayed delayed'
      rw [List.forall_mem_cons, ← step]
      refine ⟨And.left, fun within => ⟨within, ?_⟩⟩
      rcases later with _ | ⟨last, later⟩
      · exact fun _ none => absurd none List.not_mem_nil
      · exact (ih lands' (fun next among => land next (List.mem_cons_of_mem _ among)) rest delayed'
          (fun next among => delays next (List.mem_cons_of_mem _ among)) (List.cons_ne_nil _ _)).mpr
            (.inr within)

/-- An aligned write that lands well within tolerance is confirmed exactly where the epoch that
acts on it comes before the increment after it; and of the attempts with one start delay only
the first lands outside tolerance exactly where that held for it, or it did not. -/
theorem confirmed_iff (attempt : Attempt) (lands : attempt.Lands) :
    (attempt.WellWithin → (attempt.Confirmed ↔ attempt.InTime)) ∧
      ∀ delay later, |delay| ≤ sourceRtcCorrectionLimitTicks → later ≠ [] →
        (∀ next ∈ attempt :: later, next.Lands ∧ next.Delayed delay) →
        (attempt :: later).IsChain Follows →
        ((∀ next ∈ later, next.Within) ↔ attempt.InTime ∨ attempt.Within) := by
  refine ⟨fun well => ⟨fun confirmed => ?_, lands.confirmed_of_inTime well⟩, ?_⟩
  · exact Decidable.not_not.mp fun late => lands.not_confirmed late confirmed
  · intro delay later small some all follow
    rw [List.forall_mem_cons] at all
    obtain ⟨⟨-, delayed⟩, each⟩ := all
    exact lands.later_within (fun next among => (each next among).1) follow small delayed
      (fun next among => (each next among).2) some

/-- An epoch while the clock is synchronised. -/
def epochWith (sequence capture : BitVec 32) : RtcAct :=
  .epoch { sequence := sequence, epochCaptureValid := true, epochCapture := capture }
    { known := true, utcSeconds := 1759999938 + sequence } true 1000

/-- An aligned write by a chip that had lost power, released to land on the epoch at 40000000,
and searched for: read half a millisecond before that epoch, and half a millisecond after. -/
def searched : List RtcAct :=
  [.bus .read .ok true 0 { encode 1760000000 0 with vlSeconds := pcf8563Vl }, .service 1,
    epochWith 1 0, epochWith 61 0, epochWith 62 0, .bus .write .ok true 0 {}, .service 2, .poll 0,
    .poll 20309700, .bus .release .ok true 0 {}, .service 3, .poll 20310000,
    .bus .read .ok true 39979000 (encode 1760000000 0), .service 4, .poll 39980000,
    .bus .read .ok true 40019000 (encode 1760000001 0)]

/-- The write found to have landed 25 microseconds early, acted on at an epoch. -/
def landedEarly (acts : List RtcAct) (sequence capture : BitVec 32) : Attempt where
  world := acts.foldl World.step { source := (SourceRtc.init (Pcf8563.init 0)).restore {} }
  timebase := 40040000
  quiet := []
  snapshot := { sequence := sequence, epochCaptureValid := true, epochCapture := capture }
  time := { known := true, utcSeconds := 1759999938 + sequence }
  synchronised := true
  boundNs := 1000
  landing := 39999000

theorem landedEarly_lands {acts : List RtcAct} {sequence capture : BitVec 32}
    (admitted : rtcMachine.admitted World.Admits
      { source := (SourceRtc.init (Pcf8563.init 0)).restore {} } acts = true)
    (confirming : (landedEarly acts sequence capture).source.activity = .confirming)
    (brackets : (landedEarly acts sequence capture).source.core.Brackets)
    (label : (landedEarly acts sequence capture).source.rtc.status.utcSeconds =
      (landedEarly acts sequence capture).source.write.expectLabel)
    (between : 0 < (39999000 - (landedEarly acts sequence capture).sampledFrom).toNat ∧
      (39999000 - (landedEarly acts sequence capture).sampledFrom).toNat ≤
        (landedEarly acts sequence capture).resolution) :
    (landedEarly acts sequence capture).Lands where
  reached :=
    (Machine.Reachable.start (show rtcMachine.start _ from
      ⟨0, {}, ⟨abs_zero.le.trans (by decide), (by decide : 0 < 4294967296)⟩, rfl⟩)).run
      (.of_admitted admitted)
  confirming := confirming
  brackets := brackets
  label := label
  later := between.1
  by_then := between.2
  quietly act among := absurd among List.not_mem_nil

/-- Found before the epoch it was to land on is processed. -/
theorem confirmed_iff_before : (landedEarly (searched ++ [.service 5]) 63 40000000).Confirmed :=
  ((confirmed_iff _ (landedEarly_lands (by decide +kernel) (by decide +kernel)
    ⟨by decide +kernel, by decide +kernel, by decide +kernel, by decide +kernel, by decide +kernel,
      by decide +kernel⟩
    (by decide +kernel) (by decide +kernel))).1
      (by decide +kernel)).mpr (by decide +kernel)

/-- Found after it: the report before the next epoch counts the second on, and the write is
taken to have missed. -/
theorem found_after :
    ∃ attempt : Attempt, attempt.Lands ∧ attempt.WellWithin ∧ ¬attempt.Confirmed ∧
      attempt.settled.write.wanted = true :=
  ⟨landedEarly
      (searched ++
        [.report { sequence := 63, epochCaptureValid := true, epochCapture := 40000000 },
          epochWith 63 40000000, .service 5]) 64 80000000,
    landedEarly_lands (by decide +kernel) (by decide +kernel)
      ⟨by decide +kernel, by decide +kernel, by decide +kernel, by decide +kernel, by decide +kernel,
        by decide +kernel⟩
      (by decide +kernel) (by decide +kernel),
    by decide +kernel,
    fun confirmed => absurd confirmed.wanted (by decide +kernel), by decide +kernel⟩

end Attempt

end GpsClock.Rtc
