import GpsClock.Lib.Machine
import GpsClock.Rtc.SourceRtc

/-! # The chip, the bus and the source

The source with the chip it keeps set: the main loop's calls in any order, and the bus
ending each transfer when it likes with any result, whether or not the chip took it. A
transfer that ended well was taken, and a read that ended well read the chip.
What every step keeps (`GpsClock.Rtc.World.sound`): what the driver says of the chip is
true, the periodic reads are on exactly when the source is idle, and its numbers are in
range.
-/

namespace GpsClock.Rtc

open GpsClock.Platform GpsClock.Sync GpsClock.Timing

/-- The source, and whether the chip's STOP bit is set. -/
structure World where
  stopped : Bool := false
  source : SourceRtc := {}

inductive RtcAct
  /-- `source_rtc_set_oscillator`. -/
  | oscillator (offsetQ16 : Int)
  /-- `source_rtc_report`. -/
  | report (snapshot : TimingSnapshot)
  /-- `source_rtc_epoch`. -/
  | epoch (snapshot : TimingSnapshot) (time : SyncTime) (synchronised : Bool) (boundNs : Nat)
  /-- `source_rtc_poll`. -/
  | poll (timebase : BitVec 32)
  /-- `source_rtc_set`. -/
  | set (utcSeconds : BitVec 32)
  /-- `pcf8563_service`. -/
  | service (nowMs : BitVec 32)
  /-- The bus at work on a transfer: how it stands, and whether the chip has taken it. -/
  | bus (transfer : Pcf8563Transfer) (result : I2cResult) (taken : Bool)
      (startStamp : BitVec 32) (registers : Registers)

namespace World

/-- The STOP bit after a transfer the chip took. -/
def taking (world : World) : Pcf8563Transfer → Bool
  | .read => world.stopped
  | .write => world.source.rtc.writeBuffer.stop
  | .release => false

/-- The driver after the bus has worked on a transfer. -/
def carried (driver : Pcf8563) (transfer : Pcf8563Transfer) (result : I2cResult)
    (startStamp : BitVec 32) (registers : Registers) : Pcf8563 :=
  { driver with
    transfers :=
      Function.update driver.transfers transfer { result := result, startStamp := startStamp }
    status :=
      if transfer = .read then { driver.status with registers := registers } else driver.status }

def step (world : World) : RtcAct → World
  | .oscillator offsetQ16 => { world with source := world.source.setOscillator offsetQ16 }
  | .report snapshot => { world with source := (world.source.report snapshot).2 }
  | .epoch snapshot time synchronised boundNs =>
      { world with source := world.source.epoch snapshot time synchronised boundNs }
  | .poll timebase => { world with source := world.source.poll timebase }
  | .set utcSeconds => { world with source := (world.source.set utcSeconds).2 }
  | .service nowMs =>
      { world with source := { world.source with rtc := (world.source.rtc.service nowMs).2 } }
  | .bus transfer result taken startStamp registers =>
      { stopped := if taken then world.taking transfer else world.stopped
        source :=
          { world.source with
            rtc := carried world.source.rtc transfer result startStamp registers } }

/-- What can happen: epochs in order, however many are missed, and a bus that only works
on what it was given. -/
def Admits (world : World) : RtcAct → Prop
  | .oscillator offsetQ16 => -2147483648 ≤ offsetQ16 ∧ offsetQ16 < 2147483648
  | .epoch snapshot _ _ boundNs =>
      0 < (snapshot.sequence - world.source.ourEpoch.sequence).toInt ∧ boundNs < 4294967296
  | .bus transfer result taken _ registers =>
      (world.source.rtc.transfers transfer).done = false ∧ result ≠ .idle ∧ result ≠ .queued ∧
        (result = .ok → taken = true ∧ (transfer = .read → registers.stop = world.stopped))
  | _ => True

instance (world : World) (act : RtcAct) : Decidable (Admits world act) :=
  match act with
  | .oscillator _ => inferInstanceAs (Decidable (_ ∧ _))
  | .epoch .. => inferInstanceAs (Decidable (_ ∧ _))
  | .bus .. => inferInstanceAs (Decidable (_ ∧ _))
  | .report _ | .poll _ | .set _ | .service _ => inferInstanceAs (Decidable True)

end World

/-- What an anchor can hold: a label's worth of seconds and a stamp's worth of ticks. -/
def SourceRtcAnchor.Ranged (anchor : SourceRtcAnchor) : Prop :=
  |anchor.offsetNs| ≤ 2147483648 * nsPerSecond + 2147483648 * nsPerTick ∧
    anchor.boundNs < 4294967296

/-- From start-up, with whatever an earlier run kept. -/
def rtcMachine : Machine World RtcAct where
  start world := ∃ nowMs kept, kept.anchor.Ranged ∧
    world.source = (SourceRtc.init (Pcf8563.init nowMs)).restore kept
  step := World.step

namespace SourceRtc

/-- What every step keeps, of the parts it is about. -/
structure Keeps (stopped : Bool) (rtc : Pcf8563) (activity : SourceRtcActivity)
    (purpose : SearchPurpose) (deadline sequence : BitVec 32) (rateQ8 oscillatorQ16 : Int)
    (anchor : SourceRtcAnchor) : Prop where
  driver : rtc.Faithful stopped
  autoRead : rtc.autoRead = (activity == .idle)
  search : activity = .searching →
    purpose ≠ .confirm ∧ 1 ≤ (deadline - sequence).toNat ∧ (deadline - sequence).toNat ≤ 4
  rate : -rateLimitQ8 ≤ rateQ8 ∧ rateQ8 ≤ rateLimitQ8
  oscillator : -2147483648 ≤ oscillatorQ16 ∧ oscillatorQ16 < 2147483648
  anchor : anchor.Ranged

def Sound (stopped : Bool) (source : SourceRtc) : Prop :=
  Keeps stopped source.rtc source.activity source.search.purpose source.search.deadline
    source.ourEpoch.sequence source.rate.q8 source.oscillatorQ16 source.anchor

variable {source : SourceRtc} {stopped : Bool}

/-! ## Helpers -/

theorem setActivity_sound (sound : source.Sound stopped) {activity : SourceRtcActivity}
    (other : activity ≠ .searching) : (source.setActivity activity).Sound stopped :=
  ⟨Pcf8563.setAutoRead_faithful sound.driver _, rfl, fun same => absurd same other, sound.rate,
    sound.oscillator, sound.anchor⟩

theorem ask_sound (sound : source.Sound stopped) (call : Pcf8563.Call) :
    Sound stopped { source with rtc := call.apply source.rtc } :=
  ⟨Pcf8563.Call.faithful sound.driver call, (Pcf8563.Call.autoRead _ call).trans sound.autoRead,
    sound.search, sound.rate, sound.oscillator, sound.anchor⟩

theorem checkBy_sound (sound : source.Sound stopped) (epoch : BitVec 32) :
    (source.checkBy epoch).Sound stopped := by
  rw [checkBy]
  split <;> exact sound

theorem learnRate_sound (sound : source.Sound stopped) (stamp label : BitVec 32) :
    (source.learnRate stamp label).Sound stopped := by
  rw [learnRate]
  dsimp only
  split
  · exact sound
  · split
    · exact sound
    · next believed =>
        obtain ⟨above, below⟩ := not_or.mp believed
        exact ⟨sound.driver, sound.autoRead, sound.search, ⟨not_lt.mp below, not_lt.mp above⟩,
          sound.oscillator, sound.anchor⟩

theorem saturateBound_le (ns : Nat) : saturateBound ns ≤ sourceRtcBoundMaxNs := by
  rw [saturateBound]
  split
  · exact Nat.le_refl _
  · next under => exact Nat.le_of_not_lt under

theorem saturateBound_lt (ns : Nat) : saturateBound ns < 4294967296 :=
  Nat.lt_of_le_of_lt (saturateBound_le ns) (by decide)

theorem rtcChanged_sound (sound : source.Sound stopped) : source.rtcChanged.Sound stopped :=
  ⟨sound.driver, sound.autoRead, sound.search, sound.rate, sound.oscillator, sound.anchor⟩

theorem wrotePlainly_sound (sound : source.Sound stopped) (utcSeconds : BitVec 32) :
    (source.wrotePlainly utcSeconds).Sound stopped := by
  refine ⟨sound.driver, sound.autoRead, sound.search, sound.rate, sound.oscillator, ?_⟩
  exact ⟨abs_zero.le.trans (by decide), (by decide : sourceRtcUncertaintyNs < 4294967296)⟩

theorem toInt_abs (value : BitVec 32) : |value.toInt| ≤ 2147483648 := by
  have above := BitVec.toInt_lt (x := value)
  have below := BitVec.le_toInt (x := value)
  exact abs_le.mpr ⟨below, above.le⟩

theorem anchorFound_sound (sound : source.Sound stopped) (time : SyncTime) (clockBoundNs : Nat) :
    (source.anchorFound time clockBoundNs).Sound stopped := by
  rw [anchorFound]
  split
  · exact sound
  · refine ⟨sound.driver, sound.autoRead, sound.search, sound.rate, sound.oscillator, ?_, saturateBound_lt _⟩
    refine (abs_add_le _ _).trans (Int.add_le_add ?_ ?_)
    · rw [abs_mul]
      exact Int.mul_le_mul_of_nonneg_right (toInt_abs _) (by decide)
    · rw [abs_mul]
      exact Int.mul_le_mul_of_nonneg_right (toInt_abs _) (by decide)

/-! ## Searching for the RTC's second -/

theorem startSearch_sound (sound : source.Sound stopped) (why : SearchPurpose) :
    (source.startSearch why sourceRtcSearchEpochs).Sound stopped := by
  have driver := Pcf8563.Call.faithful (Pcf8563.setAutoRead_faithful sound.driver
    ((if why = .confirm then SourceRtcActivity.confirming else .searching) == .idle)) .read
  refine ⟨driver, (Pcf8563.Call.autoRead _ .read).trans rfl, ?_, sound.rate, sound.oscillator,
    sound.anchor⟩
  rw [startSearch]
  intro searching
  by_cases confirms : why = .confirm
  · cases confirms
    exact nomatch searching
  · dsimp only [setActivity]
    rw [BitVec.add_comm, BitVec.add_sub_cancel]
    exact ⟨confirms, by decide, by decide⟩

theorem endSearch_sound (sound : source.Sound stopped) (found : Bool) :
    (source.endSearch found).Sound stopped :=
  setActivity_sound (by exact sound) nofun

theorem foundAt_sound (sound : source.Sound stopped) (stamp label resolution : BitVec 32) :
    (source.foundAt stamp label resolution).Sound stopped := by
  rw [foundAt]
  dsimp only
  refine endSearch_sound ?_ true
  split
  · exact learnRate_sound sound stamp label
  · exact sound

theorem takeSample_sound (sound : source.Sound stopped) : source.takeSample.Sound stopped := by
  rw [takeSample]
  dsimp only
  split
  · exact sound
  · split
    · exact foundAt_sound sound ..
    · exact sound

theorem takeReads_sound (sound : source.Sound stopped) : source.takeReads.Sound stopped := by
  rw [takeReads]
  split
  · exact takeSample_sound (by exact sound)
  · exact sound

theorem readOn_sound (sound : source.Sound stopped) : source.readOn.Sound stopped := by
  rw [readOn]
  split
  · exact sound
  · split
    · exact endSearch_sound sound false
    · exact ask_sound sound .read

theorem keepSearching_sound (sound : source.Sound stopped) :
    source.keepSearching.Sound stopped := by
  rw [keepSearching]
  split
  · exact readOn_sound (takeReads_sound sound)
  · exact readOn_sound (takeReads_sound sound)
  · exact takeReads_sound sound

/-! ## Aligned writing -/

theorem abortWrite_sound (sound : source.Sound stopped) : source.abortWrite.Sound stopped := by
  have idle : Sound stopped
      (setActivity
        { source with write := { source.write with attempts := source.write.attempts + 1 } } .idle) :=
    setActivity_sound (by exact sound) nofun
  rw [abortWrite]
  dsimp only
  split <;> exact idle

theorem planWrite_sound (sound : source.Sound stopped) (time : SyncTime) (n : Nat) :
    (source.planWrite time n).Sound stopped :=
  setActivity_sound (rtcChanged_sound (by exact sound)) nofun

theorem beginWrite_sound (sound : source.Sound stopped) (time : SyncTime) :
    (source.beginWrite time).Sound stopped := by
  rw [beginWrite]
  dsimp only
  split
  · exact sound
  · have asked := ask_sound (planWrite_sound sound time (leadSeconds source.releaseDelay))
      (.writeStopped ((source.planWrite time (leadSeconds source.releaseDelay)).write.expectLabel - 1))
    split
    · exact asked
    · exact abortWrite_sound asked

theorem waitRelease_sound (sound : source.Sound stopped) (timebase : BitVec 32) :
    (source.waitRelease timebase).Sound stopped := by
  rw [waitRelease]
  dsimp only
  split
  · exact sound
  · split
    · exact abortWrite_sound sound
    · have asked := ask_sound sound .release
      split
      · exact setActivity_sound (by exact asked) nofun
      · exact abortWrite_sound (by exact asked)

/-! ## Results, at the epoch -/

theorem measureOffset_sound (sound : source.Sound stopped) (time : SyncTime) :
    (source.measureOffset time).Sound stopped := by
  rw [measureOffset]
  split <;> exact sound

theorem missed_sound (sound : source.Sound stopped) (labelOk : Bool) :
    (source.missed labelOk).Sound stopped := by
  rw [missed]
  dsimp only
  split
  · exact sound
  · split <;> exact sound

theorem confirmed_sound (sound : source.Sound stopped) : source.confirmed.Sound stopped := by
  have learnt (write : RtcWrite) (lastWrite : RtcLastWrite) (labelOk : Bool) :
      Sound stopped
        (if labelOk then { source with write := write, lastWrite := lastWrite } else source) := by
    split <;> exact sound
  rw [confirmed]
  dsimp only
  split
  · exact learnt _ _ _
  · exact missed_sound (learnt _ _ _) _

theorem notFound_sound (sound : source.Sound stopped) : source.notFound.Sound stopped := by
  rw [notFound]
  split
  · exact abortWrite_sound sound
  · exact sound

theorem compared_sound (sound : source.Sound stopped) (synchronised : Bool) :
    (source.compared synchronised).Sound stopped := by
  rw [compared]
  dsimp only
  split
  · exact sound
  · split <;> exact sound

theorem useResult_sound (sound : source.Sound stopped) (synchronised : Bool) :
    (source.useResult synchronised).Sound stopped := by
  rw [useResult]
  split
  · exact confirmed_sound sound
  · exact compared_sound sound synchronised
  · split
    · exact checkBy_sound sound _
    · exact sound

theorem measured_sound (sound : source.Sound stopped) (time : SyncTime) (synchronised : Bool)
    (clockBoundNs : Nat) : (source.measured time synchronised clockBoundNs).Sound stopped := by
  rw [measured]
  split
  · exact anchorFound_sound (measureOffset_sound sound time) time clockBoundNs
  · exact measureOffset_sound sound time

theorem searchResult_sound (sound : source.Sound stopped) (time : SyncTime) (synchronised : Bool)
    (clockBoundNs : Nat) : (source.searchResult time synchronised clockBoundNs).Sound stopped := by
  have undone : source.undone.Sound stopped := sound
  rw [searchResult]
  split
  · exact notFound_sound undone
  · exact useResult_sound (measured_sound undone time synchronised clockBoundNs) synchronised

/-! ## The epoch -/

/-- A deadline not reached at a later epoch is nearer there. -/
theorem deadline_nearer {deadline sequence later : BitVec 32}
    (advance : 0 < (later - sequence).toInt) (few : (deadline - sequence).toNat ≤ 4)
    (early : (later - deadline).toInt < 0) :
    1 ≤ (deadline - later).toNat ∧ (deadline - later).toNat < (deadline - sequence).toNat := by
  rw [BitVec.toInt_eq_toNat_cond, BitVec.toNat_sub] at advance early
  rw [BitVec.toNat_sub] at few ⊢
  rw [BitVec.toNat_sub]
  omega

theorem expire_sound (sound : source.Sound stopped) {snapshot : TimingSnapshot}
    (advance : 0 < (snapshot.sequence - source.ourEpoch.sequence).toInt) :
    ((source.takeEpoch snapshot).expire).Sound stopped := by
  have ended : ((source.takeEpoch snapshot).endSearch false).Sound stopped :=
    ⟨Pcf8563.setAutoRead_faithful sound.driver _, rfl, nofun, sound.rate, sound.oscillator,
      sound.anchor⟩
  have taken (other : source.activity ≠ .searching) : (source.takeEpoch snapshot).Sound stopped :=
    ⟨sound.driver, sound.autoRead, fun same => absurd same other, sound.rate, sound.oscillator,
      sound.anchor⟩
  have timed (writes : source.activity ≠ .searching) (due : Bool) :
      Sound stopped
        (if due then (source.takeEpoch snapshot).abortWrite else source.takeEpoch snapshot) := by
    split
    · exact abortWrite_sound (taken writes)
    · exact taken writes
  have searched (due : Bool)
      (onward : due = false → (source.takeEpoch snapshot).Sound stopped) :
      Sound stopped
        (if due then (source.takeEpoch snapshot).endSearch false
        else source.takeEpoch snapshot) := by
    cases due with
    | true => exact ended
    | false => exact onward rfl
  rw [expire]
  split
  · next searching =>
      refine searched _ fun early => ?_
      obtain ⟨purpose, _, few⟩ := sound.search searching
      obtain ⟨some_left, nearer⟩ :=
        deadline_nearer advance few (not_le.mp (of_decide_eq_false early))
      exact ⟨sound.driver, sound.autoRead, fun _ => ⟨purpose, some_left, nearer.le.trans few⟩,
        sound.rate, sound.oscillator, sound.anchor⟩
  · next confirming =>
      exact searched _ fun _ => taken fun searching => nomatch confirming.symm.trans searching
  · next loading => exact timed (fun searching => nomatch loading.symm.trans searching) _
  · next waiting => exact timed (fun searching => nomatch waiting.symm.trans searching) _
  · next releasing => exact timed (fun searching => nomatch releasing.symm.trans searching) _
  · next idle => exact taken fun searching => nomatch idle.symm.trans searching

theorem followClock_sound (sound : source.Sound stopped) (time : SyncTime)
    (synchronised : Bool) : (source.followClock time synchronised).Sound stopped := by
  have checked (epoch : BitVec 32) (due : Bool) :
      Sound stopped (if due then source.checkBy epoch else source) := by
    split
    · exact checkBy_sound sound epoch
    · exact sound
  rw [followClock]
  exact checked _ _

theorem writePlainly_sound (sound : source.Sound stopped) (time : SyncTime)
    (synchronised : Bool) : (source.writePlainly time synchronised).Sound stopped := by
  rw [writePlainly]
  dsimp only
  split
  · exact sound
  · have asked := ask_sound sound (.write time.utcSeconds)
    split
    · exact wrotePlainly_sound asked time.utcSeconds
    · exact asked

theorem foundStopped_sound (sound : source.Sound stopped) : source.foundStopped.Sound stopped := by
  rw [foundStopped]
  dsimp only
  split
  · have asked := ask_sound sound .release
    split
    · exact rtcChanged_sound (by exact asked)
    · exact asked
  · exact ask_sound sound .read

theorem startDue_sound (sound : source.Sound stopped) (synchronised : Bool) :
    (source.startDue synchronised).Sound stopped := by
  rw [startDue]
  dsimp only
  split
  · split
    · exact sound
    · exact startSearch_sound sound _
  · split
    · exact startSearch_sound (by exact sound) _
    · split
      · exact startSearch_sound sound _
      · exact sound

theorem act_sound (sound : source.Sound stopped) (time : SyncTime) (synchronised : Bool) :
    (source.act time synchronised).Sound stopped := by
  rw [act]
  split
  · exact writePlainly_sound sound time synchronised
  · split
    · split
      · exact beginWrite_sound sound time
      · split <;> exact sound
    · split
      · exact foundStopped_sound sound
      · exact startDue_sound sound synchronised

theorem settle_sound (sound : source.Sound stopped) {snapshot : TimingSnapshot}
    (advance : 0 < (snapshot.sequence - source.ourEpoch.sequence).toInt) (time : SyncTime)
    (synchronised : Bool) (boundNs : Nat) :
    (source.settle snapshot time synchronised boundNs).Sound stopped := by
  have expired := expire_sound sound advance
  rw [settle]
  refine followClock_sound ?_ time synchronised
  split
  · exact searchResult_sound expired time synchronised boundNs
  · exact expired

theorem epoch_sound (sound : source.Sound stopped) {snapshot : TimingSnapshot}
    (advance : 0 < (snapshot.sequence - source.ourEpoch.sequence).toInt) (time : SyncTime)
    (synchronised : Bool) (boundNs : Nat) :
    (source.epoch snapshot time synchronised boundNs).Sound stopped := by
  rw [epoch]
  split
  · exact act_sound (settle_sound sound advance ..) time _
  · exact settle_sound sound advance ..

/-! ## The rest of the interface -/

theorem poll_sound (sound : source.Sound stopped) (timebase : BitVec 32) :
    (source.poll timebase).Sound stopped := by
  rw [poll]
  split
  · split
    · exact startSearch_sound sound _
    · exact sound
  · exact keepSearching_sound sound
  · exact keepSearching_sound sound
  · split
    · exact sound
    · split
      · exact setActivity_sound sound nofun
      · exact abortWrite_sound sound
  · exact waitRelease_sound sound timebase
  · split
    · exact sound
    · split
      · exact startSearch_sound sound _
      · exact abortWrite_sound sound

theorem set_sound (sound : source.Sound stopped) (utcSeconds : BitVec 32) :
    (source.set utcSeconds).2.Sound stopped := by
  rw [set]
  split
  · exact sound
  · have asked := ask_sound sound (.write utcSeconds)
    dsimp only
    split
    · exact wrotePlainly_sound asked utcSeconds
    · exact asked

theorem countOne_sound (sound : source.Sound stopped) (epochCapture : BitVec 32)
    {counted : SourceRtc} (counts : source.countOne epochCapture = some counted) :
    counted.Sound stopped := by
  rw [countOne] at counts
  dsimp only at counts
  split at counts
  · exact nomatch counts
  · cases counts
    exact sound

theorem countOn_sound (sound : source.Sound stopped) (epochCapture : BitVec 32) (steps : Nat) :
    (source.countOn epochCapture steps).Sound stopped := by
  induction steps generalizing source with
  | zero => exact sound
  | succ steps ih =>
      rw [countOn]
      split
      · exact sound
      · next counts => exact ih (countOne_sound sound epochCapture counts)

theorem report_sound (sound : source.Sound stopped) (snapshot : TimingSnapshot) :
    (source.report snapshot).2.Sound stopped := by
  have counted := countOn_sound sound snapshot.epochCapture 4
  rw [report]
  dsimp only
  split
  · split <;> exact sound
  · split <;> exact counted

theorem restore_sound (sound : source.Sound stopped) {kept : SourceRtcKept}
    (ranged : kept.anchor.Ranged) : (source.restore kept).Sound stopped := by
  refine ⟨sound.driver, sound.autoRead, sound.search, ?_, sound.oscillator, ranged⟩
  rw [restore]
  dsimp only
  split
  · next valid =>
      have within := of_decide_eq_true (Bool.and_eq_true_iff.mp valid).2
      exact ⟨within.2, within.1⟩
  · exact ⟨by decide, by decide⟩

/-! ## Every run -/

theorem fresh_faithful (nowMs : BitVec 32) :
    Pcf8563.Faithful stopped { lastAttemptMs := nowMs } where
  settled _ waiting := nomatch waiting
  present valid := nomatch valid
  timeValid valid := nomatch valid
  read reading := nomatch reading

theorem init_sound (nowMs : BitVec 32) : (init (Pcf8563.init nowMs)).Sound stopped where
  driver := Pcf8563.setAutoRead_faithful (Pcf8563.Call.faithful (fresh_faithful nowMs) .read) _
  autoRead := rfl
  search searching := nomatch searching
  rate := by
    change -rateLimitQ8 ≤ 0 ∧ 0 ≤ rateLimitQ8
    decide
  oscillator := by
    change -2147483648 ≤ (0 : Int) ∧ (0 : Int) < 2147483648
    decide
  anchor := ⟨abs_zero.le.trans (by decide), (by decide : 0 < 4294967296)⟩

end SourceRtc

namespace World

/-- What the bus does to a transfer on it, the driver bears. -/
theorem carried_faithful {driver : Pcf8563} {stopped after : Bool}
    {transfer : Pcf8563Transfer} {result : I2cResult} {registers : Registers}
    (faithful : driver.Faithful stopped) (waiting : (driver.transfers transfer).done = false)
    (read : transfer = .read → result = .ok → registers.stop = after) (startStamp : BitVec 32) :
    (carried driver transfer result startStamp registers).Faithful after := by
  have waits := faithful.settled transfer waiting
  have status : ∃ registers',
      (carried driver transfer result startStamp registers).status =
        { driver.status with registers := registers' } ∧
        (transfer = .read → registers' = registers) := by
    by_cases reads : transfer = .read
    · exact ⟨registers, by rw [carried, if_pos reads], fun _ => rfl⟩
    · exact ⟨_, by rw [carried, if_neg reads], fun same => absurd same reads⟩
  obtain ⟨registers', status, own⟩ := status
  refine ⟨?_, ?_, ?_, ?_⟩
  · intro other still
    rw [status]
    by_cases same : other = transfer
    · rw [same]
      exact waits
    · rw [carried] at still
      dsimp only at still
      rw [Function.update_of_ne same] at still
      exact faithful.settled other still
  · rw [status]
    exact faithful.present
  · rw [status]
    exact faithful.timeValid
  · rw [status]
    intro reading ok
    dsimp only at reading ⊢
    rw [reading] at waits
    cases waits
    rw [carried] at ok
    dsimp only at ok
    rw [Function.update_self] at ok
    rw [own rfl]
    exact read rfl ok

theorem step_sound {world : World} {act : RtcAct} (sound : world.source.Sound world.stopped)
    (admitted : Admits world act) : (world.step act).source.Sound (world.step act).stopped := by
  cases act with
  | oscillator offsetQ16 =>
      exact ⟨sound.driver, sound.autoRead, sound.search, sound.rate, admitted, sound.anchor⟩
  | report snapshot => exact SourceRtc.report_sound sound snapshot
  | epoch snapshot time synchronised boundNs =>
      exact SourceRtc.epoch_sound sound admitted.1 time synchronised boundNs
  | poll timebase => exact SourceRtc.poll_sound sound timebase
  | set utcSeconds => exact SourceRtc.set_sound sound utcSeconds
  | service nowMs =>
      exact ⟨Pcf8563.service_faithful sound.driver nowMs,
        (Pcf8563.service_autoRead sound.driver.settled nowMs).trans sound.autoRead, sound.search,
        sound.rate, sound.oscillator, sound.anchor⟩
  | bus transfer result taken startStamp registers =>
      obtain ⟨waiting, _, _, ok⟩ := admitted
      refine ⟨carried_faithful sound.driver waiting ?_ startStamp, sound.autoRead,
        sound.search, sound.rate, sound.oscillator, sound.anchor⟩
      intro reads worked
      cases reads
      obtain ⟨_, seen⟩ := ok worked
      rw [step, taking]
      exact (seen rfl).trans (ite_self _).symm

/-- What the driver says is true and the numbers are in range, in every reachable world. -/
theorem sound {world : World} (reached : rtcMachine.Reachable Admits world) :
    world.source.Sound world.stopped := by
  have kept : rtcMachine.Invariant Admits fun world => world.source.Sound world.stopped := by
    refine ⟨?_, fun _ _ sound admitted => step_sound sound admitted⟩
    rintro world ⟨nowMs, kept, ranged, start⟩
    rw [start]
    exact SourceRtc.restore_sound (SourceRtc.init_sound nowMs) ranged
  exact kept.reachable reached

end World

end GpsClock.Rtc
