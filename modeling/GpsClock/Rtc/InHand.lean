import GpsClock.Rtc.Stopped

/-! # An aligned write in hand

From its load to the epoch that acts on its confirming search's result, a write keeps the
landing it was planned for, the delay it assumed between the release and that landing, and
no other write is wanted meanwhile (`GpsClock.Rtc.World.underway`).
-/

namespace GpsClock.Rtc

open GpsClock.Platform GpsClock.Sync GpsClock.Timing

namespace SourceRtc

variable {source after : SourceRtc} {stopped : Bool}

/-! ## A write in hand -/

/-- A write under way, or its confirming search's result still to be acted on. -/
def InHand (source : SourceRtc) : Prop :=
  source.writing = true ∨ source.confirmPending = true

/-- What a write in hand keeps: no other is wanted, and it is expected the delay assumed after
its release. -/
structure Underway (source : SourceRtc) : Prop where
  correction : |source.write.correctionTicks| ≤ sourceRtcCorrectionLimitTicks
  confirming : source.activity = .confirming → source.search.purpose = .confirm
  undone : source.writing = true → source.search.done = false
  wanted : source.InHand → source.write.wanted = false
  plainWanted : source.InHand → source.write.plainWanted = false
  expects : source.InHand →
    source.write.expectStamp = source.write.releaseTarget + BitVec.ofInt 32 source.releaseDelay

theorem not_writing (resting : source.activity = .idle ∨ source.activity = .searching) :
    source.writing = false := by
  rw [writing]
  rcases resting with idle | searching
  · rw [idle]
  · rw [searching]

theorem not_pending (undone : source.search.done = false) : source.confirmPending = false := by
  rw [confirmPending, undone, Bool.false_and]

/-- Nothing in hand. -/
theorem Underway.rests (correction : |source.write.correctionTicks| ≤ sourceRtcCorrectionLimitTicks)
    (resting : source.activity = .idle ∨ source.activity = .searching)
    (settled : source.confirmPending = false) : source.Underway := by
  have none : ¬source.InHand := by
    rintro (writing | pending)
    · exact absurd ((not_writing resting).symm.trans writing) Bool.false_ne_true
    · exact absurd (settled.symm.trans pending) Bool.false_ne_true
  refine ⟨correction, fun confirming => ?_, fun writing => ?_, fun hand => absurd hand none,
    fun hand => absurd hand none, fun hand => absurd hand none⟩
  · rcases resting with idle | searching
    · cases idle.symm.trans confirming
    · cases searching.symm.trans confirming
  · exact absurd (.inl writing) none

/-- The write stays as it was, but for the releases counted when its own was asked for. -/
theorem Underway.onward (underway : source.Underway) (seen : BitVec 32)
    (write : after.write = { source.write with releasesSeen := seen })
    (hand : after.InHand → source.InHand)
    (confirming : after.activity = .confirming → after.search.purpose = .confirm)
    (undone : after.writing = true → after.search.done = false) : after.Underway where
  correction := by
    rw [write]
    exact underway.correction
  confirming := confirming
  undone := undone
  wanted held := by
    rw [write]
    exact underway.wanted (hand held)
  plainWanted held := by
    rw [write]
    exact underway.plainWanted (hand held)
  expects held := by
    rw [releaseDelay, write]
    exact underway.expects (hand held)

/-- Neither the write nor what it is at changes. -/
theorem Underway.same (underway : source.Underway) (write : after.write = source.write)
    (activity : after.activity = source.activity) (done : after.search.done = source.search.done)
    (purpose : after.search.purpose = source.search.purpose) : after.Underway := by
  have writing : after.writing = source.writing := by
    rw [SourceRtc.writing, activity, SourceRtc.writing]
  have pending : after.confirmPending = source.confirmPending := by
    rw [confirmPending, done, purpose, confirmPending]
  refine underway.onward source.write.releasesSeen write ?_ ?_ ?_
  · rw [InHand, writing, pending]
    exact id
  · rw [activity, purpose]
    exact underway.confirming
  · rw [writing, done]
    exact underway.undone

/-! ## Polls -/

theorem abortWrite_underway (underway : source.Underway) (writing : source.writing = true) :
    source.abortWrite.Underway := by
  have correction : source.abortWrite.write.correctionTicks = source.write.correctionTicks := by
    rw [abortWrite]
    dsimp only
    split <;> rfl
  refine .rests ?_ (.inl (abortWrite_activity source)) (not_pending ?_)
  · rw [correction]
    exact underway.correction
  · rw [(abortWrite_leaves source).done]
    exact underway.undone writing

theorem startSearch_underway (underway : source.Underway) (why : SearchPurpose)
    (writing : why = .confirm → source.writing = true) (epochs : BitVec 32) :
    (source.startSearch why epochs).Underway := by
  have undone : (source.startSearch why epochs).search.done = false := rfl
  by_cases confirms : why = .confirm
  · refine underway.onward source.write.releasesSeen rfl (fun _ => .inl (writing confirms))
      (fun _ => confirms) fun _ => undone
  · have searching : (source.startSearch why epochs).activity = .searching := if_neg confirms
    exact .rests underway.correction (.inr searching) (not_pending undone)

theorem learnRate_rate (source : SourceRtc) (stamp label : BitVec 32) :
    ∃ rate, source.learnRate stamp label = { source with rate := rate } := by
  rw [learnRate]
  dsimp only
  split
  · exact ⟨_, rfl⟩
  · split <;> exact ⟨_, rfl⟩

/-- A search looks at the read that finished, and goes on or ends. -/
theorem keepSearching_hand (source : SourceRtc) :
    source.keepSearching.write = source.write ∧
      source.keepSearching.search.purpose = source.search.purpose ∧
      (source.keepSearching.activity = source.activity ∧
          source.keepSearching.search.done = source.search.done ∨
        source.keepSearching.activity = .idle) := by
  have found (source : SourceRtc) (stamp label resolution : BitVec 32) :
      (source.foundAt stamp label resolution).write = source.write ∧
        (source.foundAt stamp label resolution).search.purpose = source.search.purpose ∧
        (source.foundAt stamp label resolution).activity = .idle := by
    obtain ⟨rate, learnt⟩ := learnRate_rate source stamp label
    rw [foundAt, learnt]
    dsimp only
    split <;> exact ⟨rfl, rfl, rfl⟩
  have looked : source.takeReads.write = source.write ∧
      source.takeReads.search.purpose = source.search.purpose ∧
      (source.takeReads.activity = source.activity ∧
          source.takeReads.search.done = source.search.done ∨
        source.takeReads.activity = .idle) := by
    rw [takeReads]
    split
    · rw [takeSample]
      dsimp only
      split
      · exact ⟨rfl, rfl, .inl ⟨rfl, rfl⟩⟩
      · split
        · obtain ⟨write, purpose, idle⟩ := found
            { source with search := { source.search with readsSeen := source.rtc.status.reads } } _ _ _
          exact ⟨write, purpose, .inr idle⟩
        · exact ⟨rfl, rfl, .inl ⟨rfl, rfl⟩⟩
    · exact ⟨rfl, rfl, .inl ⟨rfl, rfl⟩⟩
  have onward (source : SourceRtc) : source.readOn.write = source.write ∧
      source.readOn.search.purpose = source.search.purpose ∧
      (source.readOn.activity = source.activity ∧
          source.readOn.search.done = source.search.done ∨
        source.readOn.activity = .idle) := by
    rw [readOn]
    split
    · exact ⟨rfl, rfl, .inl ⟨rfl, rfl⟩⟩
    · split
      · exact ⟨rfl, rfl, .inr rfl⟩
      · exact ⟨rfl, rfl, .inl ⟨rfl, rfl⟩⟩
  have both : source.takeReads.readOn.write = source.write ∧
      source.takeReads.readOn.search.purpose = source.search.purpose ∧
      (source.takeReads.readOn.activity = source.activity ∧
          source.takeReads.readOn.search.done = source.search.done ∨
        source.takeReads.readOn.activity = .idle) := by
    obtain ⟨write, purpose, ends⟩ := looked
    obtain ⟨write', purpose', ends'⟩ := onward source.takeReads
    refine ⟨write'.trans write, purpose'.trans purpose, ?_⟩
    rcases ends' with ⟨activity', done'⟩ | idle
    · rcases ends with ⟨activity, done⟩ | idle
      · exact .inl ⟨activity'.trans activity, done'.trans done⟩
      · exact .inr (activity'.trans idle)
    · exact .inr idle
  rw [keepSearching]
  split
  · exact both
  · exact both
  · exact looked

/-- A search that ends leaves its result to be acted on, a write in hand only if it confirms. -/
theorem Underway.ends (underway : source.Underway)
    (other : source.activity = .searching → source.search.purpose ≠ .confirm)
    (searching : source.activity = .searching ∨ source.activity = .confirming)
    (idle : after.activity = .idle) (write : after.write = source.write)
    (purpose : after.search.purpose = source.search.purpose) : after.Underway := by
  rcases searching with searching | confirming
  · refine .rests ?_ (.inl idle) ?_
    · rw [write]
      exact underway.correction
    · rw [confirmPending, purpose, beq_eq_false_iff_ne.mpr (other searching),
        Bool.and_false]
  · refine underway.onward source.write.releasesSeen write (fun _ => .inl ?_)
      (fun wrong => by cases idle.symm.trans wrong) fun writing => ?_
    · rw [writing, confirming]
    · exact absurd ((not_writing (.inl idle)).symm.trans writing) Bool.false_ne_true

theorem keepSearching_underway (sound : source.Sound stopped) (underway : source.Underway)
    (searching : source.activity = .searching ∨ source.activity = .confirming) :
    source.keepSearching.Underway := by
  obtain ⟨write, purpose, ends⟩ := keepSearching_hand source
  rcases ends with ⟨activity, done⟩ | idle
  · exact underway.same write activity done purpose
  · exact underway.ends (fun searching => (sound.search searching).1) searching idle write purpose

theorem poll_underway (sound : source.Sound stopped) (underway : source.Underway)
    (timebase : BitVec 32) : (source.poll timebase).Underway := by
  rw [poll]
  split
  · split
    · exact startSearch_underway underway .measure (fun wrong => by cases wrong) _
    · exact underway
  · next searching => exact keepSearching_underway sound underway (.inl searching)
  · next confirming => exact keepSearching_underway sound underway (.inr confirming)
  · next loading =>
      have writing : source.writing = true := by rw [writing, loading]
      split
      · exact underway
      · split
        · exact underway.onward source.write.releasesSeen rfl (fun _ => .inl writing)
            (fun wrong => by cases wrong) fun _ => underway.undone writing
        · exact abortWrite_underway underway writing
  · next waiting =>
      have writing : source.writing = true := by rw [writing, waiting]
      have asked (rtc : Pcf8563) (seen : BitVec 32) : Underway
          { source with write := { source.write with releasesSeen := seen }, rtc := rtc } :=
        underway.onward seen rfl (fun _ => .inl writing) underway.confirming underway.undone
      rw [waitRelease]
      dsimp only
      split
      · exact underway
      · split
        · exact abortWrite_underway underway writing
        · split
          · exact underway.onward source.rtc.status.releases rfl (fun _ => .inl writing)
              (fun wrong => by cases wrong) fun _ => underway.undone writing
          · exact abortWrite_underway (asked _ _) writing
  · next releasing =>
      have writing : source.writing = true := by rw [writing, releasing]
      split
      · exact underway
      · split
        · exact startSearch_underway underway .confirm (fun _ => writing) _
        · exact abortWrite_underway underway writing

/-! ## Epochs -/

theorem expire_underway (underway : source.Underway)
    (other : source.activity = .searching → source.search.purpose ≠ .confirm) :
    source.expire.Underway := by
  rw [expire]
  split
  · next searching =>
      split
      · exact underway.ends other (.inl searching) rfl rfl rfl
      · exact underway
  · next confirming =>
      split
      · exact underway.ends other (.inr confirming) rfl rfl rfl
      · exact underway
  · next loading =>
      split
      · exact abortWrite_underway underway (by rw [writing, loading])
      · exact underway
  · next waiting =>
      split
      · exact abortWrite_underway underway (by rw [writing, waiting])
      · exact underway
  · next releasing =>
      split
      · exact abortWrite_underway underway (by rw [writing, releasing])
      · exact underway
  · exact underway

/-! ## What is learnt of the delay -/

theorem clampCorrection_within (ticks : Int) :
    |clampCorrection ticks| ≤ sourceRtcCorrectionLimitTicks := by
  have positive : 0 ≤ sourceRtcCorrectionLimitTicks := by decide
  rw [clampCorrection]
  split
  · exact (abs_of_nonneg positive).le
  · split
    · rw [abs_neg]
      exact (abs_of_nonneg positive).le
    · next low high => exact abs_le.mpr ⟨not_lt.mp high, not_lt.mp low⟩

theorem missed_correction (source : SourceRtc) (labelOk : Bool) :
    (source.missed labelOk).write.correctionTicks = source.write.correctionTicks := by
  rw [missed]
  dsimp only
  split
  · rfl
  · split <;> rfl

/-- What is learnt of the delay from where the second was found. -/
theorem confirmed_correction (source : SourceRtc) :
    source.confirmed.write.correctionTicks =
      if source.second.label = source.write.expectLabel then
        let error := (source.second.stamp - source.write.expectStamp).toInt
        clampCorrection
          (source.write.correctionTicks +
            if error ≤ sourceRtcAlignToleranceTicks ∧ -sourceRtcAlignToleranceTicks ≤ error then
              error.tdiv 2
            else error)
      else source.write.correctionTicks := by
  rw [confirmed]
  dsimp only
  by_cases same : source.second.label = source.write.expectLabel
  · rw [if_pos same, if_pos (beq_iff_eq.mpr same)]
    generalize (source.second.stamp - source.write.expectStamp).toInt = error
    by_cases within :
        error ≤ sourceRtcAlignToleranceTicks ∧ -sourceRtcAlignToleranceTicks ≤ error
    · rw [if_pos within, decide_eq_true within, beq_iff_eq.mpr same]
      rfl
    · rw [if_neg within, decide_eq_false within, Bool.and_false]
      exact missed_correction _ _
  · have other : (source.second.label == source.write.expectLabel) = false :=
      beq_eq_false_iff_ne.mpr same
    rw [if_neg same, other, Bool.false_and]
    exact missed_correction _ _

theorem measured_same (source : SourceRtc) (time : SyncTime) (synchronised : Bool)
    (clockBoundNs : Nat) :
    ∃ offsetMs anchor, source.measured time synchronised clockBoundNs =
      { source with offsetMs := offsetMs, anchor := anchor } := by
  have offset : ∃ offsetMs, source.measureOffset time = { source with offsetMs := offsetMs } := by
    rw [measureOffset]
    split <;> exact ⟨_, rfl⟩
  obtain ⟨offsetMs, measured⟩ := offset
  rw [SourceRtc.measured, measured]
  split
  · rw [anchorFound]
    split <;> exact ⟨_, _, rfl⟩
  · exact ⟨_, _, rfl⟩

theorem abortWrite_correction (source : SourceRtc) :
    source.abortWrite.write.correctionTicks = source.write.correctionTicks := by
  rw [abortWrite]
  dsimp only
  split <;> rfl

/-- Only a confirming search that found the second changes what is known of the delay. -/
theorem searchResult_correction (source : SourceRtc) (time : SyncTime) (synchronised : Bool)
    (boundNs : Nat) (other : source.search.purpose = .confirm → source.search.found = false) :
    (source.searchResult time synchronised boundNs).write.correctionTicks =
      source.write.correctionTicks := by
  rw [searchResult]
  split
  · rw [notFound]
    split
    · exact abortWrite_correction _
    · rfl
  · next found =>
      have found : source.search.found = true := Bool.not_eq_false' _ ▸ Bool.eq_false_iff.mpr found
      obtain ⟨offsetMs, anchor, measured⟩ := source.undone.measured_same time synchronised boundNs
      rw [measured, useResult]
      split
      · next confirms => exact absurd ((other confirms).symm.trans found) Bool.false_ne_true
      · rw [compared]
        dsimp only
        split
        · rfl
        · split <;> rfl
      · split
        · rw [checkBy]
          split <;> rfl
        · rfl

theorem searchResult_confirmed (confirms : source.search.purpose = .confirm)
    (found : source.search.found = true) (time : SyncTime) (synchronised : Bool) (boundNs : Nat) :
    source.searchResult time synchronised boundNs =
      (source.undone.measured time synchronised boundNs).confirmed := by
  obtain ⟨offsetMs, anchor, measured⟩ := source.undone.measured_same time synchronised boundNs
  rw [searchResult, found, Bool.not_true, if_neg Bool.false_ne_true, measured, useResult]
  dsimp only [undone]
  rw [confirms]

theorem searchResult_within (within : |source.write.correctionTicks| ≤ sourceRtcCorrectionLimitTicks)
    (time : SyncTime) (synchronised : Bool) (boundNs : Nat) :
    |(source.searchResult time synchronised boundNs).write.correctionTicks| ≤
      sourceRtcCorrectionLimitTicks := by
  by_cases confirms : source.search.purpose = .confirm ∧ source.search.found = true
  · obtain ⟨offsetMs, anchor, measured⟩ := source.undone.measured_same time synchronised boundNs
    rw [searchResult_confirmed confirms.1 confirms.2, measured, confirmed_correction]
    split
    · exact clampCorrection_within _
    · exact within
  · rw [searchResult_correction]
    · exact within
    · exact fun confirm => Bool.eq_false_iff.mpr fun found => confirms ⟨confirm, found⟩

theorem followClock_same (source : SourceRtc) (time : SyncTime) (synchronised : Bool) :
    ∃ checks, source.followClock time synchronised = { source with checks := checks } := by
  rw [followClock]
  dsimp only
  split
  · rw [checkBy]
    split <;> exact ⟨_, rfl⟩
  · exact ⟨_, rfl⟩

theorem settle_underway (sound : source.Sound stopped) (underway : source.Underway)
    (snapshot : TimingSnapshot) (time : SyncTime) (synchronised : Bool) (boundNs : Nat) :
    (source.settle snapshot time synchronised boundNs).Underway ∧
      (source.settle snapshot time synchronised boundNs).search.done = false := by
  have expired' : (source.takeEpoch snapshot).expire.Underway :=
    @expire_underway (source.takeEpoch snapshot) (underway.same rfl rfl rfl rfl)
      fun searching => (sound.search searching).1
  rw [settle]
  generalize (source.takeEpoch snapshot).expire = expired at expired' ⊢
  have followed (source : SourceRtc) (underway : source.Underway)
      (undone : source.search.done = false) :
      (source.followClock time synchronised).Underway ∧
        (source.followClock time synchronised).search.done = false := by
    obtain ⟨checks, same⟩ := followClock_same source time synchronised
    rw [same]
    exact ⟨underway.same rfl rfl rfl rfl, undone⟩
  by_cases done : expired.search.done = true
  · have quiet : expired.writing = false := Bool.eq_false_iff.mpr fun writing =>
      Bool.false_ne_true ((expired'.undone writing).symm.trans done)
    obtain ⟨activity, offsetMs, anchor, either, -, -, -, result⟩ :=
      searchResult_core expired time synchronised boundNs
    have undone : (expired.searchResult time synchronised boundNs).search.done = false :=
      congrArg RtcCore.done result
    have active : (expired.searchResult time synchronised boundNs).activity = activity :=
      congrArg RtcCore.activity result
    rw [if_pos done]
    refine followed _ (.rests (searchResult_within expired'.correction _ _ _) ?_ (not_pending undone))
      undone
    rw [active]
    rcases either with same | idle
    · rw [same]
      exact idle_or_searching quiet
    · exact .inl idle
  · rw [if_neg done]
    exact followed expired expired' (Bool.eq_false_iff.mpr done)

/-! ## What a free source does -/

theorem writePlainly_correction (source : SourceRtc) (time : SyncTime) (synchronised : Bool) :
    (source.writePlainly time synchronised).write.correctionTicks = source.write.correctionTicks := by
  rw [writePlainly]
  dsimp only
  split
  · rfl
  · split <;> rfl

theorem planWrite_underway (underway : source.Underway) (undone : source.search.done = false)
    (plain : source.write.plainWanted = false) (time : SyncTime) (n : Nat) :
    (source.planWrite time n).Underway where
  correction := underway.correction
  confirming wrong := by cases wrong
  undone _ := undone
  wanted _ := rfl
  plainWanted _ := plain
  expects _ := by
    change _ = _ - BitVec.ofInt 32 _ + BitVec.ofInt 32 source.releaseDelay
    rw [BitVec.sub_add_cancel]
    rfl

theorem beginWrite_underway (underway : source.Underway) (idle : source.activity = .idle)
    (undone : source.search.done = false) (plain : source.write.plainWanted = false)
    (time : SyncTime) : (source.beginWrite time).Underway := by
  rw [beginWrite]
  dsimp only
  split
  · exact .rests underway.correction (.inl idle) (not_pending undone)
  · have planned (rtc : Pcf8563) : Underway
        { source.planWrite time (leadSeconds source.releaseDelay) with rtc := rtc } :=
      (planWrite_underway underway undone plain time _).same rfl rfl rfl rfl
    split
    · exact planned _
    · exact abortWrite_underway (planned _) rfl

theorem foundStopped_underway (underway : source.Underway) :
    source.foundStopped.Underway := by
  rw [foundStopped]
  split
  · dsimp only
    split
    · exact underway.same rfl rfl rfl rfl
    · exact underway.same rfl rfl rfl rfl
  · exact underway.same rfl rfl rfl rfl

theorem startDue_underway (underway : source.Underway) (idle : source.activity = .idle)
    (undone : source.search.done = false) (synchronised : Bool) :
    (source.startDue synchronised).Underway := by
  rw [startDue]
  dsimp only
  split
  · split
    · exact .rests underway.correction (.inl idle) (not_pending undone)
    · exact startSearch_underway underway .check (fun wrong => by cases wrong) _
  · split
    · have rated : Underway { source with checks := { source.checks with rateDue := false } } :=
        underway.same rfl rfl rfl rfl
      exact startSearch_underway rated .measure (fun wrong => by cases wrong) _
    · split
      · exact startSearch_underway underway .measure (fun wrong => by cases wrong) _
      · exact underway

theorem act_underway (underway : source.Underway) (idle : source.activity = .idle)
    (undone : source.search.done = false) (time : SyncTime) (synchronised : Bool) :
    (source.act time synchronised).Underway := by
  rw [act]
  split
  · have faces := writePlainly_faces idle time synchronised
    refine .rests ?_ (.inl faces.activity) (not_pending (faces.done.trans undone))
    rw [writePlainly_correction]
    exact underway.correction
  · next plain =>
      have plain := Bool.eq_false_iff.mpr plain
      split
      · split
        · exact beginWrite_underway underway idle undone plain time
        · split
          · exact .rests underway.correction (.inl idle) (not_pending undone)
          · exact underway
      · split
        · exact foundStopped_underway underway
        · exact startDue_underway underway idle undone synchronised

theorem epoch_underway (sound : source.Sound stopped) (underway : source.Underway)
    (snapshot : TimingSnapshot) (time : SyncTime) (synchronised : Bool) (boundNs : Nat) :
    (source.epoch snapshot time synchronised boundNs).Underway := by
  obtain ⟨settled, undone⟩ := settle_underway sound underway snapshot time
    (synchronised && time.known && !time.leapSecond) boundNs
  rw [epoch]
  split
  · next free =>
      have idle := (Bool.and_eq_true_iff.mp (Bool.and_eq_true_iff.mp free).1).1
      exact act_underway settled (eq_of_beq idle) undone time _
  · exact settled

theorem set_underway (underway : source.Underway) (utcSeconds : BitVec 32) :
    (source.set utcSeconds).2.Underway := by
  rw [set]
  split
  · exact underway
  · next idle =>
      have idle := not_not.mp idle
      dsimp only
      split
      · refine ⟨underway.correction, underway.confirming, underway.undone, fun _ => rfl,
          fun _ => rfl, underway.expects⟩
      · exact underway.same rfl rfl rfl rfl

/-! ## What leaves the delay as it is known -/

theorem expire_correction (source : SourceRtc) :
    source.expire.write.correctionTicks = source.write.correctionTicks := by
  have searched (due : Bool) :
      (if due then source.endSearch false else source).write.correctionTicks =
        source.write.correctionTicks := by
    split <;> rfl
  have written (due : Bool) :
      (if due then source.abortWrite else source).write.correctionTicks =
        source.write.correctionTicks := by
    split
    · exact abortWrite_correction source
    · rfl
  rw [expire]
  split
  · exact searched _
  · exact searched _
  · exact written _
  · exact written _
  · exact written _
  · rfl

/-- Whether an epoch acts on a confirming search's result. -/
def confirmsAt (source : SourceRtc) (snapshot : TimingSnapshot) : Bool :=
  source.acts snapshot && source.search.purpose == .confirm

theorem settle_correction (source : SourceRtc) (snapshot : TimingSnapshot) (time : SyncTime)
    (synchronised : Bool) (boundNs : Nat) (other : source.confirmsAt snapshot = false) :
    (source.settle snapshot time synchronised boundNs).write.correctionTicks =
      source.write.correctionTicks := by
  have purpose : (source.takeEpoch snapshot).expire.search.purpose = source.search.purpose := by
    obtain ⟨activity, done, found, -, -, expired⟩ := expire_core (source.takeEpoch snapshot)
    exact congrArg RtcCore.purpose expired
  have kept := expire_correction (source.takeEpoch snapshot)
  have same : source.confirmsAt snapshot =
      ((source.takeEpoch snapshot).expire.search.done &&
        (source.takeEpoch snapshot).expire.search.found &&
        (source.takeEpoch snapshot).expire.search.purpose == .confirm) := by
    rw [confirmsAt, purpose]
    rfl
  rw [same] at other
  rw [settle]
  generalize (source.takeEpoch snapshot).expire = expired at other kept ⊢
  have followed (source : SourceRtc) :
      (source.followClock time synchronised).write.correctionTicks =
        source.write.correctionTicks := by
    obtain ⟨checks, same⟩ := followClock_same source time synchronised
    rw [same]
  rw [followed]
  split
  · next done =>
      rw [searchResult_correction]
      · exact kept
      · intro confirms
        rwa [done, Bool.true_and, confirms, beq_self_eq_true, Bool.and_true] at other
  · exact kept

theorem act_correction (source : SourceRtc) (time : SyncTime) (synchronised : Bool) :
    (source.act time synchronised).write.correctionTicks = source.write.correctionTicks := by
  rw [act]
  split
  · exact writePlainly_correction source time synchronised
  · split
    · split
      · rw [beginWrite]
        dsimp only
        split
        · rfl
        · split
          · rfl
          · exact abortWrite_correction _
      · split
        · rfl
        · rfl
    · split
      · rw [foundStopped]
        split
        · dsimp only
          split <;> rfl
        · rfl
      · rw [startDue]
        dsimp only
        split
        · split <;> rfl
        · split
          · rfl
          · split <;> rfl

theorem epoch_correction (source : SourceRtc) (snapshot : TimingSnapshot) (time : SyncTime)
    (synchronised : Bool) (boundNs : Nat) (other : source.confirmsAt snapshot = false) :
    (source.epoch snapshot time synchronised boundNs).write.correctionTicks =
      source.write.correctionTicks := by
  rw [epoch]
  split
  · rw [act_correction]
    exact settle_correction source snapshot time _ boundNs other
  · exact settle_correction source snapshot time _ boundNs other

theorem poll_correction (source : SourceRtc) (timebase : BitVec 32) :
    (source.poll timebase).write.correctionTicks = source.write.correctionTicks := by
  have searched : source.keepSearching.write.correctionTicks = source.write.correctionTicks :=
    congrArg RtcWrite.correctionTicks (keepSearching_hand source).1
  rw [poll]
  split
  · split <;> rfl
  · exact searched
  · exact searched
  · split
    · rfl
    · split
      · rfl
      · exact abortWrite_correction source
  · rw [waitRelease]
    dsimp only
    split
    · rfl
    · split
      · exact abortWrite_correction source
      · split
        · rfl
        · exact abortWrite_correction _
  · split
    · rfl
    · split
      · rfl
      · exact abortWrite_correction source

end SourceRtc

namespace World

/-- Whether an act confirms an aligned write, or finds it has missed. -/
def Confirms (world : World) : RtcAct → Prop
  | .epoch snapshot _ _ _ => world.source.confirmsAt snapshot = true
  | _ => False

theorem step_correction (world : World) {act : RtcAct} (other : ¬world.Confirms act) :
    (world.step act).source.write.correctionTicks = world.source.write.correctionTicks := by
  cases act with
  | oscillator offsetQ16 => rfl
  | report snapshot =>
      obtain ⟨second, counted⟩ := world.source.report_second snapshot
      exact congrArg (fun source => source.write.correctionTicks) counted
  | epoch snapshot time synchronised boundNs =>
      exact SourceRtc.epoch_correction _ snapshot time synchronised boundNs
        (Bool.eq_false_iff.mpr other)
  | poll timebase => exact SourceRtc.poll_correction _ timebase
  | set utcSeconds =>
      change (world.source.set utcSeconds).2.write.correctionTicks = _
      rw [SourceRtc.set]
      split
      · rfl
      · dsimp only
        split <;> rfl
  | service nowMs => rfl
  | bus transfer result taken startStamp registers => rfl

theorem step_underway {world : World} (sound : world.source.Sound world.stopped)
    (underway : world.source.Underway) (act : RtcAct) : (world.step act).source.Underway := by
  cases act with
  | oscillator offsetQ16 => exact underway.same rfl rfl rfl rfl
  | report snapshot =>
      obtain ⟨second, counted⟩ := world.source.report_second snapshot
      change (world.source.report snapshot).2.Underway
      rw [counted]
      exact underway.same rfl rfl rfl rfl
  | epoch snapshot time synchronised boundNs =>
      exact SourceRtc.epoch_underway sound underway snapshot time synchronised boundNs
  | poll timebase => exact SourceRtc.poll_underway sound underway timebase
  | set utcSeconds => exact SourceRtc.set_underway underway utcSeconds
  | service nowMs => exact underway.same rfl rfl rfl rfl
  | bus transfer result taken startStamp registers => exact underway.same rfl rfl rfl rfl

/-- What every reachable state keeps of a write in hand. -/
theorem underway {world : World} (reached : rtcMachine.Reachable Admits world) :
    world.source.Sound world.stopped ∧ world.source.Underway := by
  have invariant : rtcMachine.Invariant Admits fun world =>
      world.source.Sound world.stopped ∧ world.source.Underway := by
    refine ⟨fun world start => ⟨World.sound (.start start), ?_⟩, fun world act valid admitted => ?_⟩
    · obtain ⟨nowMs, kept, -, starts⟩ := start
      rw [starts]
      refine .rests ?_ (.inl rfl) rfl
      change |(0 : Int)| ≤ sourceRtcCorrectionLimitTicks
      decide
    · exact ⟨step_sound valid.1 admitted, step_underway valid.1 valid.2 act⟩
  exact invariant.reachable reached

end World

end GpsClock.Rtc
