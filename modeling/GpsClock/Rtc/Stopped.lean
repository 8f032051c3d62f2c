import GpsClock.Lib.Response
import GpsClock.Rtc.Acts

/-! # Never left stopped and forgotten

An aligned write stops the chip, and may be given up at any of its steps. Whatever the bus
and the synchronisation do, a stopped chip is then being written, waits for a write, or
is found: its status says so after the next read, and within six epochs at which the
source is free to act on a valid calendar a release is submitted
(`GpsClock.Rtc.World.never_forgotten`). A search in progress, a release tried before and
a search's result not yet acted on can each put it off, and the rank counts them.
-/

namespace GpsClock.Rtc

open GpsClock.Platform GpsClock.Sync GpsClock.Timing

namespace SourceRtc

/-- A write in hand or wanted, or a release on its way. -/
def Attended (source : SourceRtc) : Prop :=
  source.writing = true ∨ source.write.wanted = true ∨ source.write.plainWanted = true ∨
    source.rtc.status.request = .releasing

/-- The epochs a search has left before it is given up, less its last. -/
def searchLeft (source : SourceRtc) : Nat :=
  if source.activity = .searching then
    (source.search.deadline - source.ourEpoch.sequence).toNat - 1
  else 0

/-- A confirming search's result, not yet acted on. -/
def confirmPending (source : SourceRtc) : Bool :=
  source.search.done && source.search.purpose == .confirm

/-- What can put a release off. -/
def rank (source : SourceRtc) : Nat :=
  source.searchLeft + source.stoppedReleased.toNat + source.confirmPending.toNat

variable {source after : SourceRtc} {stopped : Bool}

theorem rank_le (sound : source.Sound stopped) : source.rank ≤ 5 := by
  have left : source.searchLeft ≤ 3 := by
    rw [searchLeft]
    split
    · next searching =>
        obtain ⟨_, _, few⟩ := sound.search searching
        exact Nat.sub_le_sub_right few 1
    · exact Nat.zero_le _
  exact Nat.add_le_add (Nat.add_le_add left (Bool.toNat_le _)) (Bool.toNat_le _)

/-! ## What acting on a search's result leaves alone -/

/-- The rest of what a stopped chip depends on. -/
structure Leaves (source after : SourceRtc) : Prop where
  status : after.rtc.status = source.rtc.status
  released : after.stoppedReleased = source.stoppedReleased
  purpose : after.search.purpose = source.search.purpose
  deadline : after.search.deadline = source.search.deadline
  sequence : after.ourEpoch.sequence = source.ourEpoch.sequence
  done : after.search.done = source.search.done

theorem Leaves.trans {middle : SourceRtc} (first : Leaves source middle)
    (second : Leaves middle after) : Leaves source after where
  status := second.status.trans first.status
  released := second.released.trans first.released
  purpose := second.purpose.trans first.purpose
  deadline := second.deadline.trans first.deadline
  sequence := second.sequence.trans first.sequence
  done := second.done.trans first.done

theorem Leaves.refl (source : SourceRtc) : Leaves source source := ⟨rfl, rfl, rfl, rfl, rfl, rfl⟩

/-- As `Leaves`, with the activity and the writes wanted but for one a check decides on. -/
structure LeavesWrites (synchronised : Bool) (source after : SourceRtc) : Prop
    extends Leaves source after where
  activity : after.activity = source.activity
  plainWanted : after.write.plainWanted = source.write.plainWanted
  wanted : after.write.wanted = source.write.wanted ∨ synchronised = true

theorem LeavesWrites.refl (synchronised : Bool) (source : SourceRtc) :
    LeavesWrites synchronised source source :=
  ⟨.refl source, rfl, rfl, .inl rfl⟩

theorem LeavesWrites.trans {synchronised : Bool} {middle : SourceRtc}
    (first : LeavesWrites synchronised source middle)
    (second : LeavesWrites synchronised middle after) :
    LeavesWrites synchronised source after where
  toLeaves := first.toLeaves.trans second.toLeaves
  activity := second.activity.trans first.activity
  plainWanted := second.plainWanted.trans first.plainWanted
  wanted := by
    rcases second.wanted with same | now
    · rcases first.wanted with same' | now
      · exact .inl (same.trans same')
      · exact .inr now
    · exact .inr now

theorem abortWrite_leaves (source : SourceRtc) : Leaves source source.abortWrite := by
  rw [abortWrite]
  dsimp only
  split <;> exact ⟨rfl, rfl, rfl, rfl, rfl, rfl⟩

theorem abortWrite_activity (source : SourceRtc) : source.abortWrite.activity = .idle := by
  rw [abortWrite]
  dsimp only
  split <;> rfl

theorem missed_leaves (source : SourceRtc) (labelOk : Bool) :
    Leaves source (source.missed labelOk) ∧ (source.missed labelOk).activity = source.activity := by
  rw [missed]
  dsimp only
  split
  · exact ⟨⟨rfl, rfl, rfl, rfl, rfl, rfl⟩, rfl⟩
  · split <;> exact ⟨⟨rfl, rfl, rfl, rfl, rfl, rfl⟩, rfl⟩

theorem confirmed_leaves (source : SourceRtc) :
    Leaves source source.confirmed ∧ source.confirmed.activity = source.activity := by
  have learnt (write : RtcWrite) (lastWrite : RtcLastWrite) (labelOk : Bool) :
      let learnt :=
        if labelOk then { source with write := write, lastWrite := lastWrite } else source
      Leaves source learnt ∧ learnt.activity = source.activity := by
    dsimp only
    split <;> exact ⟨⟨rfl, rfl, rfl, rfl, rfl, rfl⟩, rfl⟩
  rw [confirmed]
  dsimp only
  split
  · obtain ⟨leaves, activity⟩ := learnt _ _ _
    exact ⟨leaves.trans ⟨rfl, rfl, rfl, rfl, rfl, rfl⟩, activity⟩
  · obtain ⟨leaves, activity⟩ := learnt _ _ _
    obtain ⟨onward, same⟩ := missed_leaves _ _
    exact ⟨leaves.trans onward, same.trans activity⟩

theorem checkBy_leaves (synchronised : Bool) (source : SourceRtc) (epoch : BitVec 32) :
    LeavesWrites synchronised source (source.checkBy epoch) := by
  rw [checkBy]
  split <;> exact ⟨⟨rfl, rfl, rfl, rfl, rfl, rfl⟩, rfl, rfl, .inl rfl⟩

theorem followClock_leaves (decides : Bool) (source : SourceRtc) (time : SyncTime)
    (synchronised : Bool) :
    LeavesWrites decides source (source.followClock time synchronised) := by
  have checked (epoch : BitVec 32) (due : Bool) :
      LeavesWrites decides source (if due then source.checkBy epoch else source) := by
    split
    · exact checkBy_leaves decides source epoch
    · exact .refl decides source
  rw [followClock]
  exact (checked _ _).trans ⟨⟨rfl, rfl, rfl, rfl, rfl, rfl⟩, rfl, rfl, .inl rfl⟩

theorem notFound_leaves (source : SourceRtc) (synchronised : Bool) (other : source.search.purpose ≠ .confirm) :
    LeavesWrites synchronised source source.notFound := by
  rw [notFound]
  split
  · next confirms => exact absurd confirms other
  · exact ⟨⟨rfl, rfl, rfl, rfl, rfl, rfl⟩, rfl, rfl, .inl rfl⟩

theorem compared_leaves (source : SourceRtc) (synchronised : Bool) :
    LeavesWrites synchronised source (source.compared synchronised) := by
  rw [compared]
  dsimp only
  split
  · exact ⟨⟨rfl, rfl, rfl, rfl, rfl, rfl⟩, rfl, rfl, .inl rfl⟩
  · split
    · next decides =>
        exact ⟨⟨rfl, rfl, rfl, rfl, rfl, rfl⟩, rfl, rfl, .inr (Bool.and_eq_true_iff.mp decides).1⟩
    · exact ⟨⟨rfl, rfl, rfl, rfl, rfl, rfl⟩, rfl, rfl, .inl rfl⟩

theorem useResult_leaves (synchronised : Bool) (other : source.search.purpose ≠ .confirm) :
    LeavesWrites synchronised source (source.useResult synchronised) := by
  rw [useResult]
  split
  · next confirms => exact absurd confirms other
  · exact compared_leaves source synchronised
  · split
    · exact checkBy_leaves synchronised source _
    · exact .refl synchronised source

theorem measured_leaves (source : SourceRtc) (time : SyncTime) (synchronised : Bool)
    (clockBoundNs : Nat) :
    LeavesWrites synchronised source (source.measured time synchronised clockBoundNs) := by
  have offset : LeavesWrites synchronised source (source.measureOffset time) := by
    rw [measureOffset]
    split <;> exact ⟨⟨rfl, rfl, rfl, rfl, rfl, rfl⟩, rfl, rfl, .inl rfl⟩
  rw [measured]
  split
  · refine offset.trans ?_
    rw [anchorFound]
    split <;> exact ⟨⟨rfl, rfl, rfl, rfl, rfl, rfl⟩, rfl, rfl, .inl rfl⟩
  · exact offset

/-- A result of any but a confirming search leaves all but a write it decides on. -/
theorem searchResult_leaves (other : source.search.purpose ≠ .confirm) (time : SyncTime)
    (synchronised : Bool) (clockBoundNs : Nat) :
    LeavesWrites synchronised source.undone
      (source.searchResult time synchronised clockBoundNs) := by
  have measured := measured_leaves source.undone time synchronised clockBoundNs
  rw [searchResult]
  split
  · exact notFound_leaves source.undone synchronised other
  · exact measured.trans (useResult_leaves synchronised (measured.purpose.trans_ne other))

/-- A confirming search's result leaves an idle source idle. -/
theorem searchResult_confirm (confirms : source.search.purpose = .confirm)
    (idle : source.activity = .idle) (time : SyncTime) (synchronised : Bool) (clockBoundNs : Nat) :
    Leaves source.undone (source.searchResult time synchronised clockBoundNs) ∧
      (source.searchResult time synchronised clockBoundNs).activity = .idle := by
  have measured := measured_leaves source.undone time synchronised clockBoundNs
  rw [searchResult]
  split
  · have aborted : source.undone.notFound = source.undone.abortWrite := by
      rw [notFound]
      simp only [undone, confirms]
    rw [aborted]
    exact ⟨abortWrite_leaves _, abortWrite_activity _⟩
  · have confirming := measured.purpose.trans confirms
    obtain ⟨leaves, activity⟩ :=
      confirmed_leaves (source.undone.measured time synchronised clockBoundNs)
    rw [useResult]
    simp only [confirming]
    exact ⟨measured.toLeaves.trans leaves, activity.trans (measured.activity.trans idle)⟩

/-! ## An epoch, up to whether there is anything to do -/

/-- Where an unattended source stands after an epoch's start: its search ended or nearer
its end, and a write wanted only by a clock that can give the time, unless it was a
confirming search's result that was acted on. -/
structure Starts (synchronised : Bool) (source after : SourceRtc) : Prop where
  status : after.rtc.status = source.rtc.status
  released : after.stoppedReleased = source.stoppedReleased
  done : after.search.done = false
  activity : after.activity = .idle ∨
    after.activity = .searching ∧ after.searchLeft < source.searchLeft
  writes : source.confirmPending = true ∨
    after.write.plainWanted = false ∧ (after.write.wanted = true → synchronised = true)

theorem idle_or_searching (quiet : source.writing = false) :
    source.activity = .idle ∨ source.activity = .searching := by
  rw [writing] at quiet
  cases activity : source.activity with
  | idle => exact .inl rfl
  | searching => exact .inr rfl
  | loading => exact nomatch activity ▸ quiet
  | waiting => exact nomatch activity ▸ quiet
  | releasing => exact nomatch activity ▸ quiet
  | confirming => exact nomatch activity ▸ quiet

theorem not_attended (unattended : ¬source.Attended) :
    (source.activity = .idle ∨ source.activity = .searching) ∧ source.write.wanted = false ∧
      source.write.plainWanted = false ∧ source.rtc.status.request ≠ .releasing := by
  obtain ⟨quiet, unwanted, unplain, unreleased⟩ :
      ¬source.writing = true ∧ ¬source.write.wanted = true ∧ ¬source.write.plainWanted = true ∧
        ¬source.rtc.status.request = .releasing := by
    simpa only [Attended, not_or] using unattended
  exact ⟨idle_or_searching (Bool.eq_false_iff.mpr quiet), Bool.eq_false_iff.mpr unwanted,
    Bool.eq_false_iff.mpr unplain, unreleased⟩

/-- What an epoch's start has done before any search's result: the search ended, or
nearer its end. -/
structure Expires (source after : SourceRtc) : Prop where
  status : after.rtc.status = source.rtc.status
  released : after.stoppedReleased = source.stoppedReleased
  write : after.write = source.write
  pending : after.confirmPending = true → source.confirmPending = true
  activity : after.activity = .idle ∨
    after.activity = .searching ∧ after.search.purpose ≠ .confirm ∧
      after.searchLeft < source.searchLeft

theorem expire_idle (idle : source.activity = .idle) (snapshot : TimingSnapshot) :
    (source.takeEpoch snapshot).expire = source.takeEpoch snapshot := by
  rw [expire]
  simp only [show (source.takeEpoch snapshot).activity = .idle from idle]

theorem expire_expires (sound : source.Sound stopped) (unattended : ¬source.Attended)
    {snapshot : TimingSnapshot}
    (advance : 0 < (snapshot.sequence - source.ourEpoch.sequence).toInt) :
    Expires source (source.takeEpoch snapshot).expire := by
  rcases (not_attended unattended).1 with idle | searching
  · rw [expire_idle idle snapshot]
    exact ⟨rfl, rfl, rfl, id, .inl idle⟩
  · obtain ⟨other, some_left, few⟩ := sound.search searching
    have ends : (source.takeEpoch snapshot).expire =
        if (source.takeEpoch snapshot).epochReached source.search.deadline then
          (source.takeEpoch snapshot).endSearch false
        else source.takeEpoch snapshot := by
      rw [expire]
      simp only [show (source.takeEpoch snapshot).activity = .searching from searching]
      rfl
    rw [ends]
    split
    · refine ⟨rfl, rfl, rfl, fun pending => ?_, .inl rfl⟩
      exact absurd (eq_of_beq (Bool.and_eq_true_iff.mp pending).2) other
    · next early =>
        have before : (snapshot.sequence - source.search.deadline).toInt < 0 :=
          not_le.mp (of_decide_eq_false (Bool.eq_false_iff.mpr early))
        obtain ⟨still, nearer⟩ := deadline_nearer advance few before
        refine ⟨rfl, rfl, rfl, id, .inr ⟨searching, other, ?_⟩⟩
        have left : (source.takeEpoch snapshot).searchLeft =
            (source.search.deadline - snapshot.sequence).toNat - 1 := if_pos searching
        rw [left, searchLeft, if_pos searching]
        omega

theorem LeavesWrites.searchLeft {synchronised : Bool}
    (leaves : LeavesWrites synchronised source after) : after.searchLeft = source.searchLeft := by
  rw [SourceRtc.searchLeft, SourceRtc.searchLeft, leaves.activity, leaves.deadline,
    leaves.sequence]

theorem Starts.onward {synchronised : Bool} {middle : SourceRtc}
    (starts : Starts synchronised source middle) (leaves : LeavesWrites synchronised middle after) :
    Starts synchronised source after where
  status := leaves.status.trans starts.status
  released := leaves.released.trans starts.released
  done := leaves.done.trans starts.done
  activity := by
    rw [leaves.activity, leaves.searchLeft]
    exact starts.activity
  writes := by
    refine starts.writes.imp_right fun ⟨unplain, timed⟩ => ⟨leaves.plainWanted.trans unplain, ?_⟩
    intro wanted
    rcases leaves.wanted with same | now
    · exact timed (same ▸ wanted)
    · exact now

theorem result_starts {expired : SourceRtc} (expires : Expires source expired)
    (unattended : ¬source.Attended) (time : SyncTime) (synchronised : Bool) (boundNs : Nat) :
    Starts synchronised source
      (if expired.search.done then expired.searchResult time synchronised boundNs
      else expired) := by
  obtain ⟨_, unwanted, unplain, _⟩ := not_attended unattended
  have activity : expired.activity = .idle ∨
      expired.activity = .searching ∧ expired.searchLeft < source.searchLeft :=
    expires.activity.imp_right fun ⟨searching, _, nearer⟩ => ⟨searching, nearer⟩
  have writes : expired.write.plainWanted = false ∧
      (expired.write.wanted = true → synchronised = true) := by
    rw [expires.write]
    exact ⟨unplain, fun wanted => absurd wanted (unwanted ▸ Bool.false_ne_true)⟩
  by_cases done : expired.search.done = true
  · rw [if_pos done]
    by_cases confirms : expired.search.purpose = .confirm
    · have idle : expired.activity = .idle :=
        expires.activity.resolve_right fun ⟨_, other, _⟩ => other confirms
      obtain ⟨leaves, stays⟩ := searchResult_confirm confirms idle time synchronised boundNs
      have pending : expired.confirmPending = true := by
        rw [confirmPending, done, confirms]
        rfl
      exact ⟨leaves.status.trans expires.status, leaves.released.trans expires.released, leaves.done,
        .inl stays, .inl (expires.pending pending)⟩
    · have taken : Starts synchronised source expired.undone :=
        ⟨expires.status, expires.released, rfl, activity, .inr writes⟩
      exact taken.onward (searchResult_leaves confirms time synchronised boundNs)
  · rw [if_neg done]
    exact ⟨expires.status, expires.released, Bool.eq_false_iff.mpr done, activity, .inr writes⟩

theorem settle_starts (sound : source.Sound stopped) (unattended : ¬source.Attended)
    {snapshot : TimingSnapshot}
    (advance : 0 < (snapshot.sequence - source.ourEpoch.sequence).toInt) (time : SyncTime)
    (synchronised : Bool) (boundNs : Nat) :
    Starts synchronised source (source.settle snapshot time synchronised boundNs) := by
  have expires := expire_expires sound unattended advance
  exact (result_starts expires unattended time synchronised boundNs).onward
    (followClock_leaves synchronised _ time synchronised)

/-! ## What an idle source does about a stopped chip -/

/-- An idle source whose chip is seen stopped: what it is left with. -/
structure Faces (source after : SourceRtc) : Prop where
  activity : after.activity = .idle
  done : after.search.done = source.search.done
  seen : after.rtc.status.stopped = source.rtc.status.stopped
  released : after.stoppedReleased = true → source.stoppedReleased = true

theorem Faces.rank (faces : Faces source after) (done : source.search.done = false) :
    after.rank = after.stoppedReleased.toNat := by
  rw [SourceRtc.rank, searchLeft, confirmPending, faces.activity, faces.done, done]
  simp

theorem writePlainly_faces (idle : source.activity = .idle) (time : SyncTime)
    (synchronised : Bool) : Faces source (source.writePlainly time synchronised) := by
  have same := Pcf8563.Call.stopped_eq source.rtc (.write time.utcSeconds)
  rw [writePlainly]
  dsimp only
  split
  · exact ⟨idle, rfl, rfl, id⟩
  · split <;> exact ⟨idle, rfl, same, id⟩

theorem beginWrite_attended (source : SourceRtc) (time : SyncTime) :
    (source.beginWrite time).Attended := by
  have aborted (source : SourceRtc) : source.abortWrite.Attended := by
    rw [abortWrite]
    dsimp only
    split
    · exact .inr (.inl rfl)
    · exact .inr (.inr (.inl rfl))
  rw [beginWrite]
  dsimp only
  split
  · exact .inr (.inl rfl)
  · split
    · exact .inl rfl
    · exact aborted _

/-- Found stopped: a release is submitted, or, after an earlier one, a read. -/
theorem foundStopped_spec (sound : source.Sound stopped) (free : source.rtc.busy = false)
    (idle : source.activity = .idle) :
    (source.stoppedReleased = false → source.foundStopped.rtc.status.request = .releasing) ∧
      (source.stoppedReleased = true →
        source.foundStopped.rtc.status.request = .reading ∧
          source.foundStopped.stoppedReleased = false ∧ Faces source source.foundStopped) := by
  obtain ⟨releases, released⟩ := Pcf8563.release_accepted sound.driver.settled free
  obtain ⟨reads, reading⟩ := Pcf8563.read_accepted sound.driver.settled free
  constructor
  · intro untried
    have submitted : source.rtc.release.2.status.request = .releasing := by
      rw [releases, Pcf8563.start_accepted sound.driver.settled free]
    rw [foundStopped, untried, if_pos Bool.not_false]
    dsimp only
    split <;> exact submitted
  · intro tried
    have submitted : source.rtc.read.2.status.request = .reading := by
      rw [reads, Pcf8563.start_accepted sound.driver.settled free]
    have same := Pcf8563.Call.stopped_eq source.rtc .read
    rw [foundStopped, tried, if_neg (Bool.not_true ▸ Bool.false_ne_true)]
    dsimp only
    rw [reading]
    exact ⟨submitted, rfl, idle, rfl, same, fun failed => by cases failed⟩

/-- With nothing to find and no time, only a write is due. -/
theorem startDue_spec (untimed : source.rtc.status.timeValid = false)
    (idle : source.activity = .idle) (synchronised : Bool) :
    (source.startDue synchronised).Attended ∨ Faces source (source.startDue synchronised) := by
  rw [startDue]
  dsimp only
  rw [untimed]
  split
  · exact .inl (.inr (.inl rfl))
  · simp only [Bool.and_false, Bool.false_and, Bool.false_eq_true, if_false]
    exact .inr ⟨idle, rfl, rfl, id⟩

/-- An idle source acting: it attends to the chip, or is left with what it had; and with a
calendar and no write but one it can time, it has at least used up an earlier release. -/
theorem act_spec (sound : source.Sound stopped) (seen : source.rtc.status.stopped = true)
    (free : source.free = true) (time : SyncTime) (synchronised : Bool) :
    (source.act time synchronised).Attended ∨
      Faces source (source.act time synchronised) ∧
        (source.rtc.status.calendarValid = true → source.write.plainWanted = false →
          (source.write.wanted = true → synchronised = true) →
          source.stoppedReleased = true ∧ (source.act time synchronised).stoppedReleased = false) := by
  obtain ⟨there, quiet⟩ := Bool.and_eq_true_iff.mp free
  have idle : source.activity = .idle := eq_of_beq (Bool.and_eq_true_iff.mp there).1
  have unbusy : source.rtc.busy = false := by simpa using quiet
  have untimed : source.rtc.status.timeValid = false := by
    by_contra timed
    have running := sound.driver.timeValid (Bool.not_eq_false _ ▸ timed)
    exact Bool.false_ne_true (running.symm.trans seen)
  rw [act]
  split
  · next plain =>
      refine .inr ⟨writePlainly_faces idle time synchronised, fun _ unplain => ?_⟩
      cases plain.symm.trans unplain
  · split
    · next wanted =>
        split
        · exact .inl (beginWrite_attended source time)
        · split
          · next unsynchronised =>
              refine .inr ⟨⟨idle, rfl, rfl, id⟩, fun _ _ timed => ?_⟩
              rw [timed wanted] at unsynchronised
              cases unsynchronised
          · exact .inl (.inr (.inl wanted))
    · by_cases calendar : source.rtc.status.calendarValid = true
      · rw [if_pos (Bool.and_eq_true_iff.mpr ⟨calendar, seen⟩)]
        obtain ⟨releases, reads⟩ := foundStopped_spec sound unbusy idle
        cases tried : source.stoppedReleased with
        | false => exact .inl (.inr (.inr (.inr (releases tried))))
        | true =>
            obtain ⟨_, used, faces⟩ := reads tried
            exact .inr ⟨faces, fun _ _ _ => ⟨rfl, used⟩⟩
      · rw [if_neg fun both => calendar (Bool.and_eq_true_iff.mp both).1]
        rcases startDue_spec untimed idle synchronised with attended | faces
        · exact .inl attended
        · exact .inr ⟨faces, fun valid => absurd valid calendar⟩

/-- Idle with nothing pending, its chip found stopped: the very next epoch submits a
release, or after one that left the chip stopped a read, to release it again. -/
theorem epoch_found (sound : source.Sound stopped) (idle : source.activity = .idle)
    (undone : source.search.done = false) (unwanted : source.write.wanted = false)
    (unplain : source.write.plainWanted = false) (seen : source.rtc.status.stopped = true)
    (calendar : source.rtc.status.calendarValid = true) (unbusy : source.rtc.busy = false)
    {snapshot : TimingSnapshot}
    (advance : 0 < (snapshot.sequence - source.ourEpoch.sequence).toInt) (time : SyncTime)
    (synchronised : Bool) (boundNs : Nat) :
    let after := source.epoch snapshot time synchronised boundNs
    after.rtc.status.request = .releasing ∧ source.stoppedReleased = false ∨
      after.rtc.status.request = .reading ∧ after.stoppedReleased = false := by
  dsimp only
  rw [epoch]
  generalize (synchronised && time.known && !time.leapSecond) = timed
  have sound' := settle_sound sound advance time timed boundNs
  have leaves : LeavesWrites false (source.takeEpoch snapshot)
      (source.settle snapshot time timed boundNs) := by
    have nothing : (source.takeEpoch snapshot).search.done = false := undone
    rw [settle, expire_idle idle snapshot, nothing, if_neg Bool.false_ne_true]
    exact followClock_leaves false _ time timed
  generalize source.settle snapshot time timed boundNs = settled at sound' leaves ⊢
  have status : settled.rtc.status = source.rtc.status := leaves.status
  have unwanted' : settled.write.wanted = false :=
    (leaves.wanted.resolve_right Bool.false_ne_true).trans unwanted
  have unbusy' : settled.rtc.busy = false := by
    rwa [Pcf8563.busy, status]
  have idle' : settled.activity = .idle := leaves.activity.trans idle
  have free : settled.free = true := by
    rw [SourceRtc.free, idle', unbusy', status, sound.driver.present calendar]
    rfl
  rw [if_pos free, act, leaves.plainWanted.trans unplain, if_neg Bool.false_ne_true, unwanted',
    if_neg Bool.false_ne_true, status, calendar, seen, Bool.and_self, if_pos rfl]
  obtain ⟨releases, reads⟩ := foundStopped_spec sound' unbusy' idle'
  cases tried : source.stoppedReleased with
  | false => exact .inl ⟨releases (leaves.released.trans tried), rfl⟩
  | true =>
      obtain ⟨reading, used, _⟩ := reads (leaves.released.trans tried)
      exact .inr ⟨reading, used⟩

/-! ## One step -/

/-- What a step leaves of a stopped chip not attended to: it is still seen, and nothing
more can put its release off; from some steps, something less. -/
structure Nears (source after : SourceRtc) (strictly : Bool) : Prop where
  seen : after.rtc.status.stopped = true
  rank : after.rank + strictly.toNat ≤ source.rank

theorem rank_done (done : source.search.done = false) :
    source.rank = source.searchLeft + source.stoppedReleased.toNat := by
  rw [rank, confirmPending, done]
  rfl

theorem epoch_nears (sound : source.Sound true) (seen : source.rtc.status.stopped = true)
    (unattended : ¬source.Attended) {snapshot : TimingSnapshot}
    (advance : 0 < (snapshot.sequence - source.ourEpoch.sequence).toInt) (time : SyncTime)
    (synchronised : Bool) (boundNs : Nat) :
    (source.epoch snapshot time synchronised boundNs).Attended ∨
      Nears source (source.epoch snapshot time synchronised boundNs)
        (!source.rtc.busy && source.rtc.status.calendarValid) := by
  rw [epoch]
  generalize (synchronised && time.known && !time.leapSecond) = timed
  have starts := settle_starts sound unattended advance time timed boundNs
  have sound' := settle_sound sound advance time timed boundNs
  generalize source.settle snapshot time timed boundNs = settled at starts sound' ⊢
  have seen' : settled.rtc.status.stopped = true := starts.status.symm ▸ seen
  have before := rank_done starts.done
  rw [starts.released] at before
  have held : source.rank = source.searchLeft + source.stoppedReleased.toNat +
      source.confirmPending.toNat := rfl
  by_cases free : settled.free = true
  · rw [if_pos free]
    refine (act_spec sound' seen' free time timed).imp_right fun acted => ?_
    obtain ⟨faces, uses⟩ := acted
    have after := faces.rank starts.done
    have fewer : (settled.act time timed).stoppedReleased.toNat ≤ source.stoppedReleased.toNat := by
      cases tried : (settled.act time timed).stoppedReleased with
      | false => exact Nat.zero_le _
      | true => rw [← starts.released, faces.released tried]
    refine ⟨faces.seen.trans seen', ?_⟩
    rw [after]
    cases counted : !source.rtc.busy && source.rtc.status.calendarValid with
    | false => exact fewer.trans ((Nat.le_add_left _ _).trans (Nat.le_add_right _ _))
    | true =>
        have calendar := (Bool.and_eq_true_iff.mp counted).2
        rcases starts.writes with pending | ⟨unplain, only⟩
        · rw [held, pending]
          exact Nat.add_le_add_right (fewer.trans (Nat.le_add_left _ _)) 1
        · obtain ⟨tried, used⟩ := uses (starts.status.symm ▸ calendar) unplain only
          rw [held, used, ← starts.released, tried]
          exact (Nat.le_add_left _ _).trans (Nat.le_add_right _ _)
  · rw [if_neg free]
    refine .inr ⟨seen', ?_⟩
    rw [before, held]
    rcases starts.activity with idle | ⟨_, nearer⟩
    · have uncounted : (!source.rtc.busy && source.rtc.status.calendarValid) = false := by
        by_contra counted
        obtain ⟨unbusy, calendar⟩ := Bool.and_eq_true_iff.mp (Bool.not_eq_false _ ▸ counted)
        refine free ?_
        rw [SourceRtc.free, idle, Pcf8563.busy, starts.status, sound.driver.present calendar]
        exact unbusy
      have spent : settled.searchLeft = 0 := by
        rw [searchLeft, idle]
        rfl
      rw [uncounted, spent]
      exact (Nat.add_le_add_right (Nat.zero_le _) _).trans (Nat.le_add_right _ _)
    · have one := Bool.toNat_le (!source.rtc.busy && source.rtc.status.calendarValid)
      omega

/-- No sample is taken of a stopped chip. -/
theorem takeReads_stopped (seen : source.rtc.status.stopped = true) :
    ∃ search : RtcSearch, source.takeReads = { source with search := search } ∧
      search.purpose = source.search.purpose ∧ search.deadline = source.search.deadline ∧
      search.done = source.search.done := by
  rw [takeReads]
  split
  · rw [takeSample]
    dsimp only
    rw [seen, Bool.or_true, if_pos rfl]
    exact ⟨_, rfl, rfl, rfl, rfl⟩
  · exact ⟨_, rfl, rfl, rfl, rfl⟩

theorem readOn_nears (sound : source.Sound stopped) (seen : source.rtc.status.stopped = true)
    (searching : source.activity = .searching) : Nears source source.readOn false := by
  rw [readOn]
  split
  · exact ⟨seen, Nat.le_refl _⟩
  · split
    · refine ⟨seen, ?_⟩
      have other := (sound.search searching).1
      have unpending : (source.endSearch false).confirmPending = false :=
        Bool.eq_false_iff.mpr fun pending =>
          other (eq_of_beq (Bool.and_eq_true_iff.mp pending).2)
      have spent : (source.endSearch false).searchLeft = 0 := rfl
      have tried : (source.endSearch false).stoppedReleased = source.stoppedReleased := rfl
      rw [rank, spent, unpending, tried, rank]
      exact (Nat.add_le_add_right (Nat.zero_le _) _).trans (Nat.le_add_right _ _)
    · exact ⟨(Pcf8563.Call.stopped_eq source.rtc .read).trans seen, Nat.le_refl _⟩

theorem poll_nears (sound : source.Sound true) (seen : source.rtc.status.stopped = true)
    (unattended : ¬source.Attended) (timebase : BitVec 32) :
    Nears source (source.poll timebase) false := by
  rcases (not_attended unattended).1 with idle | searching
  · have untimed : source.rtc.status.timeValid = false := by
      by_contra timed
      have running := sound.driver.timeValid (Bool.not_eq_false _ ▸ timed)
      exact Bool.false_ne_true (running.symm.trans seen)
    rw [poll, idle]
    dsimp only
    rw [untimed, Bool.and_false, Bool.false_and, if_neg Bool.false_ne_true]
    exact ⟨seen, Nat.le_refl _⟩
  · obtain ⟨search, taken, purpose, deadline, done⟩ := takeReads_stopped seen
    have sound' := takeReads_sound sound
    have reads : source.keepSearching = ({ source with search := search } : SourceRtc).readOn := by
      rw [keepSearching, taken]
      simp only [searching]
    rw [poll, searching]
    dsimp only
    rw [reads]
    rw [taken] at sound'
    have nears := readOn_nears sound' seen searching
    refine ⟨nears.seen, nears.rank.trans ?_⟩
    rw [rank, rank, searchLeft, searchLeft, confirmPending, confirmPending, purpose, deadline, done]

theorem set_nears (seen : source.rtc.status.stopped = true) (utcSeconds : BitVec 32) :
    Nears source (source.set utcSeconds).2 false := by
  have same := (Pcf8563.Call.stopped_eq source.rtc (.write utcSeconds)).trans seen
  rw [set]
  split
  · exact ⟨seen, Nat.le_refl _⟩
  · dsimp only
    split <;> exact ⟨same, Nat.le_refl _⟩

end SourceRtc

namespace World

/-- The chip runs, or something is being done about it. -/
def Attended (world : World) : Prop :=
  world.stopped = false ∨ world.source.Attended

/-- An epoch at which the source is free to act, on a valid calendar. -/
def freeEpoch (world : World) : RtcAct → Bool
  | .epoch .. => !world.source.rtc.busy && world.source.rtc.status.calendarValid
  | _ => false

/-- What a run waiting for a stopped chip to be attended to keeps. -/
structure Waits (world : World) : Prop where
  sound : world.source.Sound world.stopped
  seen : world.source.rtc.status.stopped = true

theorem ranked :
    rtcMachine.Ranked Admits Waits Attended freeEpoch fun world => world.source.rank where
  step world act waits unattended admitted := by
    have stopped : world.stopped = true := by
      by_contra running
      exact unattended (.inl (Bool.not_eq_true _ ▸ running))
    have idle : ¬world.source.Attended := fun attended => unattended (.inr attended)
    have sound := waits.sound
    rw [stopped] at sound
    have after := step_sound waits.sound admitted
    have nears {strictly : Bool} (counted : freeEpoch world act = strictly)
        (nears : SourceRtc.Nears world.source (world.step act).source strictly) :
        Attended (world.step act) ∨ Waits (world.step act) ∧
          (world.step act).source.rank + (if freeEpoch world act then 1 else 0) ≤
            world.source.rank := by
      refine .inr ⟨⟨after, nears.seen⟩, ?_⟩
      rw [counted]
      cases strictly <;> exact nears.rank
    cases act with
    | oscillator => exact nears rfl ⟨waits.seen, Nat.le_refl _⟩
    | report snapshot =>
        obtain ⟨second, reported⟩ := world.source.report_second snapshot
        refine nears rfl ?_
        rw [step, reported]
        exact ⟨waits.seen, Nat.le_refl _⟩
    | epoch snapshot time synchronised boundNs =>
        rcases SourceRtc.epoch_nears sound waits.seen idle admitted.1 time synchronised boundNs with
          attended | nearer
        · exact .inl (.inr attended)
        · exact nears rfl nearer
    | poll timebase => exact nears rfl (SourceRtc.poll_nears sound waits.seen idle timebase)
    | set utcSeconds => exact nears rfl (SourceRtc.set_nears waits.seen utcSeconds)
    | service nowMs =>
        exact nears rfl ⟨Pcf8563.service_stopped sound.driver waits.seen nowMs, Nat.le_refl _⟩
    | bus transfer result taken startStamp registers =>
        refine nears rfl ⟨?_, Nat.le_refl _⟩
        rw [step, carried]
        dsimp only
        split <;> exact waits.seen

/-- The read in progress has worked, and waits to be taken up. -/
def ReadWorked (world : World) : Prop :=
  world.source.rtc.status.request = .reading ∧ (world.source.rtc.transfers .read).result = .ok

/-- **Never left stopped and forgotten.** In every reachable world a write is in hand or
wanted; or the chip's reads go on, and once one has worked, six epochs free to act on a
valid calendar do not pass without the chip running, a release submitted or a write
wanted again; and when its status says it is stopped and nothing else is pending, the next
epoch submits that release, or a read first if one was submitted before. -/
theorem never_forgotten {world : World} (reached : rtcMachine.Reachable Admits world) :
    world.source.writing = true ∨ world.source.write.wanted = true ∨
      world.source.write.plainWanted = true ∨
      (world.source.rtc.autoRead = true ∨ world.source.activity = .searching) ∧
      (∀ earlier middle nowMs later final, rtcMachine.Run Admits world earlier middle →
        middle.ReadWorked → rtcMachine.Run Admits (middle.step (.service nowMs)) later final →
        5 < rtcMachine.visits freeEpoch (middle.step (.service nowMs)) later →
        rtcMachine.Meets Attended middle (.service nowMs :: later)) ∧
      (world.source.activity = .idle → world.source.search.done = false →
        world.source.rtc.status.stopped = true → world.source.rtc.status.calendarValid = true →
        world.source.rtc.busy = false → ∀ snapshot time synchronised boundNs,
        Admits world (.epoch snapshot time synchronised boundNs) →
        let next := (world.step (.epoch snapshot time synchronised boundNs)).source
        next.rtc.status.request = .releasing ∧ world.source.stoppedReleased = false ∨
          next.rtc.status.request = .reading ∧ next.stoppedReleased = false) := by
  have sound := World.sound reached
  by_cases attended : world.source.writing = true ∨ world.source.write.wanted = true ∨
      world.source.write.plainWanted = true
  · exact attended.imp_right fun wanted => wanted.imp_right .inl
  · obtain ⟨quiet, unwanted, unplain⟩ :
        ¬world.source.writing = true ∧ ¬world.source.write.wanted = true ∧
          ¬world.source.write.plainWanted = true := by
      simpa only [not_or] using attended
    refine .inr (.inr (.inr ⟨?_, ?_, ?_⟩))
    · rcases SourceRtc.idle_or_searching (Bool.eq_false_iff.mpr quiet) with idle | searching
      · refine .inl (sound.autoRead.trans ?_)
        rw [idle]
        rfl
      · exact .inr searching
    · intro earlier middle nowMs later final before worked after enough
      have there : rtcMachine.Reachable Admits middle := reached.run before
      by_cases running : middle.stopped = false
      · exact .here _ (.inl running)
      · have seen := Pcf8563.service_read (World.sound there).driver worked.1 worked.2 nowMs
        have waits : Waits (middle.step (.service nowMs)) :=
          ⟨step_sound (World.sound there) trivial, seen.trans (Bool.not_eq_false _ ▸ running)⟩
        have few := SourceRtc.rank_le waits.sound
        exact .cons (ranked.response after waits (Nat.lt_of_le_of_lt few enough))
    · intro idle undone seen calendar unbusy snapshot time synchronised boundNs admitted
      exact SourceRtc.epoch_found sound idle undone (Bool.eq_false_iff.mpr unwanted)
        (Bool.eq_false_iff.mpr unplain) seen calendar unbusy admitted.1 time synchronised boundNs

/-- An epoch while the clock is synchronised, or not. -/
def epochAt (sequence : BitVec 32) (synchronised : Bool) : RtcAct :=
  .epoch { sequence := sequence, epochCaptureValid := true }
    { known := true, utcSeconds := 1760000000 } synchronised 1000

/-- An aligned write loaded by a chip that had lost power, and given up when the main loop
and then the synchronisation failed it; a minute later the chip is read. -/
def givenUp : List RtcAct :=
  [.bus .read .ok true 0 { encode 1760000000 0 with vlSeconds := pcf8563Vl }, .service 1,
    epochAt 1 true, epochAt 61 true, epochAt 62 true, .bus .write .ok true 0 {}, .service 2,
    epochAt 66 false, .service 60002, .bus .read .ok true 0 (encode 1760000000 pcf8563Stop),
    .service 60003]

/-- The world it leaves. -/
def abandoned : World :=
  givenUp.foldl World.step { source := (SourceRtc.init (Pcf8563.init 0)).restore {} }

/-- The chip so left stopped is released at the next epoch. -/
theorem abandoned_found :
    abandoned.stopped = true ∧
      (abandoned.step (epochAt 67 false)).source.rtc.status.request = .releasing := by
  have start : rtcMachine.Reachable Admits
      { source := (SourceRtc.init (Pcf8563.init 0)).restore {} } :=
    .start ⟨0, {}, ⟨abs_zero.le.trans (by decide), (by decide : 0 < 4294967296)⟩, rfl⟩
  have reached : rtcMachine.Reachable Admits abandoned :=
    start.run (.of_admitted (by decide +kernel))
  refine ⟨by decide +kernel, ?_⟩
  rcases never_forgotten reached with writing | wanted | plain | ⟨_, _, found⟩
  · exact absurd writing (by decide +kernel)
  · exact absurd wanted (by decide +kernel)
  · exact absurd plain (by decide +kernel)
  · rcases found (by decide +kernel) (by decide +kernel) (by decide +kernel) (by decide +kernel)
      (by decide +kernel) _ _ _ _ (by decide +kernel : Admits abandoned (epochAt 67 false)) with
      ⟨releasing, _⟩ | ⟨reading, _⟩
    · exact releasing
    · exact absurd reading (by decide +kernel)

end World

end GpsClock.Rtc
