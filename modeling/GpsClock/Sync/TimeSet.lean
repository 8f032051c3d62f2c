import GpsClock.Sync.FreeRun

/-! # A time set by hand

While no source has been taken up, whatever the sources report, an update takes up a time
set by hand, counts the time on by a second and lengthens the interval after the next by
the step asked for. So the epoch at which a time is taken up is labelled with the nearest
second, and from the second epoch after it the epochs fall on the seconds they are
labelled with (`GpsClock.Sync.time_set_on_the_second`).
-/

namespace GpsClock.Sync

open GpsClock.Platform GpsClock.Timing

/-! ## Counting from a moment -/

/-- How far a time set by hand is labelled ahead of its moment, and so the step that puts
it right: at most half a second either way. -/
theorem manual_step {manual : ManualTime} (inside : manual.slotMs < 1000) (loop : EpochControl) :
    (loop.requestFreeRunStep manual.step).freeRunStep =
        manual.slotMs * timingTicksPerMs - (if 500 < manual.slotMs then timingNominalTicks else 0) ∧
      (loop.requestFreeRunStep manual.step).freeRunStep.natAbs ≤ 20000000 := by
  have step : manual.step =
      manual.slotMs * timingTicksPerMs - (if 500 < manual.slotMs then timingNominalTicks else 0) := by
    rw [ManualTime.step]
    dsimp only [timingNominalTicks, timingTicksPerMs]
    split <;> omega
  have small : manual.step.natAbs ≤ 20000000 := by
    rw [step]
    dsimp only [timingNominalTicks, timingTicksPerMs]
    split <;> omega
  have whole : (loop.requestFreeRunStep manual.step).freeRunStep = manual.step := by
    dsimp only [EpochControl.requestFreeRunStep, timingHalfSecondTicks]
    rw [if_neg (by omega), if_neg (by omega)]
  rw [whole]
  exact ⟨step, small⟩

/-- The length of an interval a second long but for a step of at most half of one. -/
theorem period_toNat (step : Int) (small : step.natAbs ≤ 20000000) :
    (((40000000 : BitVec 32) + BitVec.ofInt 32 step).toNat : Int) = timingNominalTicks + step := by
  rw [BitVec.toNat_add, BitVec.toNat_ofInt]
  have nominal : (40000000 : BitVec 32).toNat = 40000000 := rfl
  dsimp only [timingNominalTicks]
  omega

/-- A label counted on by whole seconds. -/
theorem ofInt_count (count : BitVec 32) (more : Int) :
    BitVec.ofInt 32 (count.toNat + more) = count + BitVec.ofInt 32 more := by
  rw [BitVec.ofInt_add, BitVec.ofInt_natCast, BitVec.ofNat_toNat, BitVec.setWidth_eq]

/-- The label a time set by hand comes to, a second after the one before its epoch. -/
theorem label_counted (set sequence since : BitVec 32) (later : Prop) [Decidable later] :
    set + (sequence + 1 - since) - (if later then 1 else 0) - 1 + 1 =
      set + BitVec.ofInt 32 ((sequence - since).toNat + 1 - (if later then 1 else 0)) := by
  rw [Int.add_sub_assoc, ofInt_count]
  split
  · have none : BitVec.ofInt 32 (1 - 1) = 0#32 := by decide
    rw [none]
    grind
  · have one : BitVec.ofInt 32 (1 - 0) = 1#32 := by decide
    rw [one]
    grind

/-- A label counted on by one more second. -/
theorem label_next (set : BitVec 32) (whole : Int) :
    set + BitVec.ofInt 32 whole + 1 = set + BitVec.ofInt 32 (whole + 1) := by
  have one : BitVec.ofInt 32 1 = 1 := by decide
  rw [BitVec.ofInt_add, one, BitVec.add_assoc]

namespace Synchroniser

variable {sync : Synchroniser} {input : EpochInput}

/-! ## An update that takes no source up -/

/-- What of the synchroniser the time set by hand, and where the epochs fall, depend on. -/
def timing (sync : Synchroniser) : (SyncTime × UtcLeap × Bool × Bool) × EpochControl × ManualTime :=
  ((sync.status.time, sync.status.linkLeap, sync.status.aligned, sync.status.steered), sync.loop,
    sync.manualTime)

theorem applyResync_timing (sync : Synchroniser) (epoch : BitVec 32) :
    (sync.applyResync epoch).timing = sync.timing := by
  rw [Synchroniser.applyResync]
  split <;> rfl

/-- Putting the epoch on the RTC's second leaves the time, and is not done again. -/
theorem alignToTimeOfDay_time (sync : Synchroniser) :
    sync.alignToTimeOfDay.status.time = sync.status.time ∧
      sync.alignToTimeOfDay.status.linkLeap = sync.status.linkLeap ∧
      sync.alignToTimeOfDay.status.steered = sync.status.steered ∧
      sync.alignToTimeOfDay.manualTime = sync.manualTime ∧
      (sync.status.aligned = true → sync.alignToTimeOfDay = sync) := by
  rw [Synchroniser.alignToTimeOfDay]
  split
  · exact ⟨rfl, rfl, rfl, rfl, fun _ => rfl⟩
  · next aligning =>
      refine ⟨rfl, rfl, rfl, rfl, fun aligned => ?_⟩
      rw [SyncStatus.alignment, if_pos (.inr (.inl aligned))] at aligning
      cases aligning

/-- In free run, with nothing steered by, a time set by hand is taken. -/
theorem applyManualTime_takesUp (idle : sync.status.state = .freeRun)
    (unsteered : sync.status.steered = false) (epoch : BitVec 32) :
    (sync.applyManualTime epoch).status.steered = false ∧
      (sync.applyManualTime epoch).status.linkLeap = sync.status.linkLeap ∧
      (sync.applyManualTime epoch).status.time.leap = sync.status.time.leap ∧
      sync.TakesUp (sync.applyManualTime epoch) epoch := by
  rw [Synchroniser.applyManualTime]
  cases pending : sync.manualTime.pending with
  | false =>
      refine ⟨unsteered, rfl, rfl, pending, fun set => ?_, fun _ => rfl, id, fun _ _ => rfl⟩
      rw [pending] at set
      cases set
  | true =>
      have taken : ¬(sync.status.state ≠ .freeRun ∨ sync.status.steered = true) := by
        rw [idle, unsteered]
        exact not_or.mpr ⟨fun differs => differs rfl, Bool.false_ne_true⟩
      rw [Bool.not_true, if_neg Bool.false_ne_true, if_neg taken]
      refine ⟨unsteered, rfl, rfl, rfl, fun _ => ⟨rfl, rfl, rfl, rfl, rfl⟩, fun none => ?_,
        fun _ => rfl, fun none => ?_⟩
      · rw [pending] at none
        cases none
      · rw [pending] at none
        cases none

/-- Where nothing has been steered by, an update takes up a time set by hand. -/
theorem Consistent.takesUp (consistent : sync.Consistent)
    (unsteered : sync.status.steered = false) (input : EpochInput) :
    (sync.beforeSources input).status.steered = false ∧
      (sync.beforeSources input).status.linkLeap = sync.status.linkLeap ∧
      (sync.beforeSources input).status.time.leap = sync.status.time.leap ∧
      sync.TakesUp (sync.beforeSources input) input.snapshot.sequence := by
  have valid := (consistent.applyResync input.snapshot.sequence).judgeSources input
  have same : ((sync.applyResync input.snapshot.sequence).judgeSources input).timing = sync.timing :=
    sync.applyResync_timing input.snapshot.sequence
  rw [Synchroniser.beforeSources]
  generalize (sync.applyResync input.snapshot.sequence).judgeSources input = judged at *
  obtain ⟨⟨time, linkLeap, aligned, steered⟩, loop, manual⟩ :
      (_ ∧ _ ∧ _ ∧ _) ∧ _ ∧ _ := by
    simpa only [timing, Prod.mk.injEq] using same
  have idle : judged.status.state = .freeRun := by
    by_contra running
    exact absurd ((steered.trans unsteered).symm.trans (valid.status.started running))
      Bool.false_ne_true
  obtain ⟨unsteered, link, leap, takes⟩ :=
    applyManualTime_takesUp idle (steered.trans unsteered) input.snapshot.sequence
  obtain ⟨timeSame, linkSame, steeredSame, manualSame, done⟩ :=
    (judged.applyManualTime input.snapshot.sequence).settleFallback.alignToTimeOfDay_time
  refine ⟨steeredSame.trans unsteered, linkSame.trans (link.trans linkLeap), ?_, ?_⟩
  · rw [timeSame]
    exact leap.trans (congrArg SyncTime.leap time)
  · have settles := takes.settled
    refine ⟨by rw [manualSame]; exact settles, fun pending => ?_, fun none => ?_, fun set => ?_,
      fun none set => ?_⟩
    · obtain ⟨known, source, label, alignedNow, step⟩ := takes.set (manual ▸ pending)
      rw [timeSame, done alignedNow, ← manual, ← loop]
      exact ⟨known, source, label, alignedNow, step⟩
    · rw [timeSame]
      exact (takes.kept (manual ▸ none)).trans time
    · have still := takes.aligned (aligned.trans set)
      rw [done still]
      exact still
    · rw [done (takes.aligned (aligned.trans set)), ← loop]
      exact takes.still (manual ▸ none) (aligned.trans set)

/-- In free run a source is taken up by being steered by. -/
theorem followSources_idle (idle : sync.status.state = .freeRun) {epoch : BitVec 32}
    (unsteered : (sync.followSources epoch).status.steered = false) :
    sync.followSources epoch = sync := by
  rw [Synchroniser.followSources, idle] at unsteered ⊢
  dsimp only at unsteered ⊢
  rw [followFreeRun] at unsteered ⊢
  split
  · rfl
  · next settled =>
      rw [if_neg settled] at unsteered
      split at unsteered
      · exact absurd unsteered (Bool.not_eq_false _ ▸ rfl)
      · split at unsteered
        · exact absurd unsteered (Bool.not_eq_false _ ▸ rfl)
        · rfl

/-- An update after which nothing has been steered by counts on from where it was before it
turned to the sources. -/
theorem Consistent.counts (consistent : sync.Consistent)
    (unsteered : (sync.syncUpdate input).2.status.steered = false)
    (nominal : input.numbers.period = 40000000) :
    let before := sync.beforeSources input
    let after := (sync.syncUpdate input).2
    sync.status.steered = false ∧ after.manualTime = before.manualTime ∧
      after.status.aligned = before.status.aligned ∧
      after.status.linkLeap = before.status.linkLeap ∧
      after.loop.commandedPeriod = 40000000 + BitVec.ofInt 32 before.loop.freeRunStep ∧
      (before.status.time.known = true → before.status.linkLeap.change = 0 →
        before.status.time.leap.change = 0 →
        after.status.time.known = true ∧ after.status.time.source = before.status.time.source ∧
          after.status.time.utcSeconds = before.status.time.utcSeconds + 1 ∧
          after.status.time.leap.change = 0) := by
  have fresh : sync.status.steered = false := by
    by_contra steered
    rw [Bool.not_eq_false] at steered
    have still := (followSources_follows (sync.beforeSources input) input.snapshot.sequence).steered
      (beforeSources_steered steered input).2
    rw [syncUpdate_steered] at unsteered
    exact absurd (still.symm.trans unsteered).symm Bool.false_ne_true
  have valid := consistent.beforeSources input
  have idle : (sync.beforeSources input).status.state = .freeRun := by
    by_contra running
    exact absurd ((consistent.takesUp fresh input).1.symm.trans (valid.status.started running))
      Bool.false_ne_true
  -- Taking a source up would be to steer by it.
  have chosen : sync.chosen input = sync.beforeSources input := by
    refine followSources_idle idle ?_
    rw [syncUpdate_steered] at unsteered
    exact unsteered
  have unusable : edgeUsable (sync.beforeSources input).status = false := by
    rw [edgeUsable, valid.status.freeRun.mp idle]
  have untracked : (sync.beforeSources input).status.isTracking = false := by
    rw [SyncStatus.isTracking, idle]
    rfl
  have acquiring := valid.fresh (consistent.takesUp fresh input).1
  simp only [Synchroniser.syncUpdate, chosen]
  generalize sync.beforeSources input = before at *
  generalize (sync.status.state == .locked || sync.status.state == .holdover) = wasLocked
  have loop : (before.runLoop input).2 =
      { before with loop := (before.loop.hold input.snapshot input.numbers).2 } := by
    simp only [Synchroniser.runLoop, loopTold, unusable, untracked, Bool.false_and, Bool.false_eq_true, if_false]
    rfl
  have period := EpochControl.hold_commandedPeriod input.snapshot input.numbers acquiring
  rw [nominal] at period
  have unlocked (loop : EpochControl) (update : EpochUpdate) :
      before.status.followLoop loop input.snapshot update = before.status := by
    rw [SyncStatus.followLoop, idle, if_neg (fun acquire => by cases acquire.1),
      if_neg (fun locked => by cases locked.1)]
  rw [loop, unusable]
  generalize (before.runLoop input).1 = update
  obtain ⟨holdover, held⟩ := followHoldover_freeRun update idle
  simp only [Synchroniser.afterLoop, unlocked, held]
  refine ⟨fresh, trivial, rfl, rfl, period, fun known noLink noLeap => ?_⟩
  have announced : before.status.time.leap.announced = none := by
    rw [UtcLeap.announced, if_pos noLeap]
  have still : ¬before.status.linkLeap.change ≠ 0 := not_not.mpr noLink
  simp only [SyncStatus.countEpoch, SyncStatus.rankSecond, SyncStatus.keepTime,
    SyncStatus.updateHoldoverBound, announced, utcAdvance_one, if_neg still, if_pos known]
  exact ⟨known, trivial, trivial, noLeap⟩

end Synchroniser

/-! ## From the call on -/

/-- The synchroniser since a time was set by hand: when the latest epoch was, in ticks
since the call, how long the interval now running and the one after it are, and how many
epochs have been processed. -/
structure Since where
  sync : Synchroniser
  edge : Int
  running : Int
  next : Int
  epochs : Nat

namespace Since

/-- An epoch, the period asked for in it being that of the interval after the next. -/
def epoch (since : Since) (input : EpochInput) : Since :=
  let after := (since.sync.syncUpdate input).2
  { sync := after
    edge := since.edge + since.running
    running := since.next
    next := after.loop.commandedPeriod.toNat
    epochs := since.epochs + 1 }

def step (since : Since) : SyncAct → Since
  | .update input => since.epoch input
  | act => { since with sync := synchroniser.step since.sync act }

/-- Epochs after which no source has been taken up, the loop counting nominal seconds but
for the step, the first of them so many after the one the time was set in; no leap second
announced, and no other time set. -/
def Admits (epochSequence : BitVec 32) (count : Nat) (since : Since) : SyncAct → Prop
  | .update input =>
      (since.sync.syncUpdate input).2.status.steered = false ∧
        input.numbers.period = 40000000 ∧
        (since.epochs = 0 → input.snapshot.sequence = epochSequence + BitVec.ofNat 32 count)
  | .resync => True
  | .setLeap leap => leap.change = 0
  | .setTime utcSeconds epochSequence slotMs =>
      (since.sync.syncSetTime utcSeconds epochSequence slotMs).1 = false

instance (epochSequence : BitVec 32) (count : Nat) (since : Since) (act : SyncAct) :
    Decidable (Admits epochSequence count since act) :=
  match act with
  | .update _ => inferInstanceAs (Decidable (_ ∧ _ ∧ _))
  | .resync => inferInstanceAs (Decidable True)
  | .setLeap _ | .setTime _ _ _ => inferInstanceAs (Decidable (_ = _))

/-- A call of `sync_set_time` that is accepted, with the epochs a nominal second apart up to
the one before the first that is to come. -/
structure Call (utcSeconds epochSequence : BitVec 32) (slotMs count : Nat) (since : Since) :
    Prop where
  inside : slotMs < 1000
  called : ∃ before, synchroniser.Reachable (fun _ _ => True) before ∧
    before.syncSetTime utcSeconds epochSequence slotMs = (true, since.sync)
  noLinkLeap : since.sync.status.linkLeap.change = 0
  noLeap : since.sync.status.time.leap.change = 0
  edge : since.edge = ((count : Int) - 1) * timingNominalTicks - slotMs * timingTicksPerMs
  running : since.running = timingNominalTicks
  next : since.next = timingNominalTicks
  epochs : since.epochs = 0

end Since

/-- From a call on. -/
def sinceCall (utcSeconds epochSequence : BitVec 32) (slotMs count : Nat) :
    Machine Since SyncAct where
  start := Since.Call utcSeconds epochSequence slotMs count
  step := Since.step

namespace Since

/-- The latest epoch is labelled with a second counted from the call, as far from it as the
intervals under way will move the epochs. -/
def Labelled (utcSeconds : BitVec 32) (since : Since) : Prop :=
  ∃ whole : Int, since.sync.status.time.utcSeconds = utcSeconds + BitVec.ofInt 32 whole ∧
    whole * timingNominalTicks - since.edge =
      (since.running - timingNominalTicks) + (since.next - timingNominalTicks)

/-- The time set has been taken up. -/
structure TakenUp (utcSeconds : BitVec 32) (since : Since) : Prop where
  settled : since.sync.manualTime.pending = false
  known : since.sync.status.time.known = true
  source : since.sync.status.time.source = none
  aligned : since.sync.status.aligned = true
  labelled : since.Labelled utcSeconds
  first : since.epochs = 1 → since.running = timingNominalTicks ∧
    (since.next - timingNominalTicks).natAbs ≤ 20000000
  later : 2 ≤ since.epochs → since.next = timingNominalTicks
  settledDown : 3 ≤ since.epochs → since.running = timingNominalTicks

/-- What every run from the call keeps. -/
structure Valid (utcSeconds epochSequence : BitVec 32) (slotMs count : Nat) (since : Since) :
    Prop where
  inside : slotMs < 1000
  sound : since.sync.Sound
  unsteered : since.sync.status.steered = false
  noLinkLeap : since.sync.status.linkLeap.change = 0
  noLeap : since.sync.status.time.leap.change = 0
  waits : since.epochs = 0 →
    since.sync.manualTime = ⟨true, utcSeconds, epochSequence, slotMs⟩ ∧
      since.edge = ((count : Int) - 1) * timingNominalTicks - slotMs * timingTicksPerMs ∧
      since.running = timingNominalTicks ∧ since.next = timingNominalTicks
  firstEdge : since.epochs = 1 →
    since.edge = count * timingNominalTicks - slotMs * timingTicksPerMs
  inForce : since.epochs ≠ 0 → since.TakenUp utcSeconds

variable {utcSeconds epochSequence : BitVec 32} {slotMs count : Nat} {since : Since}

/-- The label a time set by hand comes to so many epochs after the one it was set in. -/
theorem label_taken (utcSeconds epochSequence : BitVec 32) (count : Nat) (later : Prop)
    [Decidable later] :
    utcSeconds + (epochSequence + BitVec.ofNat 32 count - epochSequence) -
        (if later then 1 else 0) - 1 + 1 =
      utcSeconds + BitVec.ofInt 32 ((count : Int) - (if later then 1 else 0)) := by
  have counted : BitVec.ofInt 32 (count : Int) = BitVec.ofNat 32 count := BitVec.ofInt_natCast ..
  rw [Int.sub_eq_add_neg, BitVec.ofInt_add, counted]
  split
  · have one : BitVec.ofInt 32 (-1) = -1#32 := by decide
    rw [one]
    grind
  · have none : BitVec.ofInt 32 (-0) = 0#32 := by decide
    rw [none]
    grind

theorem Call.valid (call : Call utcSeconds epochSequence slotMs count since) :
    Valid utcSeconds epochSequence slotMs count since := by
  obtain ⟨before, reached, accepted⟩ := call.called
  have sound := (Synchroniser.sound_invariant.reachable reached).act (.setTime utcSeconds epochSequence slotMs)
  have taken : synchroniser.step before (.setTime utcSeconds epochSequence slotMs) = since.sync :=
    congrArg Prod.snd accepted
  rw [taken] at sound
  rw [Synchroniser.syncSetTime] at accepted
  split at accepted
  · cases accepted
  · next free =>
      rw [not_or, not_or] at free
      rw [Prod.mk.injEq] at accepted
      refine ⟨call.inside, sound, ?_, call.noLinkLeap, call.noLeap, fun _ => ⟨?_, call.edge,
        call.running, call.next⟩, fun one => ?_, fun some => absurd call.epochs some⟩
      · rw [← accepted.2]
        exact Bool.not_eq_true _ ▸ free.2.1
      · rw [← accepted.2]
      · rw [call.epochs] at one
        cases one

/-- The first epoch labels itself with the nearest second, and moves the one after the
next onto a second. -/
theorem Valid.firstEpoch (valid : Valid utcSeconds epochSequence slotMs count since)
    {input : EpochInput} (admitted : Admits epochSequence count since (.update input))
    (waiting : since.epochs = 0) : (since.epoch input).TakenUp utcSeconds := by
  obtain ⟨unsteered, nominal, sequence⟩ := admitted
  obtain ⟨manual, edge, running, next⟩ := valid.waits waiting
  obtain ⟨_, link, leap, takes⟩ := valid.sound.consistent.takesUp valid.unsteered input
  obtain ⟨_, manualAfter, alignedAfter, _, period, counts⟩ :=
    valid.sound.consistent.counts unsteered nominal
  have pending : since.sync.manualTime.pending = true := by rw [manual]
  obtain ⟨known, source, label, aligned, stepped⟩ := takes.set pending
  obtain ⟨knownAfter, sourceAfter, labelAfter, _⟩ := counts known
    ((congrArg UtcLeap.change link).trans valid.noLinkLeap)
    ((congrArg UtcLeap.change leap).trans valid.noLeap)
  have inside : since.sync.manualTime.slotMs < 1000 := by
    rw [manual]
    exact valid.inside
  obtain ⟨step, small⟩ := manual_step inside since.sync.loop
  rw [← stepped] at step small
  have asked : (since.epoch input).next =
      timingNominalTicks + (since.sync.beforeSources input).loop.freeRunStep := by
    rw [← period_toNat _ small, ← period]
    rfl
  rw [manual] at label step
  dsimp only at step
  refine ⟨(congrArg ManualTime.pending manualAfter).trans takes.settled, knownAfter,
    sourceAfter.trans source, alignedAfter.trans aligned,
    ⟨(count : Int) - (if 500 < slotMs then 1 else 0), ?_, ?_⟩, fun _ => ⟨next, ?_⟩,
    fun two => ?_, fun three => ?_⟩
  · refine labelAfter.trans ?_
    rw [label, ManualTime.label, sequence waiting]
    exact label_taken utcSeconds epochSequence count (500 < slotMs)
  · rw [asked, step]
    change _ - (since.edge + since.running) = (since.next - _) + _
    rw [edge, running, next]
    dsimp only [timingNominalTicks, timingTicksPerMs]
    split <;> omega
  · rw [asked]
    omega
  · change 2 ≤ since.epochs + 1 at two
    omega
  · change 3 ≤ since.epochs + 1 at three
    omega

/-- Every later epoch counts on. -/
theorem Valid.laterEpoch (valid : Valid utcSeconds epochSequence slotMs count since)
    {input : EpochInput} (admitted : Admits epochSequence count since (.update input))
    (taken : since.epochs ≠ 0) : (since.epoch input).TakenUp utcSeconds := by
  obtain ⟨unsteered, nominal, _⟩ := admitted
  have inForce := valid.inForce taken
  obtain ⟨_, link, leap, takes⟩ := valid.sound.consistent.takesUp valid.unsteered input
  obtain ⟨_, manualAfter, alignedAfter, _, period, counts⟩ :=
    valid.sound.consistent.counts unsteered nominal
  have time := takes.kept inForce.settled
  obtain ⟨knownAfter, sourceAfter, labelAfter, _⟩ := counts
    ((congrArg SyncTime.known time).trans inForce.known)
    ((congrArg UtcLeap.change link).trans valid.noLinkLeap)
    ((congrArg UtcLeap.change leap).trans valid.noLeap)
  have still : (since.sync.beforeSources input).loop.freeRunStep = 0 :=
    (takes.still inForce.settled inForce.aligned).trans valid.sound.settled
  have asked : (since.epoch input).next = timingNominalTicks := by
    rw [still] at period
    have whole := period_toNat 0 (Nat.zero_le _)
    rw [← period] at whole
    exact whole
  obtain ⟨whole, label, apart⟩ := inForce.labelled
  refine ⟨(congrArg ManualTime.pending manualAfter).trans takes.settled, knownAfter,
    sourceAfter.trans ((congrArg SyncTime.source time).trans inForce.source),
    alignedAfter.trans (takes.aligned inForce.aligned), ⟨whole + 1, ?_, ?_⟩, fun one => ?_,
    fun _ => asked, fun three => ?_⟩
  · refine labelAfter.trans ?_
    rw [time, label, label_next]
  · rw [asked]
    change _ - (since.edge + since.running) = (since.next - _) + _
    dsimp only [timingNominalTicks] at apart ⊢
    omega
  · change since.epochs + 1 = 1 at one
    omega
  · change 3 ≤ since.epochs + 1 at three
    exact inForce.later (by omega)

/-- A time is known before an epoch turns to the sources. -/
theorem Valid.known (valid : Valid utcSeconds epochSequence slotMs count since)
    (input : EpochInput) : (since.sync.beforeSources input).status.time.known = true := by
  obtain ⟨_, _, _, takes⟩ := valid.sound.consistent.takesUp valid.unsteered input
  by_cases waiting : since.epochs = 0
  · have pending : since.sync.manualTime.pending = true := by rw [(valid.waits waiting).1]
    exact (takes.set pending).1
  · have inForce := valid.inForce waiting
    exact (congrArg SyncTime.known (takes.kept inForce.settled)).trans inForce.known

theorem Valid.epoch (valid : Valid utcSeconds epochSequence slotMs count since)
    {input : EpochInput} (admitted : Admits epochSequence count since (.update input)) :
    Valid utcSeconds epochSequence slotMs count (since.epoch input) := by
  obtain ⟨_, link, leap, _⟩ := valid.sound.consistent.takesUp valid.unsteered input
  obtain ⟨_, _, _, linkAfter, _, counts⟩ := valid.sound.consistent.counts admitted.1 admitted.2.1
  have noLink := (congrArg UtcLeap.change link).trans valid.noLinkLeap
  have noLeap := (congrArg UtcLeap.change leap).trans valid.noLeap
  have taken : (since.epoch input).TakenUp utcSeconds := by
    by_cases waiting : since.epochs = 0
    · exact valid.firstEpoch admitted waiting
    · exact valid.laterEpoch admitted waiting
  refine ⟨valid.inside, valid.sound.consistent.syncUpdate input, admitted.1,
    (congrArg UtcLeap.change linkAfter).trans noLink,
    (counts (valid.known input) noLink noLeap).2.2.2,
    fun none => absurd none (Nat.succ_ne_zero _), fun one => ?_, fun _ => taken⟩
  obtain ⟨_, edge, running, _⟩ := valid.waits (Nat.succ.inj one)
  change since.edge + since.running = _
  rw [edge, running]
  ring

/-- What is kept does not depend on anything but the time and the loop. -/
theorem Valid.between (valid : Valid utcSeconds epochSequence slotMs count since)
    {sync : Synchroniser} (sound : sync.Sound)
    (time : sync.status.time = since.sync.status.time)
    (linkLeap : sync.status.linkLeap.change = 0)
    (aligned : sync.status.aligned = since.sync.status.aligned)
    (steered : sync.status.steered = since.sync.status.steered)
    (manual : sync.manualTime = since.sync.manualTime) :
    Valid utcSeconds epochSequence slotMs count { since with sync := sync } := by
  refine ⟨valid.inside, sound, steered.trans valid.unsteered, linkLeap,
    (congrArg (fun time => time.leap.change) time).trans valid.noLeap, fun waiting => ?_,
    valid.firstEdge, fun taken => ?_⟩
  · obtain ⟨set, edges⟩ := valid.waits waiting
    exact ⟨manual.trans set, edges⟩
  · have inForce := valid.inForce taken
    refine ⟨(congrArg ManualTime.pending manual).trans inForce.settled,
      (congrArg SyncTime.known time).trans inForce.known,
      (congrArg SyncTime.source time).trans inForce.source, aligned.trans inForce.aligned, ?_,
      inForce.first, inForce.later, inForce.settledDown⟩
    obtain ⟨whole, label, apart⟩ := inForce.labelled
    exact ⟨whole, (congrArg SyncTime.utcSeconds time).trans label, apart⟩

theorem Valid.act (valid : Valid utcSeconds epochSequence slotMs count since) {act : SyncAct}
    (admitted : Admits epochSequence count since act) :
    Valid utcSeconds epochSequence slotMs count (since.step act) := by
  have sound := valid.sound.act act
  cases act with
  | update input => exact valid.epoch admitted
  | resync => exact valid.between sound rfl valid.noLinkLeap rfl rfl rfl
  | setLeap leap =>
      refine valid.between sound rfl ?_ rfl rfl rfl
      change (if leap.change = 0 then { leap with eventUtc := 0 } else leap).change = 0
      have withdrawn : leap.change = 0 := admitted
      rw [if_pos withdrawn]
      exact withdrawn
  | setTime utc epoch slot =>
      have refused : since.sync.syncSetTime utc epoch slot = (false, since.sync) := by
        have same : (since.sync.syncSetTime utc epoch slot).1 = false := admitted
        rw [Synchroniser.syncSetTime] at same ⊢
        split
        · rfl
        · next free =>
            rw [if_neg free] at same
            cases same
      have unchanged : synchroniser.step since.sync (.setTime utc epoch slot) = since.sync :=
        congrArg Prod.snd refused
      change Valid utcSeconds epochSequence slotMs count
        { since with sync := synchroniser.step since.sync (.setTime utc epoch slot) }
      rw [unchanged]
      exact valid

theorem valid_invariant : (sinceCall utcSeconds epochSequence slotMs count).Invariant
    (Admits epochSequence count) (Valid utcSeconds epochSequence slotMs count) where
  start _ call := call.valid
  step _ _ valid admitted := valid.act admitted

end Since

/-- **A time set by hand.** So many epochs after the one it was set in it is taken up: that
epoch is labelled with the second nearest to its moment, counted from the call. From the
second epoch after that every epoch falls on the second it is labelled with. -/
theorem time_set_on_the_second {utcSeconds epochSequence : BitVec 32} {slotMs count : Nat}
    {since : Since}
    (reached : (sinceCall utcSeconds epochSequence slotMs count).Reachable
      (Since.Admits epochSequence count) since) :
    (since.epochs = 1 →
        ∃ whole : Int, since.sync.status.time.utcSeconds = utcSeconds + BitVec.ofInt 32 whole ∧
          2 * |whole * timingNominalTicks - since.edge| ≤ timingNominalTicks ∧
          since.edge = count * timingNominalTicks - slotMs * timingTicksPerMs) ∧
      (3 ≤ since.epochs →
        ∃ whole : Int, since.sync.status.time.utcSeconds = utcSeconds + BitVec.ofInt 32 whole ∧
          since.edge = whole * timingNominalTicks) := by
  have valid := Since.valid_invariant.reachable reached
  constructor
  · intro one
    have inForce := valid.inForce (one ▸ Nat.one_ne_zero)
    obtain ⟨whole, label, apart⟩ := inForce.labelled
    obtain ⟨running, next⟩ := inForce.first one
    refine ⟨whole, label, ?_, valid.firstEdge one⟩
    rw [apart, running, Int.sub_self, Int.zero_add, Int.abs_eq_natAbs]
    dsimp only [timingNominalTicks] at next ⊢
    omega
  · intro three
    have inForce := valid.inForce (by omega)
    obtain ⟨whole, label, apart⟩ := inForce.labelled
    have running := inForce.settledDown three
    have next := inForce.later (Nat.le_of_succ_le three)
    refine ⟨whole, label, ?_⟩
    rw [running, next, Int.sub_self, Int.add_zero] at apart
    exact (Int.sub_eq_zero.mp apart).symm

/-- A clock just started, at 07:00 on the first of January 2026, three epochs ago. -/
def startedAtSeven : Since where
  sync := (({} : Synchroniser).syncSetTime 1767250800 5 700).2
  edge := 52000000
  running := timingNominalTicks
  next := timingNominalTicks
  epochs := 0

/-- The four epochs from the third after that on. -/
def fourEpochs : List SyncAct :=
  (List.range 4).map fun later => .update { snapshot := { sequence := 8 + BitVec.ofNat 32 later } }

/-- Five seconds after the call it reads 07:00:05. -/
theorem time_set_on_the_second_started :
    ∃ since, (sinceCall 1767250800 5 700 3).Reachable (Since.Admits 5 3) since ∧
      since.sync.status.time.utcSeconds = 1767250805 ∧ since.edge = 5 * timingNominalTicks ∧
      ∃ whole : Int, since.sync.status.time.utcSeconds = 1767250800 + BitVec.ofInt 32 whole ∧
        since.edge = whole * timingNominalTicks := by
  have called : Since.Call 1767250800 5 700 3 startedAtSeven :=
    ⟨by decide, ⟨{}, .start rfl, rfl⟩, rfl, rfl, rfl, rfl, rfl, rfl⟩
  have fits : (sinceCall 1767250800 5 700 3).admitted (Since.Admits 5 3) startedAtSeven
      fourEpochs = true := by decide
  have reached := (Machine.Reachable.start called).run (Machine.Run.of_admitted fits)
  exact ⟨_, reached, by decide, by decide, (time_set_on_the_second reached).2 (by decide)⟩

end GpsClock.Sync
