import GpsClock.Sync.Synchroniser

/-! # What holds of the synchroniser after every epoch

The state, the selected source, the fallback, holdover and the challenge are kept by
different functions, several of which can move in one epoch. `SyncStatus.Consistent`
ties them together and is kept by every one of those functions; the loop's part of it
says that a step asked for in free run is taken before anything is steered by. What a
whole run keeps is `GpsClock.Sync.Synchroniser.every_update_sound`.
-/

namespace GpsClock.Sync

open GpsClock.Platform GpsClock.Timing

/-! ## Ranking -/

namespace SyncStatus

theorem lowest_some {eligible : SyncSourceId → Bool} {bound : SyncSourceId → Nat}
    {ids : List SyncSourceId} {best : Option SyncSourceId} {bestBound : Nat} {id : SyncSourceId}
    (found : lowest eligible bound ids best bestBound = some id) :
    best = some id ∨ (eligible id = true ∧ bound id < bestBound) := by
  induction ids generalizing best bestBound with
  | nil => exact Or.inl found
  | cons next rest ih =>
      unfold lowest at found
      split at found
      · next lower =>
          rcases ih found with same | ⟨fit, below⟩
          · cases same
            exact Or.inr lower
          · exact Or.inr ⟨fit, Nat.lt_trans below lower.2⟩
      · exact ih found

/-- What is found has the lowest bound of all that may be chosen. -/
theorem lowest_le {eligible : SyncSourceId → Bool} {bound : SyncSourceId → Nat}
    {ids : List SyncSourceId} {best : Option SyncSourceId} {bestBound : Nat} {id : SyncSourceId}
    (found : lowest eligible bound ids best bestBound = some id)
    (known : ∀ held, best = some held → bound held = bestBound) :
    bound id ≤ bestBound ∧ ∀ other ∈ ids, eligible other = true → bound id ≤ bound other := by
  induction ids generalizing best bestBound with
  | nil => exact ⟨Nat.le_of_eq (known id found), fun _ member => by cases member⟩
  | cons next rest ih =>
      unfold lowest at found
      split at found
      · next lower =>
          obtain ⟨below, least⟩ := ih found fun held same => by cases same; rfl
          refine ⟨Nat.le_of_lt (Nat.lt_of_le_of_lt below lower.2), fun other member fit => ?_⟩
          rcases List.mem_cons.mp member with rfl | later
          · exact below
          · exact least other later fit
      · next higher =>
          obtain ⟨below, least⟩ := ih found known
          refine ⟨below, fun other member fit => ?_⟩
          rcases List.mem_cons.mp member with rfl | later
          · exact Nat.le_trans below (Nat.not_lt.mp fun lower => higher ⟨fit, lower⟩)
          · exact least other later fit

theorem candidateBound_steers {status : SyncStatus} {id : SyncSourceId}
    (candidate : status.candidateBound (.source id) < syncBoundNone) :
    (definition id).steers = true := by
  by_contra idle
  rw [candidateBound, if_pos (by simpa using idle)] at candidate
  exact Nat.lt_irrefl _ candidate

theorem bestSource_some {status : SyncStatus} {except : Option SyncSourceId} {id : SyncSourceId}
    (best : status.bestSource except = some id) :
    some id ≠ except ∧ status.candidateBound (.source id) < syncBoundNone := by
  rcases lowest_some best with impossible | ⟨other, candidate⟩
  · cases impossible
  · exact ⟨by simpa using other, candidate⟩

theorem bestSource_steers {status : SyncStatus} {except : Option SyncSourceId} {id : SyncSourceId}
    (best : status.bestSource except = some id) : (definition id).steers = true :=
  candidateBound_steers (bestSource_some best).2

/-- The best source's bound is no higher than any other's that may be chosen. -/
theorem bestSource_le {status : SyncStatus} {except : Option SyncSourceId} {id : SyncSourceId}
    (best : status.bestSource except = some id) {other : SyncSourceId} (fit : some other ≠ except) :
    status.candidateBound (.source id) ≤ status.candidateBound (.source other) := by
  have listed : other ∈ sourceIds := by cases other <;> decide
  exact (lowest_le best nofun).2 other listed (by simpa using fit)

theorem bestFallback_steers {status : SyncStatus} {id : SyncSourceId}
    (best : status.bestFallback = some id) : (definition id).steers = true := by
  rcases lowest_some best with impossible | ⟨fit, _⟩
  · cases impossible
  · exact (Bool.and_eq_true_iff.mp fit).1

/-- Something is in use that a better source could displace. -/
def Incumbent (status : SyncStatus) : Prop :=
  status.state = .holdover ∨
    (status.state ≠ .freeRun ∧ status.sourceUsable status.source = true)

/-- The source that challenges it: the best other, and in holdover the best of all. -/
def rival (status : SyncStatus) : Option SyncSourceId :=
  status.bestSource (if status.state = .holdover then none else status.source)

/-- The reason a challenge is won for. -/
def winReason (status : SyncStatus) : SyncReason :=
  if status.state = .holdover then .alternative else .betterSource

/-! ## The status -/

/-- Two statuses that agree in what the state machine acts on, the fallback apart. -/
structure SameControl (after before : SyncStatus) : Prop where
  state : after.state = before.state
  source : after.source = before.source
  challenger : after.challenger = before.challenger
  challengeRun : after.challengeRun = before.challengeRun
  transitions : after.transitions = before.transitions
  history : after.history = before.history
  steered : after.steered = before.steered

theorem SameControl.refl (status : SyncStatus) : status.SameControl status :=
  ⟨rfl, rfl, rfl, rfl, rfl, rfl, rfl⟩

theorem SameControl.of_eq {after before : SyncStatus} (same : after = before) :
    after.SameControl before :=
  same ▸ .refl after

theorem SameControl.trans {after between before : SyncStatus} (later : after.SameControl between)
    (earlier : between.SameControl before) : after.SameControl before where
  state := later.state.trans earlier.state
  source := later.source.trans earlier.source
  challenger := later.challenger.trans earlier.challenger
  challengeRun := later.challengeRun.trans earlier.challengeRun
  transitions := later.transitions.trans earlier.transitions
  history := later.history.trans earlier.history
  steered := later.steered.trans earlier.steered

/-- What ties the status together, between any two of the functions an update calls. -/
structure Consistent (status : SyncStatus) : Prop where
  freeRun : status.state = .freeRun ↔ status.source = none
  steers : status.state ≠ .freeRun → syncSourceSteers status.source = true
  fallback : status.fallback = true → status.source ≠ none
  held : status.state = .holdover →
    status.holdover.ready = true ∧ status.holdover.source = status.source
  heldSteers : status.holdover.ready = true → syncSourceSteers status.holdover.source = true
  challenge : status.challengeRun ≠ 0 →
    ∃ id, status.challenger = some id ∧ (status.state = .holdover ∨ status.source ≠ some id)
  started : status.state ≠ .freeRun → status.steered = true

variable {status : SyncStatus}

/-- Nothing else of the status matters. -/
theorem Consistent.withControl (consistent : status.Consistent) {after : SyncStatus}
    (control : after.SameControl status) (fallback : after.fallback = status.fallback)
    (ready : after.holdover.ready = status.holdover.ready)
    (source : after.holdover.source = status.holdover.source) : after.Consistent := by
  constructor
  · rw [control.state, control.source]
    exact consistent.freeRun
  · rw [control.state, control.source]
    exact consistent.steers
  · rw [fallback, control.source]
    exact consistent.fallback
  · rw [control.state, ready, source, control.source]
    exact consistent.held
  · rw [ready, source]
    exact consistent.heldSteers
  · rw [control.challengeRun, control.challenger, control.state, control.source]
    exact consistent.challenge
  · rw [control.state, control.steered]
    exact consistent.started

theorem enter_consistent {state : SyncState} {source : Option SyncSourceId}
    (reason : SyncReason) (epoch : BitVec 32)
    (fallback : status.fallback = true → status.source ≠ none)
    (heldSteers : status.holdover.ready = true → syncSourceSteers status.holdover.source = true)
    (freeRun : state = .freeRun ↔ source = none)
    (steers : state ≠ .freeRun → syncSourceSteers source = true)
    (held : state = .holdover → status.holdover.ready = true ∧ status.holdover.source = source)
    (started : state ≠ .freeRun → status.steered = true) :
    (status.enter state source reason epoch).Consistent where
  freeRun := freeRun
  steers := steers
  fallback kept := by
    obtain ⟨fallen, same⟩ := Bool.and_eq_true_iff.mp kept
    have unchanged : source = status.source := by simpa using same
    exact unchanged ▸ fallback fallen
  held := held
  heldSteers := heldSteers
  challenge counted := absurd rfl counted
  started := started

theorem Consistent.enter (consistent : status.Consistent) {state : SyncState}
    {source : Option SyncSourceId} (reason : SyncReason) (epoch : BitVec 32)
    (freeRun : state = .freeRun ↔ source = none)
    (steers : state ≠ .freeRun → syncSourceSteers source = true)
    (held : state = .holdover → status.holdover.ready = true ∧ status.holdover.source = source)
    (started : state ≠ .freeRun → status.steered = true) :
    (status.enter state source reason epoch).Consistent :=
  enter_consistent reason epoch consistent.fallback consistent.heldSteers freeRun steers held
    started

theorem Consistent.enter_freeRun (consistent : status.Consistent) (reason : SyncReason)
    (epoch : BitVec 32) : (status.enter .freeRun none reason epoch).Consistent := by
  apply consistent.enter
  · simp
  · exact fun left => absurd rfl left
  · exact fun other => by cases other
  · exact fun left => absurd rfl left

theorem Consistent.startAfresh (consistent : status.Consistent) (epoch : BitVec 32) :
    (status.startAfresh epoch).Consistent := by
  apply enter_consistent
  · exact consistent.fallback
  · exact fun ready => by cases ready
  · simp
  · exact fun left => absurd rfl left
  · exact fun other => by cases other
  · exact fun left => absurd rfl left

/-- Between ACQUIRE, LOCKED and HOLDOVER of one source. -/
theorem Consistent.enter_tracking (consistent : status.Consistent)
    (running : status.state ≠ .freeRun) {state : SyncState} (reason : SyncReason)
    (epoch : BitVec 32) (tracking : state = .acquire ∨ state = .locked) :
    (status.enter state status.source reason epoch).Consistent := by
  have other : state ≠ .freeRun ∧ state ≠ .holdover := by
    rcases tracking with rfl | rfl <;> decide
  apply consistent.enter
  · exact iff_of_false other.1 (fun idle => running (consistent.freeRun.mpr idle))
  · exact fun _ => consistent.steers running
  · exact fun holding => absurd holding other.2
  · exact fun _ => consistent.started running

theorem Consistent.countChallenge (consistent : status.Consistent)
    {challenger : Option SyncSourceId} (incumbentBound : Nat)
    (rival : status.state = .holdover ∨ challenger ≠ status.source) :
    (status.countChallenge challenger incumbentBound).Consistent := by
  refine { consistent with challenge := fun counted => ?_ }
  by_cases won : status.outbids challenger incumbentBound
  · obtain ⟨id, named⟩ := Option.ne_none_iff_exists'.mp won.1
    refine ⟨id, (if_pos won).trans named, ?_⟩
    rcases rival with holding | other
    · exact Or.inl holding
    · exact Or.inr fun same => other (named.trans same.symm)
  · simp [SyncStatus.countChallenge, countRun, won] at counted

theorem Consistent.followLoop (consistent : status.Consistent) (loop : EpochControl)
    (snapshot : TimingSnapshot) (update : EpochUpdate) :
    (status.followLoop loop snapshot update).Consistent := by
  unfold SyncStatus.followLoop
  split
  · next measured =>
      exact consistent.enter_tracking (by rw [measured.1]; decide) _ _ (Or.inr rfl)
  · split
    · next left => exact consistent.enter_tracking (by rw [left.1]; decide) _ _ (Or.inl rfl)
    · exact consistent

theorem followLoop_track (status : SyncStatus) (loop : EpochControl) (snapshot : TimingSnapshot)
    (update : EpochUpdate) (locked : (status.followLoop loop snapshot update).state = .locked) :
    loop.state = .track := by
  unfold SyncStatus.followLoop at locked
  split at locked
  · next measured => exact measured.2.1
  · split at locked
    · cases locked
    · next kept => exact by_contra fun lost => kept ⟨locked, lost⟩

theorem Consistent.followHoldover (consistent : status.Consistent) (update : EpochUpdate) :
    (status.followHoldover update).Consistent := by
  unfold SyncStatus.followHoldover
  split
  · next measured =>
      have running : status.state ≠ .freeRun := by rw [measured.1]; decide
      exact { consistent with
        held := fun holding => absurd (measured.1.symm.trans holding) (by decide)
        heldSteers := fun _ => consistent.steers running }
  · split
    · exact { consistent with }
    · exact consistent

theorem Consistent.updateHoldoverBound (consistent : status.Consistent) :
    status.updateHoldoverBound.Consistent :=
  { consistent with }

end SyncStatus

/-! ## The whole synchroniser -/

namespace Synchroniser

/-- `SyncStatus.Consistent`, and what the free run step needs of the loop: until the
first source is steered by, the loop only acquires, where a step is taken at once. -/
structure Consistent (sync : Synchroniser) : Prop where
  status : sync.status.Consistent
  fresh : sync.status.steered = false → sync.loop.state = .acquire
  pending : sync.loop.freeRunStep ≠ 0 → sync.loop.state = .acquire

/-- What holds after every update. -/
structure Sound (sync : Synchroniser) : Prop where
  consistent : sync.Consistent
  track : sync.status.state = .locked → sync.loop.state = .track
  settled : sync.loop.freeRunStep = 0

variable {sync : Synchroniser}

theorem Consistent.withStatus (consistent : sync.Consistent) {after : Synchroniser}
    (valid : after.status.Consistent) (steered : after.status.steered = sync.status.steered)
    (loop : after.loop = sync.loop) : after.Consistent where
  status := valid
  fresh unsteered := loop ▸ consistent.fresh (steered ▸ unsteered)
  pending := loop ▸ consistent.pending

theorem Consistent.enter_freeRun (consistent : sync.Consistent) (reason : SyncReason)
    (epoch : BitVec 32) : (sync.enter .freeRun none reason epoch).Consistent :=
  consistent.withStatus (consistent.status.enter_freeRun reason epoch) rfl rfl

theorem Consistent.applyResync (consistent : sync.Consistent) (epoch : BitVec 32) :
    (sync.applyResync epoch).Consistent := by
  unfold Synchroniser.applyResync
  split
  · exact consistent
  · exact consistent.withStatus (consistent.status.startAfresh epoch) rfl rfl

/-- A step is only asked for while nothing has been steered by. -/
theorem Consistent.step (consistent : sync.Consistent) {after : Synchroniser}
    (unsteered : sync.status.steered = false) (valid : after.status.Consistent)
    (ticks : Int) (loop : after.loop = sync.loop.requestFreeRunStep ticks) :
    after.Consistent where
  status := valid
  fresh _ := loop ▸ consistent.fresh unsteered
  pending _ := loop ▸ consistent.fresh unsteered

theorem Consistent.applyManualTime (consistent : sync.Consistent) (epoch : BitVec 32) :
    (sync.applyManualTime epoch).Consistent := by
  unfold Synchroniser.applyManualTime
  split
  · exact consistent
  · split
    · exact consistent.withStatus consistent.status rfl rfl
    · next free =>
        have unsteered : sync.status.steered = false := by
          simpa using (not_or.mp free).2
        exact consistent.step unsteered { consistent.status with } _ rfl

theorem alignment_unsteered {status : SyncStatus} {id : SyncSourceId}
    (aligning : status.alignment = some id) : status.steered = false := by
  unfold SyncStatus.alignment at aligning
  split at aligning
  · cases aligning
  · next free => simpa using (not_or.mp (not_or.mp free).2).2

theorem Consistent.alignToTimeOfDay (consistent : sync.Consistent) :
    sync.alignToTimeOfDay.Consistent := by
  unfold Synchroniser.alignToTimeOfDay
  split
  · exact consistent
  · next aligning =>
      exact consistent.step (alignment_unsteered aligning) { consistent.status with } _ rfl

theorem Consistent.settleFallback (consistent : sync.Consistent) :
    sync.settleFallback.Consistent :=
  consistent.withStatus
    { consistent.status with
      fallback := fun kept => consistent.status.fallback (Bool.and_eq_true_iff.mp kept).1 }
    rfl rfl

theorem Consistent.judgeSources (consistent : sync.Consistent) (input : EpochInput) :
    (sync.judgeSources input).Consistent :=
  consistent.withStatus { consistent.status with } rfl rfl

theorem Consistent.beforeSources (consistent : sync.Consistent) (input : EpochInput) :
    (sync.beforeSources input).Consistent := by
  have judged := (consistent.applyResync input.snapshot.sequence).judgeSources input
  exact (judged.applyManualTime input.snapshot.sequence).settleFallback.alignToTimeOfDay

theorem Consistent.acquire (consistent : sync.Consistent) {source : SyncSourceId}
    (steers : (definition source).steers = true) (reason : SyncReason) (epoch : BitVec 32)
    (fallback : Bool) : (sync.acquire source reason epoch fallback).Consistent where
  status :=
    { freeRun := by simp [Synchroniser.acquire, SyncStatus.enter]
      steers := fun _ => steers
      fallback := fun _ => by simp [Synchroniser.acquire, SyncStatus.enter]
      held := fun holding => by cases holding
      heldSteers := consistent.status.heldSteers
      challenge := fun counted => absurd rfl counted
      started := fun _ => rfl }
  fresh unsteered := by cases unsteered
  pending asked := by
    have kept := EpochControl.restart_freeRunSteps sync.loop (definition source).profile
      (sync.slews source)
    apply EpochControl.restart_state
    exact consistent.pending fun none => asked ((congrArg Prod.fst kept).trans none)

theorem Consistent.challenge (consistent : sync.Consistent) {best : Option SyncSourceId}
    (incumbentBound : Nat) (rival : sync.status.state = .holdover ∨ best ≠ sync.status.source) :
    (sync.challenge best incumbentBound).2.Consistent :=
  consistent.withStatus (consistent.status.countChallenge incumbentBound rival) rfl rfl

theorem challenge_some {best : Option SyncSourceId} {incumbentBound : Nat} {id : SyncSourceId}
    {after : Synchroniser} (won : sync.challenge best incumbentBound = (some id, after)) :
    best = some id ∧ sync.status.challengeWon best incumbentBound ∧
      (sync.challenge best incumbentBound).2 = after := by
  have winner := congrArg Prod.fst won
  unfold Synchroniser.challenge at winner
  simp only at winner
  split at winner
  · next beaten => exact ⟨winner, beaten, congrArg Prod.snd won⟩
  · cases winner

theorem challenge_none {best : Option SyncSourceId} {incumbentBound : Nat} {after : Synchroniser}
    (lost : sync.challenge best incumbentBound = (none, after)) :
    ¬sync.status.challengeWon best incumbentBound ∧
      (sync.challenge best incumbentBound).2 = after := by
  refine ⟨fun won => ?_, congrArg Prod.snd lost⟩
  have nobody := congrArg Prod.fst lost
  unfold Synchroniser.challenge at nobody
  simp only [if_pos won] at nobody
  exact won.1.1 nobody

theorem Consistent.followFreeRun (consistent : sync.Consistent) (epoch : BitVec 32) :
    (sync.followFreeRun epoch).Consistent := by
  unfold Synchroniser.followFreeRun
  split
  · exact consistent
  · split
    · next best => exact consistent.acquire (SyncStatus.bestSource_steers best) _ _ _
    · split
      · next best => exact consistent.acquire (SyncStatus.bestFallback_steers best) _ _ _
      · exact consistent

/-- Holdover is entered on the source it has, and only while it is a candidate. -/
theorem Consistent.enter_holdover (consistent : sync.Consistent)
    (candidate : sync.status.candidateBound .holdover ≠ syncBoundNone)
    (running : sync.status.state ≠ .freeRun) (reason : SyncReason) (epoch : BitVec 32) :
    (sync.enter .holdover sync.status.holdover.source reason epoch).Consistent := by
  have ready : sync.status.holdover.ready = true := by
    by_contra dropped
    exact candidate (if_neg fun held => dropped held.1)
  have steers := consistent.status.heldSteers ready
  refine consistent.withStatus (consistent.status.enter reason epoch ?_ ?_ ?_ ?_) rfl rfl
  · refine iff_of_false (by decide) fun unheld => ?_
    rw [unheld] at steers
    cases steers
  · exact fun _ => steers
  · exact fun _ => ⟨ready, rfl⟩
  · exact fun _ => consistent.status.started running

theorem Consistent.followTracking (consistent : sync.Consistent)
    (running : sync.status.state ≠ .freeRun) (epoch : BitVec 32) :
    (sync.followTracking epoch).Consistent := by
  unfold Synchroniser.followTracking
  simp only
  split
  · have rival : sync.status.state = .holdover ∨
        sync.status.bestSource sync.status.source ≠ sync.status.source := by
      refine Or.inr fun same => ?_
      cases selected : sync.status.source with
      | none => exact running (consistent.status.freeRun.mpr selected)
      | some id =>
          rw [selected] at same
          exact (SyncStatus.bestSource_some same).1 rfl
    have counted := consistent.challenge sync.status.currentBound rival
    split
    · next won =>
        rw [won] at counted
        exact counted.acquire (SyncStatus.bestSource_steers (challenge_some won).1) _ _ _
    · next lost =>
        rw [lost] at counted
        exact counted
  · split
    · next candidate => exact consistent.enter_holdover candidate running _ _
    · split
      · next best => exact consistent.acquire (SyncStatus.bestSource_steers best) _ _ _
      · exact consistent.enter_freeRun _ _

theorem Consistent.followInHoldover (consistent : sync.Consistent)
    (holding : sync.status.state = .holdover) (epoch : BitVec 32) :
    (sync.followInHoldover epoch).Consistent := by
  have running : sync.status.state ≠ .freeRun := by
    rw [holding]
    decide
  unfold Synchroniser.followInHoldover
  simp only
  split
  · exact consistent.withStatus
      (consistent.status.enter_tracking running _ _ (Or.inr rfl)) rfl rfl
  · split
    · next selected =>
        have steers := consistent.status.steers running
        rw [selected] at steers
        exact consistent.acquire steers _ _ _
    · have counted : (sync.challenge (sync.status.bestSource none)
          sync.status.holdover.boundNs).2.Consistent := consistent.challenge _ (Or.inl holding)
      split
      · next won =>
          rw [won] at counted
          exact counted.acquire (SyncStatus.bestSource_steers (challenge_some won).1) _ _ _
      · next lost =>
          rw [lost] at counted
          split
          · exact counted.enter_freeRun _ _
          · exact counted

theorem Consistent.followSources (consistent : sync.Consistent) (epoch : BitVec 32) :
    (sync.followSources epoch).Consistent := by
  unfold Synchroniser.followSources
  split
  · exact consistent.followFreeRun epoch
  · next state => exact consistent.followTracking (by rw [state]; decide) epoch
  · next state => exact consistent.followTracking (by rw [state]; decide) epoch
  · next state => exact consistent.followInHoldover state epoch

theorem Consistent.chosen (consistent : sync.Consistent) (input : EpochInput) :
    (sync.chosen input).Consistent :=
  (consistent.beforeSources input).followSources input.snapshot.sequence

/-! ## The loop and what follows it -/

theorem edgeUsable_steered (consistent : sync.status.Consistent)
    (usable : edgeUsable sync.status = true) : sync.status.steered = true := by
  unfold edgeUsable at usable
  split at usable
  · next selected =>
      refine consistent.started fun idle => ?_
      rw [consistent.freeRun.mp idle] at selected
      cases selected
  · cases usable

theorem loopTold_steps (sync : Synchroniser) :
    sync.loopTold.state = sync.loop.state ∧
      sync.loopTold.freeRunSteps = sync.loop.freeRunSteps := by
  unfold loopTold
  split <;> exact ⟨rfl, rfl⟩

/-- A step asked for is taken or dropped by the loop's next update. -/
theorem Consistent.runLoop_settled (consistent : sync.Consistent) (input : EpochInput) :
    (sync.runLoop input).2.loop.freeRunStep = 0 := by
  obtain ⟨state, steps⟩ := loopTold_steps sync
  apply EpochControl.update_freeRunStep
  intro asked
  rw [state]
  exact consistent.pending fun none => asked ((congrArg Prod.fst steps).trans none)

theorem Consistent.runLoop (consistent : sync.Consistent) (input : EpochInput) :
    (sync.runLoop input).2.Consistent where
  status := consistent.status
  pending asked := absurd (consistent.runLoop_settled input) asked
  fresh unsteered := by
    have unsteered : sync.status.steered = false := unsteered
    have unusable : edgeUsable sync.status = false := by
      by_contra usable
      have steered := edgeUsable_steered consistent.status (by simpa using usable)
      rw [steered] at unsteered
      cases unsteered
    unfold Synchroniser.runLoop
    simp only [unusable, EpochControl.update_unusable]
    exact (EpochControl.hold_acquire _ _ ((loopTold_steps sync).1.trans (consistent.fresh unsteered))).1

theorem followHoldover_control (status : SyncStatus) (update : EpochUpdate) :
    (status.followHoldover update).SameControl status ∧
      (status.followHoldover update).fallback = status.fallback := by
  unfold SyncStatus.followHoldover
  split
  · exact ⟨⟨rfl, rfl, rfl, rfl, rfl, rfl, rfl⟩, rfl⟩
  · split
    · exact ⟨⟨rfl, rfl, rfl, rfl, rfl, rfl, rfl⟩, rfl⟩
    · exact ⟨.refl status, rfl⟩

theorem followLoop_steered (status : SyncStatus) (loop : EpochControl) (snapshot : TimingSnapshot)
    (update : EpochUpdate) : (status.followLoop loop snapshot update).steered = status.steered := by
  unfold SyncStatus.followLoop
  split
  · rfl
  · split <;> rfl

/-- What `sync_update` does to the status once holdover has been followed. -/
theorem finish_control (status : SyncStatus) (snapshot : TimingSnapshot) (update : EpochUpdate)
    (usable wasLocked : Bool) :
    let finished := ((status.updateHoldoverBound.keepTime snapshot usable
      wasLocked).rankSecond).countEpoch update
    finished.SameControl status ∧ finished.fallback = status.fallback ∧
      finished.holdover = status.updateHoldoverBound.holdover :=
  ⟨⟨rfl, rfl, rfl, rfl, rfl, rfl, rfl⟩, rfl, rfl⟩

/-- What follows the loop leaves the state machine's part of the status alone. -/
theorem afterLoop_control (sync : Synchroniser) (input : EpochInput) (update : EpochUpdate)
    (usable wasLocked : Bool) :
    (sync.afterLoop input update usable wasLocked).status.SameControl
      (sync.status.followLoop sync.loop input.snapshot update) :=
  (finish_control _ _ _ _ _).1.trans (followHoldover_control _ update).1

theorem afterLoop_held (sync : Synchroniser) (input : EpochInput) (update : EpochUpdate)
    (usable wasLocked : Bool) :
    (sync.afterLoop input update usable wasLocked).status.holdover =
      ((sync.status.followLoop sync.loop input.snapshot
        update).followHoldover update).updateHoldoverBound.holdover :=
  (finish_control _ _ _ _ _).2.2

theorem afterLoop_steered (sync : Synchroniser) (input : EpochInput) (update : EpochUpdate)
    (usable wasLocked : Bool) :
    (sync.afterLoop input update usable wasLocked).status.steered = sync.status.steered :=
  (afterLoop_control sync input update usable wasLocked).steered.trans (followLoop_steered _ _ _ _)

theorem Consistent.afterLoop (consistent : sync.Consistent) (input : EpochInput)
    (update : EpochUpdate) (usable wasLocked : Bool) :
    (sync.afterLoop input update usable wasLocked).Consistent := by
  have held := afterLoop_held sync input update usable wasLocked
  have followed := ((consistent.status.followLoop sync.loop input.snapshot
    update).followHoldover update).updateHoldoverBound
  obtain ⟨control, fallback, _⟩ := finish_control ((sync.status.followLoop sync.loop
    input.snapshot update).followHoldover update) input.snapshot update usable wasLocked
  have valid := followed.withControl (control.trans ⟨rfl, rfl, rfl, rfl, rfl, rfl, rfl⟩) fallback
    (congrArg SyncHoldover.ready held) (congrArg SyncHoldover.source held)
  exact consistent.withStatus valid (afterLoop_steered sync input update usable wasLocked) rfl

theorem afterLoop_track (sync : Synchroniser) (input : EpochInput) (update : EpochUpdate)
    (usable wasLocked : Bool)
    (locked : (sync.afterLoop input update usable wasLocked).status.state = .locked) :
    sync.loop.state = .track := by
  have control := afterLoop_control sync input update usable wasLocked
  exact SyncStatus.followLoop_track _ _ _ _ (control.state.symm.trans locked)

/-- The status of an update once the loop has run and been followed. -/
def loopFollowed (sync : Synchroniser) (input : EpochInput) : SyncStatus :=
  (sync.chosen input).status.followLoop ((sync.chosen input).runLoop input).2.loop input.snapshot
    ((sync.chosen input).runLoop input).1

/-- The status after an update, as far as the state machine goes. -/
theorem syncUpdate_control (sync : Synchroniser) (input : EpochInput) :
    (sync.syncUpdate input).2.status.SameControl (sync.loopFollowed input) :=
  afterLoop_control _ _ _ _ _

theorem syncUpdate_steered (sync : Synchroniser) (input : EpochInput) :
    (sync.syncUpdate input).2.status.steered = (sync.chosen input).status.steered :=
  afterLoop_steered _ _ _ _ _

theorem Consistent.syncUpdate (consistent : sync.Consistent) (input : EpochInput) :
    (sync.syncUpdate input).2.Sound where
  consistent := ((consistent.chosen input).runLoop input).afterLoop input _ _ _
  track := afterLoop_track _ input _ _ _
  settled := (consistent.chosen input).runLoop_settled input

/-! ## Whole runs -/

theorem syncSetTime_frame (sync : Synchroniser) (utcSeconds epochSequence : BitVec 32)
    (slotMs : Nat) :
    (sync.syncSetTime utcSeconds epochSequence slotMs).2.status = sync.status ∧
      (sync.syncSetTime utcSeconds epochSequence slotMs).2.loop = sync.loop := by
  unfold syncSetTime
  split <;> exact ⟨rfl, rfl⟩

theorem Sound.act (sound : sync.Sound) (act : SyncAct) : (synchroniser.step sync act).Sound := by
  cases act with
  | update input => exact sound.consistent.syncUpdate input
  | resync =>
      exact ⟨sound.consistent.withStatus sound.consistent.status rfl rfl, sound.track, sound.settled⟩
  | setLeap leap =>
      exact ⟨sound.consistent.withStatus { sound.consistent.status with } rfl rfl, sound.track,
        sound.settled⟩
  | setTime utcSeconds epochSequence slotMs =>
      obtain ⟨status, loop⟩ := syncSetTime_frame sync utcSeconds epochSequence slotMs
      change (sync.syncSetTime utcSeconds epochSequence slotMs).2.Sound
      refine ⟨sound.consistent.withStatus ?_ ?_ loop, ?_, ?_⟩
      · rw [status]
        exact sound.consistent.status
      · rw [status]
      · rw [status, loop]
        exact sound.track
      · rw [loop]
        exact sound.settled

theorem sound_invariant : synchroniser.Invariant (fun _ _ => True) Sound where
  start := by
    rintro sync rfl
    refine ⟨⟨⟨?_, ?_, ?_, ?_, ?_, ?_, ?_⟩, ?_, ?_⟩, ?_, ?_⟩ <;> decide
  step sync act sound _ := sound.act act

/-! ## The epoch is left alone once steered -/

/-- The synchroniser once the rival's challenge has been counted. -/
def challenged (sync : Synchroniser) : Synchroniser :=
  (sync.challenge sync.status.rival sync.status.currentBound).2

/-- All that `follow_sources` can do. -/
inductive Follows (epoch : BitVec 32) (sync : Synchroniser) : Synchroniser → Prop
  | idles (idle : sync.status.state = .freeRun) : Follows epoch sync sync
  | counts (incumbent : sync.status.Incumbent)
      (lost : ¬sync.status.challengeWon sync.status.rival sync.status.currentBound) :
      Follows epoch sync sync.challenged
  | wins (incumbent : sync.status.Incumbent) {target : SyncSourceId}
      (best : sync.status.rival = some target)
      (won : sync.status.challengeWon sync.status.rival sync.status.currentBound) :
      Follows epoch sync (sync.challenged.acquire target sync.status.winReason epoch false)
  | acquires (source : SyncSourceId) (reason : SyncReason) (fallback : Bool)
      (ordinary : reason ≠ .betterSource)
      (kept : sync.status.Incumbent → sync.status.source = some source) :
      Follows epoch sync (sync.acquire source reason epoch fallback)
  | enters (state : SyncState) (source : Option SyncSourceId) (reason : SyncReason)
      (ordinary : reason ≠ .betterSource)
      (kept : sync.status.Incumbent → source = sync.status.source) :
      Follows epoch sync (sync.enter state source reason epoch)
  | expires (holding : sync.status.state = .holdover) :
      Follows epoch sync (sync.challenged.enter .freeRun none .expired epoch)

theorem followFreeRun_follows (idle : sync.status.state = .freeRun) (epoch : BitVec 32) :
    Follows epoch sync (sync.followFreeRun epoch) := by
  have vacant : ¬sync.status.Incumbent := by
    rintro (holding | tracking)
    · exact absurd (idle.symm.trans holding) (by decide)
    · exact tracking.1 idle
  unfold Synchroniser.followFreeRun
  split
  · exact .idles idle
  · split
    · exact .acquires _ _ _ (by decide) fun incumbent => absurd incumbent vacant
    · split
      · exact .acquires _ _ _ (by decide) fun incumbent => absurd incumbent vacant
      · exact .idles idle

theorem followTracking_follows (running : sync.status.state ≠ .freeRun)
    (tracking : sync.status.state ≠ .holdover) (epoch : BitVec 32) :
    Follows epoch sync (sync.followTracking epoch) := by
  have rival : sync.status.bestSource sync.status.source = sync.status.rival := by
    unfold SyncStatus.rival
    rw [if_neg tracking]
  have reason : SyncReason.betterSource = sync.status.winReason := (if_neg tracking).symm
  unfold Synchroniser.followTracking
  simp only
  split
  · next usable =>
      have incumbent : sync.status.Incumbent := Or.inr ⟨running, usable⟩
      rw [rival]
      split
      · next won =>
          obtain ⟨best, challenged⟩ := challenge_some won
          rw [reason, ← challenged.2]
          exact .wins incumbent best challenged.1
      · next lost =>
          obtain ⟨unwon, challenged⟩ := challenge_none lost
          rw [← challenged]
          exact .counts incumbent unwon
  · next unusable =>
      have vacant : ¬sync.status.Incumbent := by
        rintro (holding | usable)
        · exact tracking holding
        · exact unusable usable.2
      split
      · exact .enters _ _ _ (by decide) fun incumbent => absurd incumbent vacant
      · split
        · exact .acquires _ _ _ (by decide) fun incumbent => absurd incumbent vacant
        · exact .enters _ _ _ (by decide) fun incumbent => absurd incumbent vacant

theorem followInHoldover_follows (holding : sync.status.state = .holdover) (epoch : BitVec 32) :
    Follows epoch sync (sync.followInHoldover epoch) := by
  have rival : sync.status.bestSource none = sync.status.rival := by
    unfold SyncStatus.rival
    rw [if_pos holding]
  have bound : sync.status.holdover.boundNs = sync.status.currentBound := by
    unfold SyncStatus.currentBound
    rw [holding]
  have reason : SyncReason.alternative = sync.status.winReason := (if_pos holding).symm
  unfold Synchroniser.followInHoldover
  simp only
  split
  · exact .enters _ _ _ (by decide) fun _ => rfl
  · split
    · next selected => exact .acquires _ _ _ (by decide) fun _ => selected
    · rw [rival, bound]
      split
      · next won =>
          obtain ⟨best, challenged⟩ := challenge_some won
          rw [reason, ← challenged.2]
          exact .wins (Or.inl holding) best challenged.1
      · next lost =>
          obtain ⟨unwon, challenged⟩ := challenge_none lost
          rw [← challenged]
          split
          · exact .expires holding
          · exact .counts (Or.inl holding) unwon

theorem followSources_follows (sync : Synchroniser) (epoch : BitVec 32) :
    Follows epoch sync (sync.followSources epoch) := by
  unfold Synchroniser.followSources
  split
  · next idle => exact followFreeRun_follows idle epoch
  · next state =>
      exact followTracking_follows (by rw [state]; decide) (by rw [state]; decide) epoch
  · next state =>
      exact followTracking_follows (by rw [state]; decide) (by rw [state]; decide) epoch
  · next holding => exact followInHoldover_follows holding epoch

theorem Follows.freeRunSteps {epoch : BitVec 32} {after : Synchroniser}
    (follows : Follows epoch sync after) :
    after.loop.freeRunSteps = sync.loop.freeRunSteps := by
  cases follows with
  | idles => rfl
  | counts => rfl
  | wins => exact EpochControl.restart_freeRunSteps _ _ _
  | acquires => exact EpochControl.restart_freeRunSteps _ _ _
  | enters => rfl
  | expires => rfl

theorem Follows.steered {epoch : BitVec 32} {after : Synchroniser}
    (follows : Follows epoch sync after) (steered : sync.status.steered = true) :
    after.status.steered = true := by
  cases follows with
  | idles => exact steered
  | counts => exact steered
  | wins => rfl
  | acquires => rfl
  | enters => exact steered
  | expires => exact steered

/-- Once steered, neither the RTC nor a time set by hand reaches the loop. -/
theorem beforeSources_steered (steered : sync.status.steered = true) (input : EpochInput) :
    (sync.beforeSources input).loop = sync.loop ∧
      (sync.beforeSources input).status.steered = true := by
  have afresh : (sync.applyResync input.snapshot.sequence).loop = sync.loop ∧
      (sync.applyResync input.snapshot.sequence).status.steered = true := by
    unfold Synchroniser.applyResync
    split
    · exact ⟨rfl, steered⟩
    · exact ⟨rfl, steered⟩
  have set (before : Synchroniser) (epoch : BitVec 32)
      (steered : before.status.steered = true) :
      (before.applyManualTime epoch).loop = before.loop ∧
        (before.applyManualTime epoch).status.steered = true := by
    unfold Synchroniser.applyManualTime
    rw [if_pos (Or.inr steered)]
    split
    · exact ⟨rfl, steered⟩
    · exact ⟨rfl, steered⟩
  have aligned (before : Synchroniser) (steered : before.status.steered = true) :
      before.alignToTimeOfDay = before := by
    have none : before.status.alignment = none := if_pos (Or.inr (Or.inr steered))
    unfold Synchroniser.alignToTimeOfDay
    rw [none]
  obtain ⟨loop, still⟩ := set ((sync.applyResync input.snapshot.sequence).judgeSources input)
    input.snapshot.sequence afresh.2
  have settled := aligned (((sync.applyResync input.snapshot.sequence).judgeSources
    input).applyManualTime input.snapshot.sequence).settleFallback still
  unfold Synchroniser.beforeSources
  simp only [settled]
  exact ⟨loop.trans afresh.1, still⟩

/-- An update in which no step asked for by `align_to_time_of_day` or by a time set by
hand reaches the loop, or is taken by it. -/
structure Unmoved (sync : Synchroniser) (input : EpochInput) : Prop where
  handed : (sync.chosen input).loop.freeRunStep = 0
  taken : (sync.syncUpdate input).2.loop.freeRunStepTaken = sync.loop.freeRunStepTaken

theorem Sound.unmoved (sound : sync.Sound) (steered : sync.status.steered = true)
    (input : EpochInput) : sync.Unmoved input := by
  have steps : (sync.chosen input).loop.freeRunSteps = sync.loop.freeRunSteps := by
    rw [← (beforeSources_steered steered input).1]
    exact (followSources_follows _ _).freeRunSteps
  have handed : (sync.chosen input).loop.freeRunStep = 0 :=
    (congrArg Prod.fst steps).trans sound.settled
  refine ⟨handed, ?_⟩
  have told := (loopTold_steps (sync.chosen input)).2
  have none := (congrArg Prod.fst told).trans handed
  exact (EpochControl.update_freeRunStepTaken _ _ none).trans
    ((congrArg Prod.snd told).trans (congrArg Prod.snd steps))

theorem steered_act (steered : sync.status.steered = true) (act : SyncAct) :
    (synchroniser.step sync act).status.steered = true := by
  cases act with
  | update input =>
      have chosen := (followSources_follows (sync.beforeSources input)
        input.snapshot.sequence).steered (beforeSources_steered steered input).2
      change (sync.syncUpdate input).2.status.steered = true
      rw [syncUpdate_steered]
      exact chosen
  | resync => exact steered
  | setLeap leap => exact steered
  | setTime utcSeconds epochSequence slotMs =>
      exact (congrArg SyncStatus.steered (syncSetTime_frame sync _ _ _).1).trans steered

/-- A report of the GNSS receiver with a fix: one edge for each epoch, a second apart. -/
def gnssReport (epoch : BitVec 32) : SyncSourceReport :=
  { present := true
    timeValid := true
    edge := true
    edgeSequence := epoch
    captured := true
    labelled := true
    utcSeconds := 1000 + epoch
    uncertaintyNs := 30 }

end Synchroniser

end GpsClock.Sync
