import GpsClock.Sync.Invariants

/-! # Holdover expires once

The holdover bound is computed twice an epoch, in 64 bits, from a 32-bit age that
counts for as long as the clock runs. The polynomial wraps at great ages, but it has
saturated long before (`GpsClock.Sync.SyncStatus.holdoverBound_mono`), so the bound
only falls when the loop measures while locked, and holdover that has expired is not a
candidate before that (`GpsClock.Sync.Synchroniser.expired_holdover_stays`).
-/

namespace GpsClock.Sync

open GpsClock.Platform GpsClock.Timing

theorem saturate_mono {low high : Nat} (le : low ≤ high) : saturate low ≤ saturate high := by
  unfold saturate syncBoundNone
  split <;> split <;> omega

theorem saturate_lt (value : Nat) : saturate value < syncBoundNone := by
  unfold saturate syncBoundNone
  split <;> omega

namespace SyncStatus

/-- The age from which the frequency term alone saturates the bound. -/
def saturationAge : Nat := 107374183

variable {baseNs frequencyNs early late : Nat}

/-- The sum itself stays within 64 bits; only its square term may have wrapped. -/
theorem holdoverBound_sum (base : baseNs < 2 ^ 32) (frequency : frequencyNs ≤ 1000)
    {age : Nat} (counted : age < 2 ^ 32) :
    holdoverBound baseNs frequencyNs age =
      saturate (baseNs + frequencyNs * age +
        syncHoldoverDriftPptPerS * age * age % 2 ^ 64 / 2000) := by
  have linear : frequencyNs * age ≤ 1000 * 2 ^ 32 := by gcongr
  have square : syncHoldoverDriftPptPerS * age * age % 2 ^ 64 < 2 ^ 64 :=
    Nat.mod_lt _ (by norm_num)
  unfold holdoverBound
  congr 1
  apply Nat.mod_eq_of_lt
  omega

/-- Before that age the square term has not wrapped. -/
theorem square_lt {age : Nat} (young : age < saturationAge) :
    syncHoldoverDriftPptPerS * age * age < 2 ^ 64 := by
  calc syncHoldoverDriftPptPerS * age * age
      ≤ syncHoldoverDriftPptPerS * saturationAge * saturationAge := by gcongr
    _ < 2 ^ 64 := by decide

theorem holdoverBound_saturated (base : baseNs < 2 ^ 32)
    (frequency : 40 ≤ frequencyNs ∧ frequencyNs ≤ 1000) (counted : late < 2 ^ 32)
    (old : saturationAge ≤ late) : holdoverBound baseNs frequencyNs late = syncBoundNone - 1 := by
  have linear : 40 * saturationAge ≤ frequencyNs * late := Nat.mul_le_mul frequency.1 old
  rw [holdoverBound_sum base frequency.2 counted]
  refine if_pos ?_
  have enough : syncBoundNone ≤ 40 * saturationAge := by decide
  omega

/-- The bound grows with the age, for every age a `uint32_t` can hold. -/
theorem holdoverBound_mono (base : baseNs < 2 ^ 32)
    (frequency : 40 ≤ frequencyNs ∧ frequencyNs ≤ 1000) (counted : late < 2 ^ 32)
    (older : early ≤ late) :
    holdoverBound baseNs frequencyNs early ≤ holdoverBound baseNs frequencyNs late := by
  rcases Nat.lt_or_ge late saturationAge with young | old
  · rw [holdoverBound_sum base frequency.2 counted,
      holdoverBound_sum base frequency.2 (lt_of_le_of_lt older counted)]
    rw [Nat.mod_eq_of_lt (square_lt young),
      Nat.mod_eq_of_lt (square_lt (lt_of_le_of_lt older young))]
    apply saturate_mono
    gcongr
  · rw [holdoverBound_saturated base frequency counted old]
    exact Nat.le_sub_one_of_lt (saturate_lt _)

end SyncStatus

/-! ## Between updates -/

/-- What a `SyncHoldover` can be between two updates. -/
structure SyncHoldover.Valid (holdover : SyncHoldover) : Prop where
  bound : holdover.boundNs =
    if holdover.ready then
      SyncStatus.holdoverBound holdover.baseNs holdover.frequencyNs holdover.age
    else syncBoundNone
  base : holdover.baseNs < 2 ^ 32
  frequency : holdover.ready = true → 40 ≤ holdover.frequencyNs ∧ holdover.frequencyNs ≤ 1000
  age : holdover.age < 2 ^ 32

namespace SyncHoldover

/-- The holdover with its bound computed afresh. -/
def rebound (holdover : SyncHoldover) : SyncHoldover :=
  { holdover with
    boundNs :=
      if holdover.ready then
        SyncStatus.holdoverBound holdover.baseNs holdover.frequencyNs holdover.age
      else syncBoundNone }

/-- What a resync leaves of it. -/
def dropped (holdover : SyncHoldover) : SyncHoldover :=
  { holdover with ready := false, boundNs := syncBoundNone }

variable {holdover : SyncHoldover}

theorem Valid.rebound_eq (valid : holdover.Valid) : holdover.rebound = holdover := by
  unfold rebound
  rw [← valid.bound]

theorem Valid.dropped (valid : holdover.Valid) : holdover.dropped.Valid where
  bound := rfl
  base := valid.base
  frequency ready := by cases ready
  age := valid.age

theorem Valid.boundNs_le (valid : holdover.Valid) : holdover.boundNs ≤ syncBoundNone := by
  rw [valid.bound]
  split
  · exact (saturate_lt _).le
  · exact le_rfl

/-- One epoch older. -/
theorem Valid.older (valid : holdover.Valid) (room : holdover.age < 0xFFFFFFFF) :
    ({ holdover with age := holdover.age + 1 } : SyncHoldover).rebound.Valid where
  bound := rfl
  base := valid.base
  frequency := valid.frequency
  age := Nat.add_lt_of_lt_sub room

theorem Valid.older_boundNs (valid : holdover.Valid) (room : holdover.age < 0xFFFFFFFF)
    (ready : holdover.ready = true) :
    holdover.boundNs ≤ ({ holdover with age := holdover.age + 1 } : SyncHoldover).rebound.boundNs := by
  have counted : holdover.age + 1 < 2 ^ 32 := Nat.add_lt_of_lt_sub room
  rw [valid.bound, if_pos ready]
  unfold rebound
  simp only [ready, if_true]
  exact SyncStatus.holdoverBound_mono valid.base (valid.frequency ready) counted (Nat.le_succ _)

end SyncHoldover

namespace Synchroniser

variable {sync : Synchroniser}

/-- The loop was locked in this epoch, and measured. -/
def Relocked (sync : Synchroniser) (input : EpochInput) : Prop :=
  (sync.syncUpdate input).2.status.state = .locked ∧
    (sync.syncUpdate input).1.loop.kind = .measured

instance (sync : Synchroniser) (input : EpochInput) : Decidable (sync.Relocked input) :=
  inferInstanceAs (Decidable (_ ∧ _))

theorem applyResync_holdover (sync : Synchroniser) (epoch : BitVec 32) :
    (sync.applyResync epoch).status.holdover =
      if sync.resyncPending then sync.status.holdover.dropped else sync.status.holdover := by
  unfold Synchroniser.applyResync
  cases sync.resyncPending <;> rfl

theorem Follows.holdover {epoch : BitVec 32} {after : Synchroniser}
    (follows : Follows epoch sync after) : after.status.holdover = sync.status.holdover := by
  cases follows <;> rfl

theorem beforeSources_holdover (sync : Synchroniser) (input : EpochInput) :
    (sync.beforeSources input).status.holdover =
      (sync.applyResync input.snapshot.sequence).status.holdover.rebound := by
  have aligned (before : Synchroniser) :
      before.alignToTimeOfDay.status.holdover = before.status.holdover := by
    unfold Synchroniser.alignToTimeOfDay
    split <;> rfl
  have set (before : Synchroniser) (epoch : BitVec 32) :
      (before.applyManualTime epoch).status.holdover = before.status.holdover := by
    unfold Synchroniser.applyManualTime
    split
    · rfl
    · split <;> rfl
  unfold Synchroniser.beforeSources
  simp only [aligned]
  exact congrArg SyncHoldover.rebound (set _ _)

theorem chosen_holdover (sync : Synchroniser) (input : EpochInput) :
    (sync.chosen input).status.holdover =
      (sync.applyResync input.snapshot.sequence).status.holdover.rebound :=
  (followSources_follows _ _).holdover.trans (beforeSources_holdover sync input)

theorem followLoop_holdover (status : SyncStatus) (loop : EpochControl)
    (snapshot : TimingSnapshot) (update : EpochUpdate) :
    (status.followLoop loop snapshot update).holdover = status.holdover := by
  unfold SyncStatus.followLoop
  split
  · rfl
  · split <;> rfl

/-- The holdover of a loop that has just measured, locked to a source. -/
def restarted (status : SyncStatus) (update : EpochUpdate) (source : SyncSourceId) :
    SyncHoldover :=
  { status.holdover with
    ready := true
    source := some source
    age := 0
    baseNs := saturate ((status.sources source).boundNs + ticksToNs update.utcOffsetTicks)
    frequencyNs := (definition source).holdoverFrequencyNs }

/-- What `follow_holdover` can do: start afresh from the source, age, or nothing. -/
theorem followHoldover_cases {status : SyncStatus} (consistent : status.Consistent)
    (update : EpochUpdate) :
    (status.state = .locked ∧ update.kind = .measured ∧
        ∃ source, (definition source).steers = true ∧
          (status.followHoldover update).holdover = restarted status update source) ∨
      (¬(status.state = .locked ∧ update.kind = .measured) ∧
        ((status.followHoldover update).holdover = status.holdover ∨
          (status.holdover.ready = true ∧ status.holdover.age < 0xFFFFFFFF ∧
            (status.followHoldover update).holdover =
              { status.holdover with age := status.holdover.age + 1 }))) := by
  unfold SyncStatus.followHoldover
  by_cases measured : status.state = .locked ∧ update.kind = .measured
  · refine Or.inl ⟨measured.1, measured.2, ?_⟩
    have steers := consistent.steers (by rw [measured.1]; decide)
    cases selected : status.source with
    | none =>
        rw [selected] at steers
        cases steers
    | some source =>
        rw [selected] at steers
        refine ⟨source, steers, ?_⟩
        rw [if_pos measured]
        rfl
  · refine Or.inr ⟨measured, ?_⟩
    rw [if_neg measured]
    by_cases ages : status.holdover.ready = true ∧ status.holdover.age < 0xFFFFFFFF
    · rw [if_pos ages]
      exact Or.inr ⟨ages.1, ages.2, rfl⟩
    · rw [if_neg ages]
      exact Or.inl rfl

theorem steers_frequency {source : SyncSourceId} (steers : (definition source).steers = true) :
    40 ≤ (definition source).holdoverFrequencyNs ∧
      (definition source).holdoverFrequencyNs ≤ 1000 := by
  cases source with
  | gnss => decide
  | ntp => decide
  | rtc => cases steers

theorem restarted_valid (status : SyncStatus) (update : EpochUpdate) {source : SyncSourceId}
    (steers : (definition source).steers = true) :
    (restarted status update source).rebound.Valid where
  bound := rfl
  base := (saturate_lt _).trans (by norm_num)
  frequency _ := steers_frequency steers
  age := by norm_num [restarted, SyncHoldover.rebound]

theorem syncUpdate_followed (sync : Synchroniser) (input : EpochInput) :
    (sync.syncUpdate input).2.status.holdover =
      ((sync.loopFollowed input).followHoldover
        ((sync.chosen input).runLoop input).1).holdover.rebound :=
  afterLoop_held _ _ _ _ _

/-- What one update does to holdover: it starts afresh when the loop has measured while
locked, and otherwise keeps its base and grows no younger. -/
theorem syncUpdate_holdover (consistent : sync.Consistent)
    (valid : sync.status.holdover.Valid) (input : EpochInput) :
    (sync.syncUpdate input).2.status.holdover.Valid ∧
      (¬sync.Relocked input →
        sync.status.holdover.boundNs ≤ (sync.syncUpdate input).2.status.holdover.boundNs) := by
  have kept : (sync.applyResync input.snapshot.sequence).status.holdover.Valid ∧
      sync.status.holdover.boundNs ≤
        (sync.applyResync input.snapshot.sequence).status.holdover.boundNs := by
    rw [applyResync_holdover]
    split
    · exact ⟨valid.dropped, valid.boundNs_le⟩
    · exact ⟨valid, le_rfl⟩
  have chosen : (sync.loopFollowed input).holdover =
      (sync.applyResync input.snapshot.sequence).status.holdover :=
    (followLoop_holdover _ _ _ _).trans ((chosen_holdover sync input).trans kept.1.rebound_eq)
  rw [← chosen] at kept
  obtain ⟨valid, grown⟩ := kept
  rw [syncUpdate_followed]
  have followed : (sync.loopFollowed input).Consistent :=
    (consistent.chosen input).status.followLoop _ _ _
  rcases followHoldover_cases followed ((sync.chosen input).runLoop input).1 with
    ⟨locked, measured, source, steers, afresh⟩ | ⟨_, same | ⟨ready, room, older⟩⟩
  · rw [afresh]
    refine ⟨restarted_valid _ _ steers, fun unlocked => ?_⟩
    exact absurd ⟨(syncUpdate_control sync input).state.trans locked, measured⟩ unlocked
  · rw [same, valid.rebound_eq]
    exact ⟨valid, fun _ => grown⟩
  · rw [older]
    exact ⟨valid.older room, fun _ => grown.trans (valid.older_boundNs room ready)⟩

/-! ## Whole runs -/

theorem holdover_invariant :
    synchroniser.Invariant (fun _ _ => True)
      (fun sync => sync.Sound ∧ sync.status.holdover.Valid) where
  start := by
    rintro sync rfl
    exact ⟨sound_invariant.start _ rfl, rfl, by decide, (fun ready => by cases ready), by decide⟩
  step sync act held _ := by
    refine ⟨held.1.act act, ?_⟩
    cases act with
    | update input => exact (syncUpdate_holdover held.1.consistent held.2 input).1
    | resync => exact held.2
    | setLeap leap => exact held.2
    | setTime utcSeconds epochSequence slotMs =>
        have status := (syncSetTime_frame sync utcSeconds epochSequence slotMs).1
        exact (congrArg (fun status => status.holdover.Valid) status).mpr held.2

/-- Holdover whose bound has passed `SYNC_SYNCHRONISED_LIMIT_NS`. -/
def Expired (sync : Synchroniser) : Prop :=
  syncSynchronisedLimitNs < sync.status.holdover.boundNs

theorem Expired.candidateBound {status : SyncStatus}
    (expired : syncSynchronisedLimitNs < status.holdover.boundNs) :
    status.candidateBound .holdover = syncBoundNone :=
  if_neg fun candidate => absurd candidate.2 (Nat.not_le.mpr expired)

/-- With holdover expired, `follow_sources` neither enters it nor stays in it. -/
theorem followSources_expired {epoch : BitVec 32} (expired : sync.Expired) :
    (sync.followSources epoch).status.state ≠ .holdover := by
  have tracking : (sync.followTracking epoch).status.state = .holdover →
      sync.status.state = .holdover := by
    intro holding
    unfold Synchroniser.followTracking at holding
    simp only [Expired.candidateBound expired] at holding
    split at holding
    · split at holding
      · cases holding
      · next lost =>
          have status := congrArg (fun result => result.2.status.state) lost
          exact status.trans holding
    · split at holding
      · next candidate => exact absurd rfl candidate
      · split at holding
        · cases holding
        · cases holding
  intro holding
  unfold Synchroniser.followSources at holding
  split at holding
  · next idle =>
      unfold Synchroniser.followFreeRun at holding
      split at holding
      · exact absurd (idle.symm.trans holding) (by decide)
      · split at holding
        · cases holding
        · split at holding
          · cases holding
          · exact absurd (idle.symm.trans holding) (by decide)
  · next state => exact absurd (state.symm.trans (tracking holding)) (by decide)
  · next state => exact absurd (state.symm.trans (tracking holding)) (by decide)
  · unfold Synchroniser.followInHoldover at holding
    simp only at holding
    split at holding
    · cases holding
    · split at holding
      · cases holding
      · split at holding
        · cases holding
        · next lost =>
            have status := congrArg (fun result => result.2.status.holdover.boundNs) lost
            have still : sync.status.holdover.boundNs = _ := status
            rw [if_pos (still ▸ expired)] at holding
            cases holding

theorem followLoop_not_holdover {status : SyncStatus} {loop : EpochControl}
    {snapshot : TimingSnapshot} {update : EpochUpdate} (left : status.state ≠ .holdover) :
    (status.followLoop loop snapshot update).state ≠ .holdover := by
  unfold SyncStatus.followLoop
  split
  · exact fun entered => by cases entered
  · split
    · exact fun entered => by cases entered
    · exact left

theorem Expired.not_holdover (expired : sync.Expired) (valid : sync.status.holdover.Valid)
    (input : EpochInput) : (sync.syncUpdate input).2.status.state ≠ .holdover := by
  rw [(syncUpdate_control sync input).state]
  apply followLoop_not_holdover
  apply followSources_expired
  unfold Expired
  rw [beforeSources_holdover, applyResync_holdover]
  split
  · change syncSynchronisedLimitNs < syncBoundNone
    decide
  · rw [valid.rebound_eq]
    exact expired

/-- Everything but an update that measures while locked. -/
def NotRelocked (sync : Synchroniser) : SyncAct → Prop
  | .update input => ¬sync.Relocked input
  | _ => True

theorem expired_act (held : sync.Sound ∧ sync.status.holdover.Valid) (expired : sync.Expired)
    (act : SyncAct) (kept : sync.NotRelocked act) : (synchroniser.step sync act).Expired := by
  cases act with
  | update input =>
      exact lt_of_lt_of_le expired ((syncUpdate_holdover held.1.consistent held.2 input).2 kept)
  | resync => exact expired
  | setLeap leap => exact expired
  | setTime utcSeconds epochSequence slotMs =>
      have status := (syncSetTime_frame sync utcSeconds epochSequence slotMs).1
      exact lt_of_lt_of_eq expired (congrArg (fun status => status.holdover.boundNs) status).symm

/-- The bound does not fall from one update to the next unless the loop measured while
locked. Once it has passed the limit, then until the loop has measured locked to a source
again, holdover is no candidate, no update ends in it, and it does not count as
synchronised. -/
theorem expired_holdover_stays (reached : synchroniser.Reachable (fun _ _ => True) sync) :
    (∀ input, ¬sync.Relocked input →
      sync.status.holdover.boundNs ≤ (sync.syncUpdate input).2.status.holdover.boundNs) ∧
    (syncSynchronisedLimitNs < sync.status.holdover.boundNs →
      ∀ acts final, synchroniser.Run NotRelocked sync acts final →
        final.status.candidateBound .holdover = syncBoundNone ∧
          (∀ input, (final.syncUpdate input).2.status.state ≠ .holdover) ∧
          (final.status.state = .holdover → final.status.isSynchronised = false)) := by
  have held := holdover_invariant.reachable reached
  refine ⟨fun input => (syncUpdate_holdover held.1.consistent held.2 input).2, ?_⟩
  intro expired acts final run
  have still : (final.Sound ∧ final.status.holdover.Valid) ∧ final.Expired := by
    clear reached
    induction run with
    | nil => exact ⟨held, expired⟩
    | cons act kept _ ih =>
        exact ih (holdover_invariant.step _ act held trivial) (expired_act held expired act kept)
  refine ⟨Expired.candidateBound still.2, still.2.not_holdover still.1.2, fun holding => ?_⟩
  unfold SyncStatus.isSynchronised SyncStatus.currentBound
  rw [holding]
  simpa [Expired] using still.2

/-- NTP, only good to 200 ms, taken as a fallback and locked to: holdover is ready, with
its bound past the limit from the start. Then NTP falls silent. -/
theorem expired_holdover_stays_fallback :
    let epoch (sequence : BitVec 32) (heard : Bool) : EpochInput :=
      { snapshot := { sequence := sequence, referenceCaptureValid := true,
                      epochCaptureValid := true }
        reports := fun id =>
          if id = .ntp ∧ heard then { gnssReport sequence with uncertaintyNs := 200000000 } else {}
        numbers := { seed := some 40000000 } }
    let acts := [1, 2, 3, 4, 5, 6, 7].map fun sequence => SyncAct.update (epoch sequence true)
    let sync := acts.foldl synchroniser.step {}
    let final := (sync.syncUpdate (epoch 8 false)).2
    sync.status.state = .locked ∧ sync.status.holdover.ready = true ∧
      sync.status.holdover.boundNs = 200020000 ∧
      sync.status.holdover.boundNs ≤ final.status.holdover.boundNs ∧
      final.status.candidateBound .holdover = syncBoundNone ∧
      (∀ input, (final.syncUpdate input).2.status.state ≠ .holdover) ∧
      (final.status.state = .holdover → final.status.isSynchronised = false) := by
  intro epoch acts sync final
  have initial : synchroniser.Reachable (fun _ _ => True) {} := .start rfl
  have run : synchroniser.Run (fun _ _ => True) {} acts sync := .foldl (fun _ _ => trivial) _ _
  have unlocked : ¬sync.Relocked (epoch 8 false) := by decide +kernel
  have silent : synchroniser.Run NotRelocked sync [.update (epoch 8 false)] final :=
    .single _ unlocked
  obtain ⟨grows, stays⟩ := expired_holdover_stays (initial.run run)
  exact ⟨by decide +kernel, by decide +kernel, by decide +kernel, grows _ unlocked,
    stays (by decide +kernel) _ _ silent⟩

end Synchroniser

end GpsClock.Sync
