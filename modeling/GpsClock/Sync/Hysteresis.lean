import GpsClock.Sync.Invariants

/-! # A better source has to stay better

A challenger displaces the source in use once it has beaten its bound by the ratio for
ten epochs in a row. The counter is reset by every transition, by a change of
challenger and by an epoch without a win, so its value is the length of the streak of
updates just past in which one challenger beat one incumbent in one state
(`GpsClock.Sync.Synchroniser.tracked`), and no source in use gives way to another
before that (`GpsClock.Sync.Synchroniser.source_switch`).
-/

namespace GpsClock.Sync

open GpsClock.Platform GpsClock.Timing

def SyncAct.IsUpdate : SyncAct → Prop
  | .update _ => True
  | _ => False

namespace SyncStatus

/-! ## The transitions an update records -/

/-- The transitions the history has from one status to a later one. -/
def recorded (before after : SyncStatus) : List SyncTransition :=
  (List.range (after.transitions - before.transitions).toNat).map fun index =>
    after.history (historySlot (before.transitions + BitVec.ofNat 32 index))

/-- The transition `enter` records. -/
def entered (status : SyncStatus) (state : SyncState) (source : Option SyncSourceId)
    (reason : SyncReason) (epoch : BitVec 32) : SyncTransition where
  epoch := epoch
  fromState := status.state
  toState := state
  source := source
  reason := reason
  verdict := (status.source.map fun id => (status.sources id).check).getD .absent

theorem recorded_self (status : SyncStatus) : recorded status status = [] := by
  unfold recorded
  rw [BitVec.sub_self]
  rfl

theorem recorded_congr {before after other : SyncStatus}
    (transitions : other.transitions = after.transitions) (history : other.history = after.history) :
    recorded before other = recorded before after := by
  unfold recorded
  rw [transitions, history]

theorem historySlot_ne (first : BitVec 32) {index count : Nat} (less : index < count)
    (few : count < 8) :
    historySlot (first + BitVec.ofNat 32 index) ≠ historySlot (first + BitVec.ofNat 32 count) := by
  intro same
  have values := congrArg Fin.val same
  simp only [historySlot, Fin.val_ofNat, BitVec.toNat_add, BitVec.toNat_ofNat] at values
  omega

theorem recorded_enter {before after : SyncStatus} {state : SyncState}
    {source : Option SyncSourceId} {reason : SyncReason} {epoch : BitVec 32}
    (few : (recorded before after).length < 8) :
    recorded before (after.enter state source reason epoch) =
      recorded before after ++ [after.entered state source reason epoch] := by
  obtain ⟨count, made⟩ : ∃ count, (after.transitions - before.transitions).toNat = count :=
    ⟨_, rfl⟩
  have few : count < 8 := by simpa [recorded, made] using few
  have latest : after.transitions = before.transitions + BitVec.ofNat 32 count := by
    bv_omega
  have more : (after.transitions + 1 - before.transitions).toNat = count + 1 := by
    bv_omega
  unfold recorded
  rw [show (after.enter state source reason epoch).transitions = after.transitions + 1 from rfl,
    more, made, List.range_succ, List.map_append]
  congr 1
  · apply List.map_congr_left
    intro index member
    have other := historySlot_ne before.transitions (List.mem_range.mp member) few
    rw [← latest] at other
    exact Function.update_of_ne other _ _
  · rw [List.map_singleton, ← latest]
    exact congrArg (fun entry => [entry]) (Function.update_self _ _ _)

/-- So many transitions recorded at most, none of them to a better source. -/
def Ordinary (before after : SyncStatus) (count : Nat) : Prop :=
  (recorded before after).length ≤ count ∧
    ∀ entry ∈ recorded before after, entry.reason ≠ .betterSource

variable {before after : SyncStatus} {count : Nat}

theorem Ordinary.congr (ordinary : Ordinary before after count) {other : SyncStatus}
    (transitions : other.transitions = after.transitions) (history : other.history = after.history) :
    Ordinary before other count := by
  unfold Ordinary
  rw [recorded_congr transitions history]
  exact ordinary

theorem Ordinary.mono (ordinary : Ordinary before after count) {more : Nat} (le : count ≤ more) :
    Ordinary before after more :=
  ⟨Nat.le_trans ordinary.1 le, ordinary.2⟩

theorem mem_recorded_enter {state : SyncState} {source : Option SyncSourceId} {reason : SyncReason}
    {epoch : BitVec 32} (few : (recorded before after).length < 8) {entry : SyncTransition}
    (member : entry ∈ recorded before (after.enter state source reason epoch)) :
    entry ∈ recorded before after ∨ entry = after.entered state source reason epoch := by
  rw [recorded_enter few] at member
  rcases List.mem_append.mp member with earlier | latest
  · exact Or.inl earlier
  · exact Or.inr (List.mem_singleton.mp latest)

theorem Ordinary.enter (ordinary : Ordinary before after count) (few : count < 8)
    (state : SyncState) (source : Option SyncSourceId) {reason : SyncReason}
    (plain : reason ≠ .betterSource) (epoch : BitVec 32) :
    Ordinary before (after.enter state source reason epoch) (count + 1) := by
  have room := Nat.lt_of_le_of_lt ordinary.1 few
  refine ⟨?_, fun entry member => ?_⟩
  · rw [recorded_enter room, List.length_append]
    exact Nat.add_le_add_right ordinary.1 1
  · rcases mem_recorded_enter room member with earlier | rfl
    · exact ordinary.2 entry earlier
    · exact plain

theorem countChallenge_none {status : SyncStatus} {challenger : Option SyncSourceId}
    {incumbentBound : Nat} (beaten : ¬status.outbids challenger incumbentBound) :
    (status.countChallenge challenger incumbentBound).challengeRun = 0 := by
  simp [countChallenge, countRun, beaten]

theorem countChallenge_run {status : SyncStatus} {challenger : Option SyncSourceId}
    {incumbentBound : Nat} (outbids : status.outbids challenger incumbentBound)
    (below : status.challengeRun < syncSwitchEpochs) :
    (status.countChallenge challenger incumbentBound).challengeRun = 1 ∨
      ((status.countChallenge challenger incumbentBound).challengeRun = status.challengeRun + 1 ∧
        challenger = status.challenger) := by
  by_cases same : challenger = status.challenger
  · have room : status.challengeRun < 0xFFFF := Nat.lt_trans below (by decide)
    refine Or.inr ⟨?_, same⟩
    simp only [countChallenge, countRun, outbids, decide_true, if_pos same, if_pos room, if_true]
  · left
    simp [countChallenge, countRun, outbids, same]

theorem Incumbent.running {status : SyncStatus} (incumbent : status.Incumbent) :
    status.state ≠ .freeRun := by
  rcases incumbent with holding | tracking
  · rw [holding]
    exact nofun
  · exact tracking.1

/-- What is in use outside holdover is a source, tracked. -/
theorem Incumbent.tracking {status : SyncStatus} (incumbent : status.Incumbent)
    (free : status.state ≠ .holdover) :
    ∃ source, status.source = some source ∧ (status.state = .acquire ∨ status.state = .locked) := by
  rcases incumbent with holding | ⟨running, usable⟩
  · exact absurd holding free
  · cases selected : status.source with
    | none =>
        rw [selected] at usable
        cases usable
    | some source =>
        refine ⟨source, rfl, ?_⟩
        cases state : status.state with
        | freeRun => exact absurd state running
        | acquire => exact Or.inl rfl
        | locked => exact Or.inr rfl
        | holdover => exact absurd state free

/-- In this status, the target challenges the incumbent of this state and source, and
outbids it. -/
structure Challenged (status : SyncStatus) (state : SyncState)
    (source target : Option SyncSourceId) : Prop where
  state : status.state = state
  selected : status.source = source
  incumbent : status.Incumbent
  best : status.rival = target
  outbids : status.outbids target status.currentBound

end SyncStatus

namespace Synchroniser

variable {sync : Synchroniser}

/-- What precedes `follow_sources` moves the state machine only by a resync. -/
theorem beforeSources_control (sync : Synchroniser) (input : EpochInput) :
    (sync.beforeSources input).status.SameControl
      (sync.applyResync input.snapshot.sequence).status := by
  have aligned (before : Synchroniser) :
      before.alignToTimeOfDay.status.SameControl before.status := by
    unfold Synchroniser.alignToTimeOfDay
    split
    · exact .refl _
    · exact ⟨rfl, rfl, rfl, rfl, rfl, rfl, rfl⟩
  have set (before : Synchroniser) (epoch : BitVec 32) :
      (before.applyManualTime epoch).status.SameControl before.status := by
    unfold Synchroniser.applyManualTime
    split
    · exact .refl _
    · split
      · exact .refl _
      · exact ⟨rfl, rfl, rfl, rfl, rfl, rfl, rfl⟩
  have settled (before : Synchroniser) :
      before.settleFallback.status.SameControl before.status :=
    ⟨rfl, rfl, rfl, rfl, rfl, rfl, rfl⟩
  have judged (before : Synchroniser) :
      (before.judgeSources input).status.SameControl before.status :=
    ⟨rfl, rfl, rfl, rfl, rfl, rfl, rfl⟩
  exact (aligned _).trans ((settled _).trans ((set _ _).trans (judged _)))

theorem beforeSources_ordinary (sync : Synchroniser) (input : EpochInput) :
    SyncStatus.Ordinary sync.status (sync.beforeSources input).status 1 := by
  have control := beforeSources_control sync input
  have afresh : SyncStatus.Ordinary sync.status
      (sync.applyResync input.snapshot.sequence).status 1 := by
    have none : SyncStatus.Ordinary sync.status sync.status 0 := by
      unfold SyncStatus.Ordinary
      rw [SyncStatus.recorded_self]
      exact ⟨Nat.le_refl 0, fun _ member => by cases member⟩
    unfold Synchroniser.applyResync
    split
    · exact none.mono (Nat.zero_le 1)
    · refine SyncStatus.Ordinary.enter (none.congr ?_ ?_) (by omega) .freeRun Option.none ?_ _
      · rfl
      · rfl
      · exact nofun
  exact afresh.congr control.transitions control.history

/-- `follow_loop` stays, or moves between ACQUIRE and LOCKED of the same source. -/
theorem followLoop_cases (status : SyncStatus) (loop : EpochControl) (snapshot : TimingSnapshot)
    (update : EpochUpdate) :
    status.followLoop loop snapshot update = status ∨
      ∃ state reason, reason ≠ .betterSource ∧
        status.followLoop loop snapshot update =
          status.enter state status.source reason snapshot.sequence := by
  unfold SyncStatus.followLoop
  split
  · exact Or.inr ⟨.locked, .tracking, nofun, rfl⟩
  · split
    · exact Or.inr ⟨.acquire, .phaseLost, nofun, rfl⟩
    · exact Or.inl rfl

theorem followLoop_source (status : SyncStatus) (loop : EpochControl) (snapshot : TimingSnapshot)
    (update : EpochUpdate) : (status.followLoop loop snapshot update).source = status.source := by
  rcases followLoop_cases status loop snapshot update with same | ⟨state, reason, _, entered⟩
  · rw [same]
  · rw [entered]
    rfl

theorem syncUpdate_source (sync : Synchroniser) (input : EpochInput) :
    (sync.syncUpdate input).2.status.source = (sync.chosen input).status.source :=
  (syncUpdate_control sync input).source.trans (followLoop_source _ _ _ _)

/-- `follow_sources` only records a transition to a better source for a challenge won while
tracking. -/
theorem Follows.better {epoch : BitVec 32} {before : SyncStatus} {after : Synchroniser}
    (follows : Follows epoch sync after) (earlier : SyncStatus.Ordinary before sync.status 1) :
    SyncStatus.Ordinary before after.status 2 ∨
      ∃ target, sync.status.Incumbent ∧ sync.status.state ≠ .holdover ∧
        sync.status.rival = some target ∧
        sync.status.challengeWon sync.status.rival sync.status.currentBound ∧
        (SyncStatus.recorded before after.status).length ≤ 2 ∧
        ∀ entry ∈ SyncStatus.recorded before after.status, entry.reason = .betterSource →
          entry.source = some target ∧ entry.epoch = epoch := by
  have challenged : SyncStatus.Ordinary before sync.challenged.status 1 := earlier.congr rfl rfl
  cases follows with
  | idles => exact Or.inl (earlier.mono (by decide))
  | counts => exact Or.inl (challenged.mono (by decide))
  | acquires source reason fallback plain =>
      have entered := earlier.enter (by decide) .acquire (some source) plain epoch
      exact Or.inl (entered.congr rfl rfl)
  | enters state source reason plain =>
      exact Or.inl (earlier.enter (by decide) state source plain epoch)
  | expires =>
      have plain : SyncReason.expired ≠ .betterSource := nofun
      exact Or.inl (challenged.enter (by decide) .freeRun none plain epoch)
  | @wins incumbent target best won =>
      by_cases holding : sync.status.state = .holdover
      · have plain : sync.status.winReason ≠ .betterSource := by
          unfold SyncStatus.winReason
          rw [if_pos holding]
          exact nofun
        have entered := challenged.enter (by decide) .acquire (some target) plain epoch
        exact Or.inl (entered.congr rfl rfl)
      · have few := Nat.lt_of_le_of_lt challenged.1 (by decide : 1 < 8)
        have recorded : SyncStatus.recorded before
            (sync.challenged.acquire target sync.status.winReason epoch false).status =
              SyncStatus.recorded before (sync.challenged.status.enter .acquire (some target)
                sync.status.winReason epoch) :=
          SyncStatus.recorded_congr rfl rfl
        refine Or.inr ⟨target, incumbent, holding, best, won, ?_, fun entry member better => ?_⟩
        · rw [recorded, SyncStatus.recorded_enter few, List.length_append]
          exact Nat.add_le_add_right challenged.1 1
        · rw [recorded] at member
          rcases SyncStatus.mem_recorded_enter few member with before | rfl
          · exact absurd better (challenged.2 entry before)
          · exact ⟨rfl, rfl⟩

/-- A transition to a better source is one that `follow_sources` made. -/
theorem better_source_won {input : EpochInput} {entry : SyncTransition}
    (member : entry ∈ SyncStatus.recorded sync.status (sync.syncUpdate input).2.status)
    (better : entry.reason = .betterSource) :
    ∃ target, (sync.beforeSources input).status.Incumbent ∧
      (sync.beforeSources input).status.state ≠ .holdover ∧
      (sync.beforeSources input).status.rival = some target ∧
      (sync.beforeSources input).status.challengeWon (sync.beforeSources input).status.rival
        (sync.beforeSources input).status.currentBound ∧
      entry.source = some target ∧ entry.epoch = input.snapshot.sequence := by
  have control := syncUpdate_control sync input
  rw [SyncStatus.recorded_congr control.transitions control.history] at member
  have chosen (few : (SyncStatus.recorded sync.status (sync.chosen input).status).length ≤ 2) :
      entry ∈ SyncStatus.recorded sync.status (sync.chosen input).status := by
    unfold loopFollowed at member
    rcases followLoop_cases (sync.chosen input).status ((sync.chosen input).runLoop input).2.loop
      input.snapshot ((sync.chosen input).runLoop input).1 with same | ⟨state, reason, plain, entered⟩
    · rwa [same] at member
    · rw [entered] at member
      rcases SyncStatus.mem_recorded_enter (Nat.lt_of_le_of_lt few (by decide)) member with
        earlier | rfl
      · exact earlier
      · exact absurd better plain
  have follows := followSources_follows (sync.beforeSources input) input.snapshot.sequence
  rcases follows.better (beforeSources_ordinary sync input) with
    plain | ⟨target, incumbent, tracking, best, won, few, named⟩
  · exact absurd better (plain.2 entry (chosen plain.1))
  · obtain ⟨source, epoch⟩ := named entry (chosen few) better
    exact ⟨target, incumbent, tracking, best, won, source, epoch⟩

/-! ## The streak of challenges -/

/-- What one update does to the count of challenges: it is reset, or it counts the
challenge of this update, after those of the same challenger against the same incumbent
or as the first. -/
theorem Follows.challengeRun {epoch : BitVec 32} {after : Synchroniser}
    (follows : Follows epoch sync after)
    (idle : sync.status.state = .freeRun → sync.status.challengeRun = 0)
    (below : sync.status.challengeRun < syncSwitchEpochs) :
    after.status.challengeRun = 0 ∨
      (sync.status.Challenged after.status.state after.status.source after.status.challenger ∧
        after.status.challengeRun < syncSwitchEpochs ∧
        (after.status.challengeRun = 1 ∨
          (after.status.challengeRun = sync.status.challengeRun + 1 ∧
            after.status.challenger = sync.status.challenger))) := by
  cases follows with
  | idles state => exact Or.inl (idle state)
  | wins => exact Or.inl rfl
  | acquires => exact Or.inl rfl
  | enters => exact Or.inl rfl
  | expires => exact Or.inl rfl
  | counts incumbent lost =>
      by_cases outbids : sync.status.outbids sync.status.rival sync.status.currentBound
      · have run := SyncStatus.countChallenge_run outbids below
        have short : sync.challenged.status.challengeRun < syncSwitchEpochs := by
          by_contra long
          exact lost ⟨outbids, Nat.not_lt.mp long⟩
        have challenger : sync.challenged.status.challenger = sync.status.rival := if_pos outbids
        refine Or.inr ⟨⟨rfl, rfl, incumbent, challenger.symm, ?_⟩, short, ?_⟩
        · rw [challenger]
          exact outbids
        · rcases run with first | ⟨later, same⟩
          · exact Or.inl first
          · exact Or.inr ⟨later, challenger.trans same⟩
      · exact Or.inl (SyncStatus.countChallenge_none outbids)

/-- With something in use there has been no resync, and the sources are followed from
where the last update left the state machine. -/
theorem beforeSources_incumbent {input : EpochInput}
    (running : (sync.beforeSources input).status.state ≠ .freeRun) :
    sync.resyncPending = false ∧
      (sync.beforeSources input).status.state = sync.status.state ∧
      (sync.beforeSources input).status.source = sync.status.source ∧
      (sync.beforeSources input).status.challenger = sync.status.challenger ∧
      (sync.beforeSources input).status.challengeRun = sync.status.challengeRun := by
  have control := beforeSources_control sync input
  unfold Synchroniser.applyResync at control
  cases asked : sync.resyncPending with
  | true =>
      rw [asked, if_neg (by decide)] at control
      exact absurd control.state running
  | false =>
      rw [asked, if_pos (by decide)] at control
      exact ⟨rfl, control.state, control.source, control.challenger, control.challengeRun⟩

theorem beforeSources_challengeRun (sync : Synchroniser) (input : EpochInput) :
    (sync.beforeSources input).status.challengeRun = 0 ∨
      ((sync.beforeSources input).status.challengeRun = sync.status.challengeRun ∧
        (sync.beforeSources input).status.state = sync.status.state) := by
  have control := beforeSources_control sync input
  have run := control.challengeRun
  have state := control.state
  unfold Synchroniser.applyResync at run state
  split at run
  · next unasked =>
      rw [if_pos unasked] at state
      exact Or.inr ⟨run, state⟩
  · exact Or.inl run

/-- The count is one of challenges in a row, and is kept while something is in use. -/
structure Counting (sync : Synchroniser) : Prop where
  idle : sync.status.state = .freeRun → sync.status.challengeRun = 0
  below : sync.status.challengeRun < syncSwitchEpochs

theorem Counting.beforeSources (counting : sync.Counting) (input : EpochInput) :
    (sync.beforeSources input).Counting := by
  rcases beforeSources_challengeRun sync input with none | ⟨run, state⟩
  · exact ⟨fun _ => none, none ▸ by decide⟩
  · exact ⟨fun idle => run.trans (counting.idle (state.symm.trans idle)), run ▸ counting.below⟩

theorem loopFollowed_challengeRun (sync : Synchroniser) (input : EpochInput) :
    (sync.loopFollowed input).challengeRun = 0 ∨
      (sync.loopFollowed input).SameControl (sync.chosen input).status := by
  unfold loopFollowed
  rcases followLoop_cases (sync.chosen input).status ((sync.chosen input).runLoop input).2.loop
    input.snapshot ((sync.chosen input).runLoop input).1 with same | ⟨state, reason, _, entered⟩
  · exact Or.inr (.of_eq same)
  · exact Or.inl (congrArg SyncStatus.challengeRun entered)

/-- `Follows.challengeRun`, for the whole update. -/
theorem Counting.syncUpdate (counting : sync.Counting) (input : EpochInput) :
    (sync.syncUpdate input).2.status.challengeRun = 0 ∨
      ((sync.beforeSources input).status.Challenged (sync.syncUpdate input).2.status.state
          (sync.syncUpdate input).2.status.source (sync.syncUpdate input).2.status.challenger ∧
        (sync.syncUpdate input).2.status.challengeRun < syncSwitchEpochs ∧
        ((sync.syncUpdate input).2.status.challengeRun = 1 ∨
          ((sync.syncUpdate input).2.status.challengeRun = sync.status.challengeRun + 1 ∧
            (sync.syncUpdate input).2.status.challenger = sync.status.challenger))) := by
  have control := syncUpdate_control sync input
  rcases loopFollowed_challengeRun sync input with none | same
  · exact Or.inl (control.challengeRun.trans none)
  · have control := control.trans same
    rw [control.state, control.source, control.challenger, control.challengeRun]
    have judged := counting.beforeSources input
    have follows := followSources_follows (sync.beforeSources input) input.snapshot.sequence
    rcases follows.challengeRun judged.idle judged.below with none | ⟨challenged, short, counted⟩
    · exact Or.inl none
    · refine Or.inr ⟨challenged, short, ?_⟩
      obtain ⟨_, _, _, challenger, run⟩ := beforeSources_incumbent challenged.incumbent.running
      rw [challenger, run] at counted
      exact counted

/-! ## Whole runs -/

/-- The challenge, where the sources are followed in this update. -/
def ChallengedAt (state : SyncState) (source target : Option SyncSourceId)
    (sync : Synchroniser) : SyncAct → Prop
  | .update input => (sync.beforeSources input).status.Challenged state source target
  | _ => False

/-- The run's last updates, as many as the count says, were challenges of what is in use
now by the challenger of now. -/
structure Tracked (acts : List SyncAct) (sync : Synchroniser) : Prop extends sync.Counting where
  lately : synchroniser.Lately SyncAct.IsUpdate
    (ChallengedAt sync.status.state sync.status.source sync.status.challenger) {}
    sync.status.challengeRun acts sync

variable {acts : List SyncAct}

theorem Tracked.update (run : synchroniser.Run (fun _ _ => True) {} acts sync)
    (tracked : Tracked acts sync) (input : EpochInput) :
    Tracked (acts ++ [.update input]) (sync.syncUpdate input).2 := by
  rcases tracked.toCounting.syncUpdate input with none | ⟨challenged, short, counted⟩
  · refine ⟨⟨fun _ => none, none ▸ by decide⟩, ?_⟩
    rw [none]
    have more : synchroniser.Run (fun _ _ => True) {} (acts ++ [.update input])
        (sync.syncUpdate input).2 := run.append (.single (SyncAct.update input) trivial)
    exact .nil more
  · have running := challenged.incumbent.running
    obtain ⟨_, state, source, _, _⟩ := beforeSources_incumbent running
    refine ⟨⟨fun idle => ?_, short⟩, ?_⟩
    · exact absurd (challenged.state.trans idle) running
    · rcases counted with first | ⟨later, challenger⟩
      · rw [first]
        exact (Machine.Lately.nil run).counts (.update input) trivial challenged
      · rw [later]
        have before := tracked.lately
        rw [← state, ← source, challenged.state, challenged.selected, ← challenger] at before
        exact before.counts (.update input) trivial challenged

theorem Tracked.other (tracked : Tracked acts sync) {act : SyncAct} (other : ¬act.IsUpdate)
    (control : (synchroniser.step sync act).status.SameControl sync.status) :
    Tracked (acts ++ [act]) (synchroniser.step sync act) := by
  refine ⟨⟨fun idle => ?_, ?_⟩, ?_⟩
  · rw [control.challengeRun]
    exact tracked.idle (control.state.symm.trans idle)
  · rw [control.challengeRun]
    exact tracked.below
  · rw [control.state, control.source, control.challenger, control.challengeRun]
    exact tracked.lately.skips act other

theorem Tracked.act (run : synchroniser.Run (fun _ _ => True) {} acts sync)
    (tracked : Tracked acts sync) (act : SyncAct) :
    Tracked (acts ++ [act]) (synchroniser.step sync act) := by
  cases act with
  | update input => exact tracked.update run input
  | resync => exact tracked.other id (.refl _)
  | setLeap leap => exact tracked.other id ⟨rfl, rfl, rfl, rfl, rfl, rfl, rfl⟩
  | setTime utcSeconds epochSequence slotMs =>
      exact tracked.other id (.of_eq (syncSetTime_frame sync utcSeconds epochSequence slotMs).1)

theorem Tracked.run {before : Synchroniser} {later : List SyncAct}
    (rest : synchroniser.Run (fun _ _ => True) before later sync) :
    ∀ earlier, synchroniser.Run (fun _ _ => True) {} earlier before → Tracked earlier before →
      Tracked (earlier ++ later) sync := by
  induction rest with
  | nil =>
      intro earlier _ tracked
      rw [List.append_nil]
      exact tracked
  | cons act admitted _ ih =>
      intro earlier run tracked
      have longer := ih (earlier ++ [act]) (run.append (.single act admitted))
        (tracked.act run act)
      rwa [List.append_assoc] at longer

/-- After every run, the count is the length of the streak of challenges just past. -/
theorem tracked (run : synchroniser.Run (fun _ _ => True) {} acts sync) : Tracked acts sync := by
  have start : Tracked [] ({} : Synchroniser) := by
    refine ⟨⟨fun _ => rfl, by decide⟩, ?_⟩
    exact .nil (.nil _)
  exact Tracked.run run [] (.nil _) start

/-- A challenge won is the tenth in a row. -/
theorem won_streak (run : synchroniser.Run (fun _ _ => True) {} acts sync) {input : EpochInput}
    {target : SyncSourceId} (incumbent : (sync.beforeSources input).status.Incumbent)
    (best : (sync.beforeSources input).status.rival = some target)
    (won : (sync.beforeSources input).status.challengeWon
      (sync.beforeSources input).status.rival (sync.beforeSources input).status.currentBound) :
    synchroniser.Lately SyncAct.IsUpdate
      (ChallengedAt sync.status.state sync.status.source (some target)) {} syncSwitchEpochs
      (acts ++ [.update input]) (sync.syncUpdate input).2 := by
  have tracked := tracked run
  obtain ⟨_, state, source, challenger, count⟩ := beforeSources_incumbent incumbent.running
  have below : (sync.beforeSources input).status.challengeRun < syncSwitchEpochs :=
    count ▸ tracked.below
  have long := won.2
  rcases SyncStatus.countChallenge_run won.1 below with first | ⟨later, same⟩
  · rw [first] at long
    exact absurd long (by decide)
  · have nine : sync.status.challengeRun + 1 = syncSwitchEpochs := by
      rw [later, count] at long
      exact Nat.le_antisymm tracked.below long
    have named : sync.status.challenger = some target := by
      rw [← challenger, ← same, best]
    have before := tracked.lately
    rw [named] at before
    rw [← nine]
    refine before.counts (.update input) trivial ⟨state, source, incumbent, best, ?_⟩
    rw [← best]
    exact won.1

/-- Where the sources are followed in this update, the source is selected in a tracking
state and fit to steer by, the target is the best other candidate, and its bound times
the ratio is below the source's. -/
structure Beaten (state : SyncState) (source target : SyncSourceId) (status : SyncStatus) :
    Prop where
  tracking : state = .acquire ∨ state = .locked
  state : status.state = state
  selected : status.source = some source
  usable : status.sourceUsable (some source) = true
  best : status.bestSource (some source) = some target
  other : target ≠ source
  least : ∀ id, id ≠ source →
    status.candidateBound (.source target) ≤ status.candidateBound (.source id)
  beats : status.candidateBound (.source target) * syncSwitchRatio <
    status.candidateBound (.source source)

/-- The same against holdover: the target is the best of all candidates. -/
structure HoldoverBeaten (source target : SyncSourceId) (status : SyncStatus) : Prop where
  state : status.state = .holdover
  selected : status.source = some source
  best : status.bestSource none = some target
  least : ∀ id, status.candidateBound (.source target) ≤ status.candidateBound (.source id)
  beats : status.candidateBound (.source target) * syncSwitchRatio < status.holdover.boundNs

/-- That an update finds the status so, where it follows the sources. -/
def Finds (holds : SyncStatus → Prop) (sync : Synchroniser) : SyncAct → Prop
  | .update input => holds (sync.beforeSources input).status
  | _ => False

theorem challenged_beaten {state : SyncState} {source target : SyncSourceId} {status : SyncStatus}
    (challenged : status.Challenged state (some source) (some target))
    (tracking : state = .acquire ∨ state = .locked) : Beaten state source target status := by
  have free : status.state ≠ .holdover := by
    rw [challenged.state]
    rcases tracking with rfl | rfl
    · exact nofun
    · exact nofun
  have usable : status.sourceUsable (some source) = true := by
    rcases challenged.incumbent with holding | usable
    · exact absurd holding free
    · rw [← challenged.selected]
      exact usable.2
  have best : status.bestSource (some source) = some target := by
    have rival := challenged.best
    unfold SyncStatus.rival at rival
    rwa [if_neg free, challenged.selected] at rival
  have current : status.currentBound = status.candidateBound (.source source) := by
    unfold SyncStatus.currentBound
    rw [challenged.state, challenged.selected]
    rcases tracking with rfl | rfl
    · rfl
    · rfl
  refine ⟨tracking, challenged.state, challenged.selected, usable, best, ?_, ?_, ?_⟩
  · exact fun same => (SyncStatus.bestSource_some best).1 (congrArg some same)
  · exact fun id other => SyncStatus.bestSource_le best fun same => other (Option.some.inj same)
  · rw [← current]
    exact challenged.outbids.2.2

theorem challenged_holdover {source target : SyncSourceId} {status : SyncStatus}
    (challenged : status.Challenged .holdover (some source) (some target)) :
    HoldoverBeaten source target status := by
  have best : status.bestSource none = some target := by
    have rival := challenged.best
    unfold SyncStatus.rival at rival
    rwa [if_pos challenged.state] at rival
  have current : status.currentBound = status.holdover.boundNs := by
    unfold SyncStatus.currentBound
    rw [challenged.state]
  refine ⟨challenged.state, challenged.selected, best, ?_, ?_⟩
  · exact fun id => SyncStatus.bestSource_le best nofun
  · rw [← current]
    exact challenged.outbids.2.2

/-- What is in use keeps its source, loses to a challenger that has won, or is an expired
holdover. -/
theorem Follows.source {epoch : BitVec 32} {after : Synchroniser}
    (follows : Follows epoch sync after) (incumbent : sync.status.Incumbent) :
    after.status.source = sync.status.source ∨
      (sync.status.state = .holdover ∧ after.status.source = none) ∨
      ∃ target, after.status.source = some target ∧ sync.status.rival = some target ∧
        sync.status.challengeWon sync.status.rival sync.status.currentBound := by
  cases follows with
  | idles => exact Or.inl rfl
  | counts => exact Or.inl rfl
  | @wins _ target best won => exact Or.inr (Or.inr ⟨target, rfl, best, won⟩)
  | acquires source reason fallback _ kept => exact Or.inl (kept incumbent).symm
  | enters state source reason _ kept => exact Or.inl (kept incumbent)
  | expires holding => exact Or.inr (Or.inl ⟨holding, rfl⟩)

theorem beforeSources_unasked (unasked : sync.resyncPending = false) (input : EpochInput) :
    (sync.beforeSources input).status.state = sync.status.state ∧
      (sync.beforeSources input).status.source = sync.status.source := by
  have control := beforeSources_control sync input
  unfold Synchroniser.applyResync at control
  rw [unasked, if_pos (by decide)] at control
  exact ⟨control.state, control.source⟩

/-- A transition to a better source ends ten updates in a row in which that source beat
the one in use. A source fit to steer by that is selected while tracking gives way to no
other without them, nor does one selected in holdover without ten in which another beat
holdover. -/
theorem source_switch (run : synchroniser.Run (fun _ _ => True) {} acts sync)
    (input : EpochInput) :
    (∀ entry ∈ SyncStatus.recorded sync.status (sync.syncUpdate input).2.status,
      entry.reason = .betterSource →
        ∃ source target, sync.status.source = some source ∧ entry.source = some target ∧
          entry.epoch = input.snapshot.sequence ∧
          synchroniser.Lately SyncAct.IsUpdate (Finds (Beaten sync.status.state source target)) {}
            syncSwitchEpochs (acts ++ [.update input]) (sync.syncUpdate input).2) ∧
    (∀ source, sync.resyncPending = false → sync.status.source = some source →
      (sync.status.state = .acquire ∨ sync.status.state = .locked) →
      (sync.beforeSources input).status.sourceUsable (some source) = true →
        (sync.syncUpdate input).2.status.source = some source ∨
          ∃ target, (sync.syncUpdate input).2.status.source = some target ∧
            synchroniser.Lately SyncAct.IsUpdate (Finds (Beaten sync.status.state source target))
              {} syncSwitchEpochs (acts ++ [.update input]) (sync.syncUpdate input).2) ∧
    (∀ source target, sync.resyncPending = false → sync.status.source = some source →
      sync.status.state = .holdover → (sync.syncUpdate input).2.status.source = some target →
      target ≠ source →
        synchroniser.Lately SyncAct.IsUpdate (Finds (HoldoverBeaten source target)) {}
          syncSwitchEpochs (acts ++ [.update input]) (sync.syncUpdate input).2) := by
  have follows := followSources_follows (sync.beforeSources input) input.snapshot.sequence
  have beaten (source target : SyncSourceId)
      (tracking : sync.status.state = .acquire ∨ sync.status.state = .locked)
      (streak : synchroniser.Lately SyncAct.IsUpdate
        (ChallengedAt sync.status.state (some source) (some target)) {} syncSwitchEpochs
        (acts ++ [.update input]) (sync.syncUpdate input).2) :
      synchroniser.Lately SyncAct.IsUpdate (Finds (Beaten sync.status.state source target)) {}
        syncSwitchEpochs (acts ++ [.update input]) (sync.syncUpdate input).2 := by
    refine streak.mono fun before act challenged => ?_
    cases act with
    | update => exact challenged_beaten challenged tracking
    | resync => exact challenged
    | setLeap => exact challenged
    | setTime => exact challenged
  refine ⟨?_, ?_, ?_⟩
  · intro entry member better
    obtain ⟨target, incumbent, free, best, won, named, epoch⟩ := better_source_won member better
    obtain ⟨_, state, selected, _, _⟩ := beforeSources_incumbent incumbent.running
    obtain ⟨source, chosen, tracking⟩ := incumbent.tracking free
    rw [selected] at chosen
    rw [state] at tracking
    have streak := won_streak run incumbent best won
    rw [chosen] at streak
    exact ⟨source, target, chosen, named, epoch, beaten source target tracking streak⟩
  · intro source unasked selected tracking usable
    obtain ⟨state, same⟩ := beforeSources_unasked unasked input
    have incumbent : (sync.beforeSources input).status.Incumbent := by
      refine Or.inr ⟨?_, ?_⟩
      · rw [state]
        rcases tracking with acquiring | locked
        · rw [acquiring]
          exact nofun
        · rw [locked]
          exact nofun
      · rw [same, selected]
        exact usable
    rw [syncUpdate_source]
    rcases follows.source incumbent with kept | ⟨holding, _⟩ | ⟨target, gained, best, won⟩
    · exact Or.inl (kept.trans (same.trans selected))
    · rw [state] at holding
      rcases tracking with acquiring | locked
      · exact absurd (acquiring.symm.trans holding) nofun
      · exact absurd (locked.symm.trans holding) nofun
    · have streak := won_streak run incumbent best won
      rw [selected] at streak
      exact Or.inr ⟨target, gained, beaten source target tracking streak⟩
  · intro source target unasked selected holding gained other
    obtain ⟨state, same⟩ := beforeSources_unasked unasked input
    have incumbent : (sync.beforeSources input).status.Incumbent := Or.inl (state.trans holding)
    rw [syncUpdate_source] at gained
    rcases follows.source incumbent with kept | ⟨_, lost⟩ | ⟨winner, taken, best, won⟩
    · rw [same, selected] at kept
      exact absurd (Option.some.inj (gained.symm.trans kept)) other
    · exact absurd (gained.symm.trans lost) nofun
    · obtain rfl := Option.some.inj (gained.symm.trans taken)
      have streak := won_streak run incumbent best won
      rw [selected, holding] at streak
      refine streak.mono fun before act challenged => ?_
      cases act with
      | update => exact challenged_holdover challenged
      | resync => exact challenged
      | setLeap => exact challenged
      | setTime => exact challenged

/-! ## A switch, and one from holdover -/

/-- An epoch in which NTP answers with some uncertainty, or not, and GNSS answers or not. -/
def epochOf (ntp : Option Nat) (gnss : Bool) (sequence : BitVec 32) : EpochInput where
  snapshot := { sequence := sequence, referenceCaptureValid := true, epochCaptureValid := true }
  reports
    | .gnss => if gnss then gnssReport sequence else {}
    | .ntp => (ntp.map fun bound => { gnssReport sequence with uncertaintyNs := bound }).getD {}
    | .rtc => {}
  numbers := { seed := some 40000000 }

/-- NTP is locked to by the seventh epoch; GNSS answers from the eighth, is a candidate from
the tenth and is taken up in the nineteenth. -/
theorem source_switch_gnss :
    let acts := ([1, 2, 3, 4, 5, 6, 7].map (epochOf (some 1000000) false) ++
      [8, 9, 10, 11, 12, 13, 14, 15, 16, 17, 18].map (epochOf (some 1000000) true)).map .update
    let sync := acts.foldl synchroniser.step {}
    let input := epochOf (some 1000000) true 19
    sync.status.state = .locked ∧ sync.status.source = some .ntp ∧
      ∃ target, (sync.syncUpdate input).2.status.source = some target ∧
        synchroniser.Lately SyncAct.IsUpdate (Finds (Beaten sync.status.state .ntp target)) {}
          syncSwitchEpochs (acts ++ [.update input]) (sync.syncUpdate input).2 := by
  intro acts sync input
  have run : synchroniser.Run (fun _ _ => True) {} acts sync := .foldl (fun _ _ => trivial) _ _
  have locked : sync.status.state = .locked := by decide +kernel
  have selected : sync.status.source = some .ntp := by decide +kernel
  have usable : (sync.beforeSources input).status.sourceUsable (some .ntp) = true := by
    decide +kernel
  have left : (sync.syncUpdate input).2.status.source ≠ some .ntp := by decide +kernel
  rcases (source_switch run input).2.1 .ntp (by decide +kernel) selected (Or.inr locked) usable with
    kept | gave
  · exact absurd kept left
  · exact ⟨locked, selected, gave⟩

/-- NTP is locked to and misses one epoch, so holdover takes over. It is back, fit to steer
by but with a bound above holdover's, when GNSS has beaten holdover ten times: NTP gives
way to GNSS in the nineteenth epoch with no ten updates in which GNSS beat it while
tracking. -/
theorem holdover_source_replaced :
    let acts := ([1, 2, 3, 4, 5, 6, 7].map (epochOf (some 1000000) false) ++
      [epochOf none true 8] ++
      [9, 10, 11, 12, 13, 14, 15, 16, 17, 18].map (epochOf (some 5000000) true)).map .update
    let sync := acts.foldl synchroniser.step {}
    let input := epochOf (some 5000000) true 19
    sync.resyncPending = false ∧ sync.status.source = some .ntp ∧
      (sync.beforeSources input).status.sourceUsable (some .ntp) = true ∧
      (sync.syncUpdate input).2.status.source = some .gnss ∧
      ¬∃ state source target, synchroniser.Lately SyncAct.IsUpdate
        (Finds (Beaten state source target)) {} syncSwitchEpochs (acts ++ [.update input])
        (sync.syncUpdate input).2 := by
  intro acts sync input
  refine ⟨by decide +kernel, by decide +kernel, by decide +kernel, by decide +kernel, ?_⟩
  rintro ⟨state, source, target, lately⟩
  obtain ⟨before, run, found⟩ := lately.last trivial
  have beaten : Beaten state source target (sync.beforeSources input).status := by
    rw [run.foldl_eq] at found
    exact found
  have holding : (sync.beforeSources input).status.state = .holdover := by decide +kernel
  have tracking := beaten.tracking
  rw [← beaten.state] at tracking
  rcases tracking with acquiring | locked
  · exact absurd (holding.symm.trans acquiring) nofun
  · exact absurd (holding.symm.trans locked) nofun

end Synchroniser

end GpsClock.Sync
