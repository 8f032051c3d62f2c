import GpsClock.Lib.Machine
import GpsClock.Platform.Timeline
import GpsClock.Sync.Source

/-! # Sources that tell the truth

A source numbers its edges one after another and labels them by counting from its first
(`GpsClock.Sync.TrueSource`). Its label follows on in every epoch, whatever else is
wrong with some of them, and one jump of its time is found in one epoch
(`GpsClock.Sync.truthful_source_judged`), as long as the leap second counted through is
still announced: of edges without labels the tracker remembers nothing
(`GpsClock.Sync.withdrawn_leap_inconsistent`).
-/

namespace GpsClock.Sync

open GpsClock.Platform

/-- An edge with its label, in a report that is otherwise fit for it. -/
def SyncSourceReport.labelledEdge (report : SyncSourceReport) : Bool :=
  report.present && report.timeValid && report.edge && report.labelled

theorem SyncSourceReport.labelledEdge_edge {report : SyncSourceReport}
    (labelled : report.labelledEdge = true) : report.edge = true := by
  simp only [labelledEdge, Bool.and_eq_true] at labelled
  exact labelled.1.2

/-- What a source's labels are: its first one and that edge's number, and the leap second
it announces. -/
structure TrueSource where
  first : Label
  sequence : BitVec 32
  leap : Option UtcLeap
  scheduled : Scheduled leap
  happens : Happens leap first

namespace TrueSource

variable (source : TrueSource)

/-- The label so many edges after the first. -/
def labelAt (count : Nat) : Label :=
  advance source.leap source.first (BitVec.ofNat 32 count)

/-- The number of the edge so many after the first. -/
def numberAt (count : Nat) : BitVec 32 :=
  source.sequence + BitVec.ofNat 32 count

/-- A label counted across a leap second has not wrapped. -/
def InTime (count : Nat) : Prop :=
  source.leap ≠ none → NoWrap source.leap source.first count

end TrueSource

/-- A source's report for an epoch, and how many edges after its first that is. -/
structure SourceEpoch where
  report : SyncSourceReport
  maxUncertaintyNs : Nat
  epoch : BitVec 32
  count : Nat

/-- A tracker, and the count of its source's edges. -/
structure Followed where
  tracker : SyncSourceTracker
  count : Nat

namespace Followed

def step (state : Followed) (act : SourceEpoch) : Followed where
  tracker := state.tracker.judge act.report act.maxUncertaintyNs act.epoch
  count := act.count

/-- A source's tracker from `sync_source_reset` on. -/
def machine : Machine Followed SourceEpoch where
  start state := state = ⟨{}, 0⟩
  step := step

/-- The source's count only grows; its edge is numbered by it, whatever the label. -/
structure Numbered (source : TrueSource) (state : Followed) (act : SourceEpoch) : Prop where
  counted : state.count ≤ act.count
  edge : act.report.edge = true → act.report.edgeSequence = source.numberAt act.count
  inTime : act.report.labelledEdge = true → source.InTime act.count

/-- The leap second is announced up to and including its event. -/
def Announced (source : TrueSource) (act : SourceEpoch) : Prop :=
  act.report.leap.announced = source.leap ∨
    act.report.leap.announced = none ∧
      ∀ known, source.leap = some known → known.eventUtc < (source.labelAt act.count).1

/-- Every label is the source's count, and the leap second is announced up to and including
its event, however long that is before the next label. -/
structure UntilEvent (source : TrueSource) (state : Followed) (act : SourceEpoch) : Prop
    extends Numbered source state act where
  label : act.report.labelledEdge = true →
    (act.report.utcSeconds, act.report.leapSecond) = source.labelAt act.count
  announced : Announced source act

/-- The leap second is announced, or the label last followed, if there is one, is at or
past its event. -/
def StillAnnounced (source : TrueSource) (state : Followed) (act : SourceEpoch) : Prop :=
  act.report.leap.announced = source.leap ∨
    act.report.leap.announced = none ∧
      ∀ known, source.leap = some known → state.tracker.hasLabel = true →
        known.eventUtc ≤ state.tracker.lastLabel

/-- Every label is the source's count. -/
structure Truthful (source : TrueSource) (state : Followed) (act : SourceEpoch) : Prop
    extends Numbered source state act where
  label : act.report.labelledEdge = true →
    (act.report.utcSeconds, act.report.leapSecond) = source.labelAt act.count
  announced : act.report.labelledEdge = true → StillAnnounced source state act

end Followed

/-! ## One epoch -/

namespace SyncSourceTracker

variable {tracker : SyncSourceTracker} {report : SyncSourceReport} {maxUncertaintyNs : Nat}
  {epoch : BitVec 32}

/-- The tracker after an epoch without an edge starts afresh. -/
def withEdge (tracker : SyncSourceTracker) (report : SyncSourceReport) : SyncSourceTracker :=
  if !report.present || !report.edge then { tracker with hasLabel := false } else tracker

theorem withEdge_hasLabel (hasLabel : (tracker.withEdge report).hasLabel = true) :
    tracker.hasLabel = true ∧ tracker.withEdge report = tracker := by
  unfold withEdge at hasLabel ⊢
  split
  · next none =>
      rw [if_pos none] at hasLabel
      exact absurd hasLabel Bool.false_ne_true
  · next edge =>
      rw [if_neg edge] at hasLabel
      exact ⟨hasLabel, rfl⟩

/-- The labels followed, which a verdict's record leaves alone. -/
structure SameLabels (before after : SyncSourceTracker) : Prop where
  hasLabel : after.hasLabel = before.hasLabel
  lastLabel : after.lastLabel = before.lastLabel
  lastLabelLeap : after.lastLabelLeap = before.lastLabelLeap
  lastLabelEdge : after.lastLabelEdge = before.lastLabelEdge
  labelJumps : after.labelJumps = before.labelJumps

theorem record_labels (tracker : SyncSourceTracker) (report : SyncSourceReport)
    (check : SyncCheck) (epoch : BitVec 32) :
    SameLabels tracker (tracker.record report check epoch) := by
  rw [record, recordCrossCheck]
  split <;> exact ⟨rfl, rfl, rfl, rfl, rfl⟩

theorem record_check (check : SyncCheck) : (tracker.record report check epoch).check = check := by
  rw [record, recordCrossCheck]
  split <;> rfl

theorem classify_ne_inconsistent : classify report maxUncertaintyNs ≠ .inconsistent := by
  unfold classify
  split_ifs <;> nofun

/-- An epoch without a labelled edge follows nothing. -/
theorem judge_unlabelled (maxUncertaintyNs : Nat) (epoch : BitVec 32) (unlabelled : report.labelledEdge = false) :
    SameLabels (tracker.withEdge report) (tracker.judge report maxUncertaintyNs epoch) ∧
      (tracker.judge report maxUncertaintyNs epoch).check ≠ .inconsistent := by
  have none : (report.present && report.timeValid && report.edge && report.labelled) = false :=
    unlabelled
  rw [judge]
  dsimp only
  rw [none, if_neg Bool.false_ne_true]
  exact ⟨record_labels _ _ _ _, (record_check _).trans_ne classify_ne_inconsistent⟩

/-- What an epoch with a labelled edge leaves. -/
structure Judged (tracker : SyncSourceTracker) (report : SyncSourceReport)
    (after : SyncSourceTracker) : Prop where
  hasLabel : after.hasLabel = true
  label : (after.lastLabel, after.lastLabelLeap) = (report.utcSeconds, report.leapSecond)
  edge : after.lastLabelEdge = report.edgeSequence
  expected : tracker.labelExpected report = true →
    after.labelJumps = tracker.labelJumps ∧ after.check ≠ .inconsistent
  unexpected : tracker.labelExpected report = false →
    after.labelJumps = tracker.labelJumps + 1 ∧
      (after.check = .inconsistent ∨ after.check = .inaccurate)

theorem judge_labelled (maxUncertaintyNs : Nat) (epoch : BitVec 32) (labelled : report.labelledEdge = true) :
    Judged tracker report (tracker.judge report maxUncertaintyNs epoch) := by
  have fit : (report.present && report.timeValid && report.edge && report.labelled) = true :=
    labelled
  obtain ⟨⟨⟨present, valid⟩, edge⟩, label⟩ : ((report.present = true ∧ report.timeValid = true) ∧
      report.edge = true) ∧ report.labelled = true := by
    simpa only [Bool.and_eq_true] using fit
  rw [judge, fit, present, edge]
  simp only [Bool.not_true, Bool.or_self, Bool.false_eq_true, if_false, if_true, labelFollowsOn]
  have kept := record_labels (tracker.labelFollowsOn report).2 report
    (if (!tracker.labelExpected report) = true ∧ classify report maxUncertaintyNs = .good then
      .inconsistent else classify report maxUncertaintyNs) epoch
  simp only [labelFollowsOn] at kept
  refine ⟨kept.hasLabel, by rw [kept.lastLabel, kept.lastLabelLeap], kept.lastLabelEdge,
    fun expected => ?_, fun unexpected => ?_⟩
  · rw [kept.labelJumps, record_check, expected]
    exact ⟨rfl, classify_ne_inconsistent⟩
  · rw [kept.labelJumps, record_check, unexpected]
    refine ⟨rfl, ?_⟩
    simp only [Bool.not_false, true_and, classify, present, valid, edge, label, Bool.not_true,
      Bool.false_eq_true, if_false]
    split
    · exact .inr rfl
    · exact .inl rfl

end SyncSourceTracker

/-! ## Counting on -/

namespace TrueSource

variable {source : TrueSource} {earlier later : Nat}

theorem numberAt_sub (order : earlier ≤ later) :
    source.numberAt later - source.numberAt earlier = BitVec.ofNat 32 (later - earlier) := by
  have split : BitVec.ofNat 32 later =
      BitVec.ofNat 32 earlier + BitVec.ofNat 32 (later - earlier) := by
    rw [← BitVec.ofNat_add, Nat.add_sub_cancel' order]
  rw [numberAt, numberAt, split]
  grind

/-- From one edge's label to a later one's by the edges in between. -/
theorem labelAt_advance (order : earlier ≤ later) (inTime : source.InTime later) :
    advance source.leap (source.labelAt earlier)
      (source.numberAt later - source.numberAt earlier) = source.labelAt later := by
  have whole : BitVec.ofNat 32 earlier + BitVec.ofNat 32 (later - earlier) =
      BitVec.ofNat 32 later := by
    rw [← BitVec.ofNat_add, Nat.add_sub_cancel' order]
  rw [numberAt_sub order, labelAt, labelAt, ← whole]
  by_cases quiet : source.leap = none
  · have plain : source.first.2 = false := source.happens.unflagged (by simp [quiet])
    simp [quiet, advance, utcAdvance, plain, BitVec.add_assoc]
  · have noWrap := inTime quiet
    have fits := noWrap.fits
    refine (advance_composes source.scheduled source.happens).1 _ _ ?_
    rw [BitVec.toNat_ofNat, BitVec.toNat_ofNat, Nat.mod_eq_of_lt (by omega),
      Nat.mod_eq_of_lt (by omega), Nat.add_sub_cancel' order]
    exact noWrap

theorem labelAt_zero (source : TrueSource) : source.labelAt 0 = source.first :=
  advance_zero

theorem numberAt_zero (source : TrueSource) : source.numberAt 0 = source.sequence :=
  BitVec.add_zero _

end TrueSource

namespace Followed

variable {source : TrueSource} {state : Followed} {act : SourceEpoch}

/-- A label followed is the source's, some edges back. -/
def Follows (source : TrueSource) (state : Followed) : Prop :=
  state.tracker.hasLabel = true → ∃ count ≤ state.count,
    (state.tracker.lastLabel, state.tracker.lastLabelLeap) = source.labelAt count ∧
      state.tracker.lastLabelEdge = source.numberAt count

/-- What is expected of a labelled edge is the true label. -/
theorem Follows.expected (follows : Follows source state) (hasLabel : state.tracker.hasLabel = true)
    (numbered : Numbered source state act) (labelled : act.report.labelledEdge = true)
    (announced : StillAnnounced source state act) :
    utcAdvance state.tracker.lastLabel state.tracker.lastLabelLeap
        (act.report.edgeSequence - state.tracker.lastLabelEdge) act.report.leap.announced =
      source.labelAt act.count := by
  obtain ⟨count, order, label, number⟩ := follows hasLabel
  have edge := SyncSourceReport.labelledEdge_edge labelled
  rw [← source.labelAt_advance (order.trans numbered.counted) (numbered.inTime labelled),
    numbered.edge edge, number, ← label]
  rcases announced with same | ⟨withdrawn, past⟩
  · rw [same]
  · rw [withdrawn]
    cases leap : source.leap with
    | none => rfl
    | some known =>
        have scheduled := source.scheduled
        rw [leap] at scheduled
        exact advance_past scheduled (state.tracker.lastLabel, state.tracker.lastLabelLeap)
          (past known leap hasLabel)

theorem labelExpected_iff (follows : Follows source state)
    (hasLabel : state.tracker.hasLabel = true) (numbered : Numbered source state act)
    (labelled : act.report.labelledEdge = true) (announced : StillAnnounced source state act) :
    state.tracker.labelExpected act.report = true ↔
      (act.report.utcSeconds, act.report.leapSecond) = source.labelAt act.count := by
  rw [SyncSourceTracker.labelExpected, follows.expected hasLabel numbered labelled announced,
    hasLabel, Bool.not_true, Bool.false_or, beq_iff_eq, eq_comm]

/-- A true epoch: the label is followed, nothing is inconsistent. -/
theorem Truthful.judged (truthful : Truthful source state act) (follows : Follows source state) :
    Follows source (state.step act) ∧
      (state.step act).tracker.labelJumps = state.tracker.labelJumps ∧
      (state.step act).tracker.check ≠ .inconsistent := by
  cases labelled : act.report.labelledEdge with
  | true =>
      have judged := state.tracker.judge_labelled act.maxUncertaintyNs act.epoch labelled
      have expected : state.tracker.labelExpected act.report = true := by
        cases hasLabel : state.tracker.hasLabel with
        | true =>
            exact (labelExpected_iff follows hasLabel truthful.toNumbered labelled
              (truthful.announced labelled)).mpr (truthful.label labelled)
        | false => rw [SyncSourceTracker.labelExpected, hasLabel]; rfl
      refine ⟨fun _ => ⟨act.count, le_rfl, ?_, ?_⟩, judged.expected expected⟩
      · exact judged.label.trans (truthful.label labelled)
      · exact judged.edge.trans (truthful.edge (SyncSourceReport.labelledEdge_edge labelled))
  | false =>
      obtain ⟨same, check⟩ := state.tracker.judge_unlabelled act.maxUncertaintyNs act.epoch labelled
      have jumps : (state.tracker.withEdge act.report).labelJumps = state.tracker.labelJumps := by
        rw [SyncSourceTracker.withEdge]
        split <;> rfl
      refine ⟨fun hasLabel => ?_, same.labelJumps.trans jumps, check⟩
      obtain ⟨kept, still⟩ := SyncSourceTracker.withEdge_hasLabel (same.hasLabel.symm.trans hasLabel)
      obtain ⟨count, order, label, number⟩ := follows kept
      refine ⟨count, order.trans truthful.counted, ?_, ?_⟩
      · rw [show (state.step act).tracker.lastLabel = _ from same.lastLabel,
          show (state.step act).tracker.lastLabelLeap = _ from same.lastLabelLeap, still]
        exact label
      · rw [show (state.step act).tracker.lastLabelEdge = _ from same.lastLabelEdge, still]
        exact number

theorem follows_invariant (source : TrueSource) :
    machine.Invariant (Truthful source) fun state =>
      Follows source state ∧ state.tracker.labelJumps = 0 ∧ state.tracker.check ≠ .inconsistent where
  start state started := by
    subst started
    exact ⟨nofun, rfl, nofun⟩
  step state act valid truthful := by
    obtain ⟨follows, jumps, check⟩ := truthful.judged valid.1
    exact ⟨follows, jumps.trans valid.2.1, check⟩

/-- Along a true run no label jumps. -/
theorem run_judged {acts : List SourceEpoch} {final : Followed}
    (run : machine.Run (Truthful source) state acts final) (follows : Follows source state) :
    Follows source final ∧ final.tracker.labelJumps = state.tracker.labelJumps ∧
      (acts ≠ [] → final.tracker.check ≠ .inconsistent) := by
  induction run with
  | nil => exact ⟨follows, rfl, fun some => absurd rfl some⟩
  | cons act truthful rest ih =>
      obtain ⟨next, jumps, check⟩ := truthful.judged follows
      obtain ⟨last, restJumps, restCheck⟩ := ih next
      refine ⟨last, restJumps.trans jumps, fun _ => ?_⟩
      cases rest with
      | nil => exact check
      | cons => exact restCheck (List.cons_ne_nil _ _)

/-- An epoch with an edge, from a source that answers. -/
def HasEdge (act : SourceEpoch) : Prop :=
  act.report.present = true ∧ act.report.edge = true

/-- A label followed is followed on as long as there are edges. -/
theorem run_hasLabel {acts : List SourceEpoch} {final : Followed}
    (run : machine.Run (fun state act => Truthful source state act ∧ HasEdge act) state acts final)
    (hasLabel : state.tracker.hasLabel = true) : final.tracker.hasLabel = true := by
  induction run with
  | nil => exact hasLabel
  | @cons state _ _ act admitted _ ih =>
      obtain ⟨_, present, edge⟩ := admitted
      refine ih ?_
      cases labelled : act.report.labelledEdge with
      | true => exact (state.tracker.judge_labelled _ _ labelled).hasLabel
      | false =>
          have same := (state.tracker.judge_unlabelled act.maxUncertaintyNs act.epoch labelled).1
          refine same.hasLabel.trans ?_
          rw [SyncSourceTracker.withEdge, present, edge]
          exact hasLabel

/-- A jump of a source's time at a labelled edge: its label is not the one counted, and
what follows is counted from it afresh. -/
structure Jumps (source jumped : TrueSource) (state : Followed) (act : SourceEpoch) : Prop
    extends Numbered source state act where
  labelled : act.report.labelledEdge = true
  announced : StillAnnounced source state act
  away : (act.report.utcSeconds, act.report.leapSecond) ≠ source.labelAt act.count
  first : jumped.first = (act.report.utcSeconds, act.report.leapSecond)
  sequence : jumped.sequence = act.report.edgeSequence

/-- The jump is found, and what follows is followed. -/
theorem Jumps.judged {jumped : TrueSource} (jumps : Jumps source jumped state act)
    (follows : Follows source state) (hasLabel : state.tracker.hasLabel = true) :
    Follows jumped { state.step act with count := 0 } ∧
      (state.step act).tracker.labelJumps = state.tracker.labelJumps + 1 ∧
      ((state.step act).tracker.check = .inconsistent ∨
        (state.step act).tracker.check = .inaccurate) := by
  have judged := state.tracker.judge_labelled act.maxUncertaintyNs act.epoch jumps.labelled
  have unexpected : state.tracker.labelExpected act.report = false := by
    refine Bool.eq_false_iff.mpr fun expected => jumps.away ?_
    exact (labelExpected_iff follows hasLabel jumps.toNumbered jumps.labelled
      jumps.announced).mp expected
  refine ⟨fun _ => ⟨0, le_rfl, ?_, ?_⟩, judged.unexpected unexpected⟩
  · exact judged.label.trans (jumps.first.symm.trans jumped.labelAt_zero.symm)
  · exact judged.edge.trans (jumps.sequence.symm.trans jumped.numberAt_zero.symm)

end Followed

open Followed in
/-- A true source is never judged inconsistent, nor counted to have jumped. -/
def TrueSource.NeverInconsistent (source : TrueSource) : Prop :=
  ∀ state, machine.Reachable (Truthful source) state →
    state.tracker.labelJumps = 0 ∧ state.tracker.check ≠ .inconsistent

open Followed in
/-- A true source labels an edge, has edges from then on, and jumps: the epoch of the jump
is inconsistent, or worse, and no other is. -/
def TrueSource.JumpFound (source : TrueSource) : Prop :=
  ∀ (jumped : TrueSource) (state labelled final last : Followed) (act jump : SourceEpoch)
    (between later : List SourceEpoch),
    machine.Reachable (Truthful source) state → act.report.labelledEdge = true →
    Truthful source state act → labelled = state.step act →
    machine.Run (fun state act => Truthful source state act ∧ HasEdge act) labelled between final →
    Jumps source jumped final jump →
    machine.Run (Truthful jumped) { final.step jump with count := 0 } later last →
      final.tracker.labelJumps = 0 ∧ (final.step jump).tracker.labelJumps = 1 ∧
        ((final.step jump).tracker.check = .inconsistent ∨
          (final.step jump).tracker.check = .inaccurate) ∧
        last.tracker.labelJumps = 1 ∧ (later ≠ [] → last.tracker.check ≠ .inconsistent)

/-- **A true source is believed.** With its leap second announced up to the first label
followed past it, a true source is never judged inconsistent, whatever the epochs in
which it is absent, invalid, without an edge, unlabelled or inaccurate; and where its
time jumps once, between labelled epochs with edges throughout, the epoch of the jump is
inconsistent or inaccurate, counted as the one jump, and no other is inconsistent. -/
theorem truthful_source_judged (source : TrueSource) :
    source.NeverInconsistent ∧ source.JumpFound := by
  refine ⟨fun state reached => ?_, ?_⟩
  · exact ((Followed.follows_invariant source).reachable reached).2
  · intro jumped state labelled final last act jump between later reached isLabelled truthful same
      edges jumps after
    subst same
    obtain ⟨follows, noJumps, _⟩ := (Followed.follows_invariant source).reachable reached
    obtain ⟨labelFollows, labelJumps, _⟩ := truthful.judged follows
    have hasLabel : final.tracker.hasLabel = true :=
      Followed.run_hasLabel edges (state.tracker.judge_labelled _ _ isLabelled).hasLabel
    have trueRun := edges.mono fun _ _ both => both.1
    obtain ⟨finalFollows, finalJumps, _⟩ := Followed.run_judged trueRun labelFollows
    obtain ⟨jumpFollows, jumpCounted, jumpCheck⟩ := jumps.judged finalFollows hasLabel
    obtain ⟨_, lastJumps, lastCheck⟩ := Followed.run_judged after jumpFollows
    have none : final.tracker.labelJumps = 0 := finalJumps.trans (labelJumps.trans noJumps)
    have one : (final.step jump).tracker.labelJumps = 1 := by
      rw [jumpCounted, none]
      rfl
    exact ⟨none, one, jumpCheck, lastJumps.trans one, lastCheck⟩

/-! ## The end of 2016 -/

/-- From 23:59:58 on. -/
def source2016 : TrueSource where
  first := (1483228798, false)
  sequence := 0xFFFFFFFE
  leap := some leap2016
  scheduled := scheduled_2016
  happens := happens_2016

/-- An edge of it, labelled or not, with the leap second announced or not. -/
def epoch2016 (count : Nat) (labelled : Bool) (leap : UtcLeap) : SourceEpoch where
  report :=
    { present := true
      timeValid := true
      edge := true
      edgeSequence := source2016.numberAt count
      labelled := labelled
      utcSeconds := (source2016.labelAt count).1
      leapSecond := (source2016.labelAt count).2
      leap := leap }
  maxUncertaintyNs := 0
  epoch := 0
  count := count

namespace Followed

variable {state : Followed} {count : Nat}

theorem numbered_2016 (labelled : Bool) (leap : UtcLeap) (counted : state.count ≤ count)
    (soon : count ≤ 4) : Numbered source2016 state (epoch2016 count labelled leap) where
  counted := counted
  edge _ := rfl
  inTime _ _ := ⟨lt_of_le_of_lt (Nat.add_le_add_left soon _) (by decide), kept_2016⟩

theorem truthful_2016 (counted : state.count ≤ count) (soon : count ≤ 4) :
    Truthful source2016 state (epoch2016 count true leap2016) where
  toNumbered := numbered_2016 true leap2016 counted soon
  label _ := rfl
  announced _ := .inl rfl

theorem untilEvent_2016 (labelled : Bool) (counted : state.count ≤ count) (soon : count ≤ 4) :
    UntilEvent source2016 state (epoch2016 count labelled leap2016) where
  toNumbered := numbered_2016 labelled leap2016 counted soon
  label _ := rfl
  announced := .inl rfl

/-- A second after midnight nothing need be announced any more. -/
theorem untilEvent_withdrawn (counted : state.count ≤ 4) :
    UntilEvent source2016 state (epoch2016 4 true ⟨0, 0⟩) where
  toNumbered := numbered_2016 true ⟨0, 0⟩ counted le_rfl
  label _ := rfl
  announced := by
    refine .inr ⟨rfl, fun known announced => ?_⟩
    cases announced
    decide

end Followed

open Followed in
/-- Followed through 23:59:60 second by second. -/
theorem truthful_source_judged_2016 :
    ∃ state, machine.Reachable (Truthful source2016) state ∧ state.count = 3 ∧
      state.tracker.check ≠ .inconsistent := by
  have started : machine.Reachable (Truthful source2016) ⟨{}, 0⟩ := .start rfl
  have reached := (((started.step _ (truthful_2016 le_rfl (by decide))).step
    (epoch2016 1 true leap2016) (truthful_2016 (by decide) (by decide))).step
      (epoch2016 2 true leap2016) (truthful_2016 (by decide) (by decide))).step
        (epoch2016 3 true leap2016) (truthful_2016 (by decide) (by decide))
  exact ⟨_, reached, rfl, ((truthful_source_judged source2016).1 _ reached).2⟩

open Followed in
/-- **A leap second withdrawn.** The edges from 23:59:59 to midnight are not labelled, the
leap second is announced with each of them, and no longer with the next: that true label
is judged inconsistent. -/
theorem withdrawn_leap_inconsistent :
    ¬∀ source state, machine.Reachable (UntilEvent source) state →
      state.tracker.check ≠ .inconsistent := by
  intro claimed
  have started : machine.Reachable (UntilEvent source2016) ⟨{}, 0⟩ := .start rfl
  have reached := ((((started.step _ (untilEvent_2016 true le_rfl (Nat.zero_le 4))).step
    (epoch2016 1 false leap2016) (untilEvent_2016 false (by decide) (by decide))).step
      (epoch2016 2 false leap2016) (untilEvent_2016 false (by decide) (by decide))).step
        (epoch2016 3 false leap2016) (untilEvent_2016 false (by decide) (by decide))).step
          _ (untilEvent_withdrawn (by decide))
  exact claimed source2016 _ reached (by decide)

end GpsClock.Sync
