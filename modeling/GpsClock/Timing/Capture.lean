import GpsClock.Lib.Machine
import GpsClock.Timing.EpochControl
import GpsClock.Timing.Timebase

/-! # The captures

`pps_capture.c`: two pairs of captures, of the reference's edges and of the epoch's, each on
its own cascade. They are aligned and checked against one common edge before anything is
trusted, and an offset that stays is taken off every reference capture. Then every stamp is
its edge's cycle on the epoch's cascade, every period the cycles between the last two edges
of the one input routed, and every edge is reported once
(`GpsClock.Timing.Bench.captures_true`).
-/

namespace GpsClock.Timing

inductive PpsInput
  | gnss
  | esp
  deriving DecidableEq, Repr

/-- `PERIOD_LIMIT_LOWER`. -/
abbrev periodLimitLower : Nat := 39960000

/-- `PERIOD_LIMIT_UPPER`. -/
abbrev periodLimitUpper : Nat := 40040000

/-- `PPS_CAPTURE_ALIGN_ATTEMPTS`. -/
abbrev ppsCaptureAlignAttempts : Nat := 8

/-- `PPS_CAPTURE_ALIGN_TOLERANCE`. -/
abbrev ppsCaptureAlignTolerance : Int := 4

structure PpsCaptureSync where
  ic12Stamp : BitVec 32 := 0
  ic34Stamp : BitVec 32 := 0
  offsets : List Int := []
  attempts : Nat := 0
  correction : Int := 0
  valid : Bool := false
  deriving DecidableEq, Repr

structure PpsCaptureSample where
  referenceInput : PpsInput
  referenceCapture : BitVec 32
  referenceLow : BitVec 16
  referenceHigh : BitVec 16
  referenceRolloverCorrected : Bool
  referenceCaptureValid : Bool
  referenceEdgeSequence : BitVec 32
  referencePeriod : BitVec 32
  referencePeriodSequence : BitVec 32
  referencePeriodValid : Bool
  epochCapture : BitVec 32
  epochLow : BitVec 16
  epochHigh : BitVec 16
  epochRolloverCorrected : Bool
  epochCaptureValid : Bool
  deriving DecidableEq, Repr

/-- `pps_capture.c`'s statics. -/
structure PpsCapture where
  capturesTrusted : Bool := false
  ic12Correction : BitVec 32 := 0
  ic12Input : PpsInput := .gnss
  ic12Stamp : BitVec 32 := 0
  ic12Low : BitVec 16 := 0
  ic12High : BitVec 16 := 0
  ic12RolloverCorrected : Bool := false
  ic12StampValid : Bool := false
  ic12Period : BitVec 32 := 40000000
  ic12PeriodSequence : BitVec 32 := 0
  ic12PeriodValid : Bool := false
  ic12EdgeSequence : BitVec 32 := 0
  ic12Previous : BitVec 32 := 0
  ic12PreviousValid : Bool := false
  ic34Stamp : BitVec 32 := 0
  ic34Low : BitVec 16 := 0
  ic34High : BitVec 16 := 0
  ic34RolloverCorrected : Bool := false
  ic34StampValid : Bool := false
  deriving DecidableEq, Repr

/-- A period within a thousandth of nominal. -/
def plausiblePeriod (period : BitVec 32) : Bool :=
  periodLimitLower ≤ period.toNat && period.toNat ≤ periodLimitUpper

namespace PpsCapture

/-- `_IC1Interrupt`: an edge of the reference. -/
def ic1Interrupt (capture : PpsCapture) (low high : BitVec 16) : PpsCapture :=
  let joined := joinCascade low high
  let stamp := joined.1 - capture.ic12Correction
  let period := stamp - capture.ic12Previous
  let timed :=
    if !capture.ic12PreviousValid then capture
    else if plausiblePeriod period then
      { capture with
        ic12Period := period
        ic12PeriodSequence := capture.ic12PeriodSequence + 1
        ic12PeriodValid := true }
    else { capture with ic12PeriodValid := false }
  { timed with
    ic12Low := low
    ic12High := high
    ic12RolloverCorrected := joined.2
    ic12Previous := stamp
    ic12PreviousValid := true
    ic12Stamp := stamp
    ic12StampValid := capture.capturesTrusted
    ic12EdgeSequence :=
      if capture.capturesTrusted then capture.ic12EdgeSequence + 1 else capture.ic12EdgeSequence }

/-- `_IC3Interrupt`: the epoch's edge, read back. -/
def ic3Interrupt (capture : PpsCapture) (low high : BitVec 16) : PpsCapture :=
  let joined := joinCascade low high
  { capture with
    ic34Low := low
    ic34High := high
    ic34RolloverCorrected := joined.2
    ic34Stamp := joined.1
    ic34StampValid := capture.capturesTrusted }

/-- `pps_capture_sample`. -/
def sample (capture : PpsCapture) : PpsCaptureSample × PpsCapture :=
  ({ referenceInput := capture.ic12Input
     referenceCapture := capture.ic12Stamp
     referenceLow := capture.ic12Low
     referenceHigh := capture.ic12High
     referenceRolloverCorrected := capture.ic12RolloverCorrected
     referenceCaptureValid := capture.ic12StampValid
     referenceEdgeSequence := capture.ic12EdgeSequence
     referencePeriod := capture.ic12Period
     referencePeriodSequence := capture.ic12PeriodSequence
     referencePeriodValid := capture.ic12PeriodValid
     epochCapture := capture.ic34Stamp
     epochLow := capture.ic34Low
     epochHigh := capture.ic34High
     epochRolloverCorrected := capture.ic34RolloverCorrected
     epochCaptureValid := capture.ic34StampValid },
    { capture with ic12StampValid := false, ic34StampValid := false })

/-- `pps_capture_route`: the edge that switching may make is flushed. -/
def route (capture : PpsCapture) (input : PpsInput) : PpsCapture :=
  if input = capture.ic12Input then capture
  else
    { capture with
      ic12Input := input
      ic12PreviousValid := false
      ic12PeriodValid := false
      ic12StampValid := false }

end PpsCapture

/-! ## Alignment -/

/-- What one attempt meets: how many cycles ahead of the epoch's cascade the reference's is
left, on which cycle of the epoch's the strobe rises, and which pair captures it. -/
structure Attempt where
  lead : Int
  strobe : Nat
  seen12 : Bool
  seen34 : Bool
  deriving DecidableEq, Repr

/-- `pps_capture_init`'s loop. -/
structure Aligning where
  capture : PpsCapture := {}
  sync : PpsCaptureSync := {}
  offset : Int := 0
  captured : Bool := false
  steady : Nat := 0
  deriving DecidableEq, Repr

/-- An edge on a cycle of the epoch's cascade, captured on the reference's. -/
def PpsCapture.edge (capture : PpsCapture) (lead : Int) (cycle : Nat) : PpsCapture :=
  let cascade := Cascade.atCycle (cycle + lead).toNat
  capture.ic1Interrupt cascade.low cascade.high

def PpsCapture.epoch (capture : PpsCapture) (cycle : Nat) : PpsCapture :=
  let cascade := Cascade.atCycle cycle
  capture.ic3Interrupt cascade.low cascade.high

/-- Different stamps, so that a missed edge never passes as agreement. -/
def PpsCapture.cleared (capture : PpsCapture) : PpsCapture :=
  { capture with ic12Stamp := 0xFFFFFFFF, ic34Stamp := 0xFFFFFFFE }

/-- `align_and_check`. -/
def PpsCapture.alignAndCheck (capture : PpsCapture) (attempt : Attempt) : PpsCapture :=
  let referred :=
    if attempt.seen12 then capture.cleared.edge attempt.lead attempt.strobe else capture.cleared
  if attempt.seen34 then referred.epoch attempt.strobe else referred

namespace Aligning

/-- One round of the loop. -/
def attempt (aligning : Aligning) (met : Attempt) : Aligning :=
  let capture := aligning.capture.alignAndCheck met
  let offset := (capture.ic12Stamp - capture.ic34Stamp).toInt
  let captured := decide (capture.ic12Stamp < 0xFFFFFFFE) && decide (capture.ic34Stamp < 0xFFFFFFFE)
  let aligned := captured && offset == 0
  { capture := capture
    sync :=
      { aligning.sync with
        ic12Stamp := capture.ic12Stamp
        ic34Stamp := capture.ic34Stamp
        offsets := aligning.sync.offsets ++ [if captured then offset else 2 ^ 31 - 1]
        attempts := aligning.sync.attempts + 1
        valid := aligned }
    offset := offset
    captured := captured
    steady :=
      if aligned then aligning.steady
      else if captured && aligning.captured && offset == aligning.offset then aligning.steady + 1
      else 0 }

/-- The attempts left. -/
def attempts (met : Nat → Attempt) : Nat → Aligning → Aligning
  | 0, aligning => aligning
  | left + 1, aligning =>
      let next := aligning.attempt (met aligning.sync.attempts)
      if next.sync.valid then next else attempts met left next

/-- A steady small offset is corrected; anything else is not to be trusted. -/
def settled (aligning : Aligning) : PpsCaptureSync :=
  if !aligning.sync.valid && aligning.captured && decide (2 ≤ aligning.steady) &&
      decide (aligning.offset ≤ ppsCaptureAlignTolerance) &&
      decide (-ppsCaptureAlignTolerance ≤ aligning.offset) then
    { aligning.sync with correction := aligning.offset, valid := true }
  else aligning.sync

end Aligning

/-- `pps_capture_init`. -/
def ppsCaptureInit (met : Nat → Attempt) : PpsCaptureSync × PpsCapture :=
  let aligned := Aligning.attempts met ppsCaptureAlignAttempts {}
  let sync := aligned.settled
  (sync,
    { aligned.capture with
      ic12Correction := BitVec.ofInt 32 sync.correction
      capturesTrusted := sync.valid
      ic12Input := .gnss
      ic12EdgeSequence := 0
      ic12PreviousValid := false
      ic12StampValid := false
      ic34StampValid := false })

/-! ## The run -/

/-- The captures; how far ahead the reference's cascade was left; and what there has been:
the edges of the input since it was routed, those of the epoch, how many edges have been
captured in all, and whether there is one of each since the last sample. -/
structure Bench where
  capture : PpsCapture
  lead : Int
  edges : List Nat
  epochs : List Nat
  total : Nat
  fresh : Bool
  epochFresh : Bool

inductive BenchAct
  | edge (input : PpsInput) (cycle : Nat)
  | epoch (cycle : Nat)
  | route (input : PpsInput)
  | sample

namespace Bench

def step (bench : Bench) : BenchAct → Bench
  | .edge input cycle =>
      if input = bench.capture.ic12Input then
        { bench with
          capture := bench.capture.edge bench.lead cycle
          edges := cycle :: bench.edges
          total := bench.total + 1
          fresh := true }
      else bench
  | .epoch cycle =>
      { bench with
        capture := bench.capture.epoch cycle
        epochs := cycle :: bench.epochs
        epochFresh := true }
  | .route input =>
      if input = bench.capture.ic12Input then bench
      else { bench with capture := bench.capture.route input, edges := [], fresh := false }
  | .sample => { bench with capture := bench.capture.sample.2, fresh := false, epochFresh := false }

/-- From `pps_capture_init` on, the cascades as its last attempt left them. -/
def machine (met : Nat → Attempt) : Machine Bench BenchAct where
  start bench := bench =
    { capture := (ppsCaptureInit met).2
      lead := (met ((ppsCaptureInit met).1.attempts - 1)).lead
      edges := []
      epochs := []
      total := 0
      fresh := false
      epochFresh := false }
  step := step

/-- Edges one after another, after the cascades' first cycle. -/
def Admits (bench : Bench) : BenchAct → Prop
  | .edge _ cycle =>
      (∀ earlier ∈ bench.edges, earlier ≤ cycle) ∧ 0 < cycle + bench.lead
  | .epoch cycle => 0 < cycle
  | _ => True

end Bench

/-! ## One edge -/

/-- After the cascade's first cycle a captured stamp is its cycle. -/
theorem timebaseCaptured_pos {cycle : Nat} (started : 0 < cycle) :
    timebaseCaptured cycle = BitVec.ofNat 32 cycle := by
  by_cases rolled : 2 ^ 16 ≤ cycle
  · exact timebaseCaptured_eq rolled
  · have nonzero : BitVec.ofNat 16 cycle ≠ 0x0000 := by
      intro zero
      have same := (Wrapping.ofNat_eq_iff cycle 0).mp zero
      rw [Nat.ModEq] at same
      omega
    rw [timebaseCaptured, joinCascade, Cascade.atCycle_eq]
    dsimp only
    rw [if_neg nonzero]
    exact joinHalves_eq (by omega)

namespace PpsCapture

variable (capture : PpsCapture) {lead : Int} {cycle : Nat}

/-- What is left of a cascade's lead once the correction is taken off. -/
def shift (lead : Int) : BitVec 32 := BitVec.ofInt 32 lead - capture.ic12Correction

/-- What an edge leaves, the period aside. -/
structure Edged (lead : Int) (cycle : Nat) (after : PpsCapture) : Prop where
  stamp : after.ic12Stamp = BitVec.ofNat 32 cycle + capture.shift lead
  previous : after.ic12Previous = after.ic12Stamp
  previousValid : after.ic12PreviousValid = true
  stampValid : after.ic12StampValid = capture.capturesTrusted
  sequence : after.ic12EdgeSequence =
    if capture.capturesTrusted then capture.ic12EdgeSequence + 1 else capture.ic12EdgeSequence
  trusted : after.capturesTrusted = capture.capturesTrusted
  correction : after.ic12Correction = capture.ic12Correction
  input : after.ic12Input = capture.ic12Input
  epoch : after.ic34Stamp = capture.ic34Stamp ∧ after.ic34StampValid = capture.ic34StampValid

theorem edge_spec (started : 0 < cycle + lead) :
    capture.Edged lead cycle (capture.edge lead cycle) ∧
      ((capture.edge lead cycle).ic12PeriodValid = true →
        capture.ic12PreviousValid = false ∧ capture.ic12PeriodValid = true ∨
        capture.ic12PreviousValid = true ∧
          (capture.edge lead cycle).ic12Period =
            BitVec.ofNat 32 cycle + capture.shift lead - capture.ic12Previous ∧
          plausiblePeriod (capture.edge lead cycle).ic12Period = true) := by
  have joined : (joinCascade (Cascade.atCycle (cycle + lead).toNat).low
      (Cascade.atCycle (cycle + lead).toNat).high).1 - capture.ic12Correction =
        BitVec.ofNat 32 cycle + capture.shift lead := by
    have captured := timebaseCaptured_pos (show 0 < (cycle + lead).toNat by omega)
    rw [timebaseCaptured] at captured
    have whole : BitVec.ofNat 32 (cycle + lead).toNat = BitVec.ofNat 32 cycle + BitVec.ofInt 32 lead := by
      rw [← BitVec.ofInt_natCast, Int.toNat_of_nonneg started.le, BitVec.ofInt_add,
        BitVec.ofInt_natCast]
    rw [captured, whole, shift, BitVec.sub_eq_add_neg, BitVec.sub_eq_add_neg, BitVec.add_assoc]
  rw [edge, ic1Interrupt]
  simp only [joined]
  split
  · next first =>
      have none : capture.ic12PreviousValid = false := by simpa using first
      exact ⟨⟨rfl, rfl, rfl, rfl, rfl, rfl, rfl, rfl, rfl, rfl⟩, fun held => .inl ⟨none, held⟩⟩
  · next second =>
      have some : capture.ic12PreviousValid = true := by simpa using second
      split
      · next near =>
          exact ⟨⟨rfl, rfl, rfl, rfl, rfl, rfl, rfl, rfl, rfl, rfl⟩,
            fun _ => .inr ⟨some, rfl, near⟩⟩
      · exact ⟨⟨rfl, rfl, rfl, rfl, rfl, rfl, rfl, rfl, rfl, rfl⟩, fun impossible => by cases impossible⟩

theorem epoch_stamp (started : 0 < cycle) :
    (capture.epoch cycle).ic34Stamp = BitVec.ofNat 32 cycle :=
  timebaseCaptured_pos started

end PpsCapture

/-! ## The alignment found -/

/-- The timers were reset less than a second before the strobe. -/
structure Attempt.Sensible (met : Attempt) : Prop where
  started : 0 < met.strobe
  startedAhead : 0 < met.strobe + met.lead
  soon : met.strobe < periodLimitLower
  soonAhead : met.strobe + met.lead < periodLimitLower

namespace Aligning

variable {met : Nat → Attempt} {aligning : Aligning}

/-- Between attempts: nothing corrected, trusted or timed, and an offset that was captured is
by how much the last attempt left the reference's cascade ahead. -/
structure Sound (met : Nat → Attempt) (aligning : Aligning) : Prop where
  uncorrected : aligning.capture.ic12Correction = 0
  untimed : aligning.capture.ic12PeriodValid = false
  small : aligning.capture.ic12Previous.toNat < periodLimitLower
  correction : aligning.sync.correction = 0
  offset : aligning.captured = true → aligning.offset = (met (aligning.sync.attempts - 1)).lead
  aligned : aligning.sync.valid = true → aligning.captured = true ∧ aligning.offset = 0

/-- Two edges less than a second after a reset are no period. -/
theorem implausible {stamp previous : BitVec 32} (late : stamp.toNat < periodLimitLower)
    (early : previous.toNat < periodLimitLower) : plausiblePeriod (stamp - previous) = false := by
  rw [plausiblePeriod, Bool.and_eq_false_iff, decide_eq_false_iff_not, decide_eq_false_iff_not,
    BitVec.toNat_sub]
  dsimp only [periodLimitLower, periodLimitUpper] at *
  omega

/-- One attempt, from captures with nothing corrected and no period begun. -/
structure Checked (met : Attempt) (after : PpsCapture) : Prop where
  uncorrected : after.ic12Correction = 0
  untimed : after.ic12PeriodValid = false
  small : after.ic12Previous.toNat < periodLimitLower
  offset : after.ic12Stamp < 0xFFFFFFFE → after.ic34Stamp < 0xFFFFFFFE →
    (after.ic12Stamp - after.ic34Stamp).toInt = met.lead

theorem alignAndCheck_checked {capture : PpsCapture} {met : Attempt}
    (uncorrected : capture.ic12Correction = 0) (untimed : capture.ic12PeriodValid = false)
    (small : capture.ic12Previous.toNat < periodLimitLower) (sensible : met.Sensible) :
    Checked met (capture.alignAndCheck met) := by
  obtain ⟨started, startedAhead, soon, soonAhead⟩ := sensible
  have before : capture.cleared.ic12Correction = 0 ∧ capture.cleared.ic12PeriodValid = false ∧
      capture.cleared.ic12Previous.toNat < periodLimitLower ∧
      capture.cleared.ic12Stamp = 0xFFFFFFFF ∧ capture.cleared.ic34Stamp = 0xFFFFFFFE :=
    ⟨uncorrected, untimed, small, rfl, rfl⟩
  rw [PpsCapture.alignAndCheck]
  generalize capture.cleared = cleared at *
  obtain ⟨uncorrected, untimed, small, missed, missedEpoch⟩ := before
  cases seen12 : met.seen12 with
  | false =>
      have after : ∀ referred : PpsCapture, referred = cleared →
          (if met.seen34 then referred.epoch met.strobe else referred).ic12Stamp = 0xFFFFFFFF ∧
          (if met.seen34 then referred.epoch met.strobe else referred).ic12Correction = 0 ∧
          (if met.seen34 then referred.epoch met.strobe else referred).ic12PeriodValid = false ∧
          (if met.seen34 then referred.epoch met.strobe else referred).ic12Previous =
            cleared.ic12Previous := by
        rintro referred rfl
        split <;> exact ⟨missed, uncorrected, untimed, rfl⟩
      obtain ⟨stamp, correction, period, previous⟩ := after _ (if_neg Bool.false_ne_true)
      refine ⟨correction, period, by rw [previous]; exact small, fun seen => ?_⟩
      rw [stamp] at seen
      exact absurd seen (by decide)
  | true =>
      rw [if_pos rfl]
      obtain ⟨edged, period⟩ := cleared.edge_spec startedAhead
      have stamp : (cleared.edge met.lead met.strobe).ic12Stamp =
          BitVec.ofInt 32 (met.strobe + met.lead) := by
        rw [edged.stamp, PpsCapture.shift, uncorrected, BitVec.ofInt_add, BitVec.ofInt_natCast]
        exact congrArg _ (BitVec.sub_zero _)
      have stampNat : (BitVec.ofInt 32 (met.strobe + met.lead)).toNat < periodLimitLower := by
        rw [BitVec.toNat_ofInt]
        dsimp only [periodLimitLower] at *
        omega
      have still : (cleared.edge met.lead met.strobe).ic12PeriodValid = false := by
        by_contra timed
        rw [Bool.not_eq_false] at timed
        rcases period timed with ⟨_, held⟩ | ⟨_, length, near⟩
        · exact Bool.false_ne_true (untimed.symm.trans held)
        · rw [length, ← edged.stamp, stamp, implausible stampNat small] at near
          cases near
      have previous := edged.previous.trans stamp
      have correction := edged.correction.trans uncorrected
      have unseen := edged.epoch.1.trans missedEpoch
      generalize cleared.edge met.lead met.strobe = referred at *
      cases seen34 : met.seen34 with
      | false =>
          refine ⟨correction, still, by rw [if_neg Bool.false_ne_true, previous]; exact stampNat,
            fun _ seen => ?_⟩
          rw [if_neg Bool.false_ne_true, unseen] at seen
          exact absurd seen (by decide)
      | true =>
          have kept : (referred.epoch met.strobe).ic12Previous = referred.ic12Previous := rfl
          refine ⟨correction, still, by rw [if_pos rfl, kept, previous]; exact stampNat,
            fun _ _ => ?_⟩
          have held : (referred.epoch met.strobe).ic12Stamp = referred.ic12Stamp := rfl
          rw [if_pos rfl, referred.epoch_stamp started, held, stamp, ← BitVec.ofInt_natCast,
            Wrapping.toInt_ofInt_sub] <;> (dsimp only [periodLimitLower] at *; omega)

theorem Sound.attempt (sound : aligning.Sound met)
    (sensible : (met aligning.sync.attempts).Sensible) :
    (aligning.attempt (met aligning.sync.attempts)).Sound met := by
  have checked := alignAndCheck_checked sound.uncorrected sound.untimed sound.small sensible
  have last : aligning.sync.attempts + 1 - 1 = aligning.sync.attempts := Nat.add_sub_cancel _ 1
  rw [Aligning.attempt]
  generalize aligning.capture.alignAndCheck (met aligning.sync.attempts) = after at *
  refine ⟨checked.uncorrected, checked.untimed, checked.small, sound.correction, fun captured => ?_,
    fun aligned => ?_⟩
  · simp only [Bool.and_eq_true, decide_eq_true_eq] at captured
    dsimp only
    rw [last]
    exact checked.offset captured.1 captured.2
  · simpa using aligned

/-- However many attempts are left, there is at least one. -/
theorem Sound.attempts (sensible : ∀ index, (met index).Sensible) (left : Nat)
    (sound : aligning.Sound met) : (Aligning.attempts met left aligning).Sound met := by
  induction left generalizing aligning with
  | zero => exact sound
  | succ left ih =>
      rw [Aligning.attempts]
      have next := sound.attempt (sensible aligning.sync.attempts)
      split
      · exact next
      · exact ih next

theorem sound_initial (met : Nat → Attempt) : Sound met {} := by
  refine ⟨rfl, rfl, by decide, rfl, fun captured => ?_, fun aligned => ?_⟩
  · cases captured
  · cases aligned

end Aligning

/-- Captures that are trusted have their cascades' difference corrected; no period is begun. -/
theorem ppsCaptureInit_spec {met : Nat → Attempt} (sensible : ∀ index, (met index).Sensible) :
    ((ppsCaptureInit met).2.capturesTrusted = true →
      (ppsCaptureInit met).2.shift (met ((ppsCaptureInit met).1.attempts - 1)).lead = 0) ∧
      (ppsCaptureInit met).2.capturesTrusted = (ppsCaptureInit met).1.valid ∧
      (ppsCaptureInit met).2.ic12PeriodValid = false := by
  have sound := (Aligning.sound_initial met).attempts sensible ppsCaptureAlignAttempts
  rw [ppsCaptureInit]
  generalize Aligning.attempts met ppsCaptureAlignAttempts {} = aligned at *
  refine ⟨fun trusted => ?_, rfl, sound.untimed⟩
  have lead : aligned.settled.correction = (met (aligned.settled.attempts - 1)).lead := by
    rw [Aligning.settled] at trusted ⊢
    split
    · next steady =>
        simp only [Bool.and_eq_true] at steady
        exact sound.offset steady.1.1.1.2
    · next plain =>
        rw [if_neg plain] at trusted
        obtain ⟨captured, offset⟩ := sound.aligned trusted
        rw [← sound.offset captured, offset, sound.correction]
  change BitVec.ofInt 32 (met (aligned.settled.attempts - 1)).lead -
    BitVec.ofInt 32 aligned.settled.correction = 0
  rw [lead]
  exact BitVec.sub_self _

/-! ## Every sample -/

namespace Bench

/-- What a sample says of what there has been, if the captures could be aligned. -/
structure Reports (aligned : Bool) (bench : Bench) (sample : PpsCaptureSample) : Prop where
  input : sample.referenceInput = bench.capture.ic12Input
  fresh : sample.referenceCaptureValid = true ↔ aligned = true ∧ bench.fresh = true
  edge : sample.referenceCaptureValid = true →
    ∃ edge earlier, bench.edges = edge :: earlier ∧ sample.referenceCapture = BitVec.ofNat 32 edge
  sequence : aligned = true → sample.referenceEdgeSequence = BitVec.ofNat 32 bench.total
  period : sample.referencePeriodValid = true →
    ∃ latest before earlier, bench.edges = latest :: before :: earlier ∧ before ≤ latest ∧
      sample.referencePeriod = BitVec.ofNat 32 (latest - before) ∧
      plausiblePeriod sample.referencePeriod = true
  epochFresh : sample.epochCaptureValid = true ↔ aligned = true ∧ bench.epochFresh = true
  epoch : sample.epochCaptureValid = true →
    ∃ epoch earlier, bench.epochs = epoch :: earlier ∧ sample.epochCapture = BitVec.ofNat 32 epoch

/-- What every act keeps: the statics hold what a sample reports, and the last edge's stamp
up to what is left of the lead. -/
structure Honest (aligned : Bool) (bench : Bench) : Prop where
  trusted : bench.capture.capturesTrusted = aligned
  shift : aligned = true → bench.capture.shift bench.lead = 0
  none : bench.capture.ic12PreviousValid = false → bench.edges = []
  held : bench.capture.ic12PreviousValid = true → ∃ edge earlier, bench.edges = edge :: earlier ∧
    bench.capture.ic12Stamp = BitVec.ofNat 32 edge + bench.capture.shift bench.lead ∧
    bench.capture.ic12Previous = bench.capture.ic12Stamp
  some : bench.fresh = true → bench.capture.ic12PreviousValid = true
  epochHeld : bench.epochFresh = true → ∃ epoch earlier, bench.epochs = epoch :: earlier ∧
    bench.capture.ic34Stamp = BitVec.ofNat 32 epoch
  reports : bench.Reports aligned bench.capture.sample.1

variable {aligned : Bool} {bench : Bench}

theorem Honest.edge (honest : bench.Honest aligned) {cycle : Nat}
    (later : ∀ earlier ∈ bench.edges, earlier ≤ cycle) (started : 0 < cycle + bench.lead) :
    ({ bench with
        capture := bench.capture.edge bench.lead cycle
        edges := cycle :: bench.edges
        total := bench.total + 1
        fresh := true } : Bench).Honest aligned := by
  obtain ⟨edged, timed⟩ := bench.capture.edge_spec started
  generalize bench.capture.edge bench.lead cycle = after at *
  have shift : after.shift bench.lead = bench.capture.shift bench.lead := by
    rw [PpsCapture.shift, PpsCapture.shift, edged.correction]
  have valid : after.ic12StampValid = true ↔ aligned = true ∧ true = true := by
    rw [edged.stampValid, honest.trusted]
    exact ⟨fun trusted => ⟨trusted, rfl⟩, And.left⟩
  refine ⟨edged.trusted.trans honest.trusted, fun good => shift.trans (honest.shift good),
    fun none => ?_, fun _ => ⟨cycle, bench.edges, rfl, ?_, edged.previous⟩,
    fun _ => edged.previousValid, fun fresh => ?_, ?_⟩
  · exact absurd (edged.previousValid.symm.trans none) Bool.noConfusion
  · dsimp only
    rw [shift]
    exact edged.stamp
  · dsimp only
    rw [edged.epoch.1]
    exact honest.epochHeld fresh
  · refine ⟨rfl, valid, fun captured => ?_, fun good => ?_, fun periodValid => ?_, ?_, ?_⟩
    · refine ⟨cycle, bench.edges, rfl, ?_⟩
      change after.ic12Stamp = _
      rw [edged.stamp, honest.shift (valid.mp captured).1]
      exact BitVec.add_zero _
    · change after.ic12EdgeSequence = _
      have counted : bench.capture.ic12EdgeSequence = BitVec.ofNat 32 bench.total :=
        honest.reports.sequence good
      rw [edged.sequence, honest.trusted, good, if_pos rfl, counted, BitVec.ofNat_add]
      rfl
    · have held : after.ic12PeriodValid = true := periodValid
      rcases timed held with ⟨none, impossible⟩ | ⟨some, length, near⟩
      · obtain ⟨latest, before, earlier, edges, _⟩ := honest.reports.period impossible
        rw [honest.none none] at edges
        cases edges
      · obtain ⟨before, earlier, edges, stamp, previous⟩ := honest.held some
        have ordered : before ≤ cycle := later before (by rw [edges]; exact List.mem_cons_self)
        refine ⟨cycle, before, earlier, congrArg (cycle :: ·) edges, ordered, ?_, near⟩
        change after.ic12Period = _
        rw [length, previous, stamp, ← Wrapping.sub_eq ordered]
        generalize bench.capture.shift bench.lead = shift
        bv_omega
    · change after.ic34StampValid = true ↔ _
      rw [edged.epoch.2]
      exact honest.reports.epochFresh
    · intro captured
      change ∃ epoch earlier, _ ∧ after.ic34Stamp = _
      rw [edged.epoch.1]
      refine honest.reports.epoch ?_
      change bench.capture.ic34StampValid = true
      rw [← edged.epoch.2]
      exact captured

theorem Honest.epoch_ (honest : bench.Honest aligned) {cycle : Nat} (started : 0 < cycle) :
    (bench.step (.epoch cycle)).Honest aligned := by
  have stamp := bench.capture.epoch_stamp started
  have valid : (bench.capture.epoch cycle).ic34StampValid = true ↔ aligned = true ∧ true = true := by
    change bench.capture.capturesTrusted = true ↔ _
    rw [honest.trusted]
    exact ⟨fun trusted => ⟨trusted, rfl⟩, And.left⟩
  exact ⟨honest.trusted, honest.shift, honest.none, honest.held, honest.some,
    fun _ => ⟨cycle, bench.epochs, rfl, stamp⟩, honest.reports.input, honest.reports.fresh,
    honest.reports.edge, honest.reports.sequence, honest.reports.period, valid,
    fun _ => ⟨cycle, bench.epochs, rfl, stamp⟩⟩

theorem Honest.route (honest : bench.Honest aligned) (input : PpsInput) :
    (bench.step (.route input)).Honest aligned := by
  rw [step]
  split
  · exact honest
  · next other =>
      have routed : bench.capture.route input =
          { bench.capture with
            ic12Input := input
            ic12PreviousValid := false
            ic12PeriodValid := false
            ic12StampValid := false } := by
        rw [PpsCapture.route, if_neg other]
      rw [routed]
      refine ⟨honest.trusted, honest.shift, fun _ => rfl, fun impossible => ?_, fun impossible => ?_,
        honest.epochHeld, rfl, ?_, fun impossible => ?_, honest.reports.sequence,
        fun impossible => ?_, honest.reports.epochFresh, honest.reports.epoch⟩
      · cases impossible
      · cases impossible
      · exact iff_of_false Bool.false_ne_true fun both => Bool.false_ne_true both.2
      · cases impossible
      · cases impossible

theorem Honest.sample_ (honest : bench.Honest aligned) : (bench.step .sample).Honest aligned := by
  refine ⟨honest.trusted, honest.shift, honest.none, honest.held, fun impossible => ?_,
    fun impossible => ?_, rfl, ?_, fun impossible => ?_, honest.reports.sequence,
    honest.reports.period, ?_, fun impossible => ?_⟩
  · cases impossible
  · cases impossible
  · exact iff_of_false Bool.false_ne_true fun both => Bool.false_ne_true both.2
  · cases impossible
  · exact iff_of_false Bool.false_ne_true fun both => Bool.false_ne_true both.2
  · cases impossible

theorem honest_invariant {met : Nat → Attempt} (sensible : ∀ index, (met index).Sensible) :
    (machine met).Invariant Admits (Honest (ppsCaptureInit met).1.valid) where
  start bench started := by
    obtain ⟨shift, trusted, untimed⟩ := ppsCaptureInit_spec sensible
    rw [started]
    refine ⟨trusted, fun good => shift (trusted.trans good), fun _ => rfl, fun impossible => ?_,
      fun impossible => ?_, fun impossible => ?_, rfl, ?_, fun impossible => ?_, fun _ => rfl,
      fun held => ?_, ?_, fun impossible => ?_⟩
    · cases impossible
    · cases impossible
    · cases impossible
    · exact iff_of_false Bool.false_ne_true fun both => Bool.false_ne_true both.2
    · cases impossible
    · exact absurd (untimed.symm.trans held) Bool.false_ne_true
    · exact iff_of_false Bool.false_ne_true fun both => Bool.false_ne_true both.2
    · cases impossible
  step bench act honest admitted := by
    cases act with
    | edge input cycle =>
        simp only [machine, step]
        split
        · exact honest.edge admitted.1 admitted.2
        · exact honest
    | epoch cycle => exact honest.epoch_ admitted
    | route input => exact honest.route input
    | sample => exact honest.sample_

/-- **The captures are true.** However the attempts to align the cascades go, and in every run
of edges on both inputs, epochs, changes of the input and samples after it: if they could be
aligned, or corrected, an edge is reported in the first sample after it and in no other, its
stamp is its cycle on the epoch's cascade, and the sequence is the number of edges captured; a
period reported is the cycles between the last two edges, both of the input routed since it was,
on 32 bits within a thousandth of nominal; and if not, no edge is reported at all. -/
theorem captures_true {met : Nat → Attempt} (sensible : ∀ index, (met index).Sensible)
    {bench : Bench} (reached : (machine met).Reachable Admits bench) :
    bench.Reports (ppsCaptureInit met).1.valid bench.capture.sample.1 :=
  ((honest_invariant sensible).reachable reached).reports

/-- The reference's cascade stays two cycles ahead, which is corrected; then an edge comes, and
an epoch ten cycles after it. -/
theorem captures_true_ahead :
    let met : Nat → Attempt := fun _ => ⟨2, 5, true, true⟩
    let bench := [BenchAct.edge .gnss 40024000, .epoch 40024010].foldl (machine met).step
      { capture := (ppsCaptureInit met).2
        lead := 2
        edges := []
        epochs := []
        total := 0
        fresh := false
        epochFresh := false }
    bench.Reports true bench.capture.sample.1 ∧ bench.edges = [40024000] := by
  intro met bench
  have valid : (ppsCaptureInit met).1.valid = true := by decide
  have started : (machine met).Reachable Admits
      { capture := (ppsCaptureInit met).2
        lead := 2
        edges := []
        epochs := []
        total := 0
        fresh := false
        epochFresh := false } := .start rfl
  have edge := started.step (BenchAct.edge .gnss 40024000)
    ⟨fun earlier impossible => (by cases impossible), show (0 : Int) < 40024000 + 2 by decide⟩
  have reached : (machine met).Reachable Admits bench :=
    edge.step (BenchAct.epoch 40024010) (show 0 < 40024010 by decide)
  rw [← valid]
  exact ⟨captures_true (fun _ => ⟨by decide, by decide, by decide, by decide⟩) reached, rfl⟩

end Bench

end GpsClock.Timing
