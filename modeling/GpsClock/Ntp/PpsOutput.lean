import GpsClock.Ntp.Inverse

/-! # The ESP's second output

`pps.cpp`: a pulse a tenth of a second long whose rising edge is the ESP's second. The
output runs itself from its timer's alarm. At each falling edge the next rise is armed where
the loop planned it, or else a second after the last, corrected for the frequency, and
either is put off by whole seconds while it is too close
(`GpsClock.Ntp.PpsOutput.nextRise_planned`, `GpsClock.Ntp.PpsOutput.nextRise_extrapolated`).

Timer counts and local times are in microseconds of one crystal, a fixed offset apart; 64
bits of either last for longer than any run.
-/

namespace GpsClock.Ntp

/-- `PPS_PULSE_US`. -/
abbrev ppsPulseUs : Int := 100000

/-- `SECOND_US`. -/
abbrev secondUs : Int := 1000000

/-- `MIN_LEAD_US`. -/
abbrev minLeadUs : Int := 2000

structure PpsEdge where
  localUs : Int
  sequence : BitVec 32
  deriving DecidableEq, Repr

structure EdgeSlot where
  localUs : Int := 0
  sequence : BitVec 32 := 0
  taken : BitVec 32 := 0
  deriving DecidableEq, Repr

namespace EdgeSlot

/-- `record`. -/
def record (slot : EdgeSlot) (localUs : Int) : EdgeSlot :=
  { slot with localUs := localUs, sequence := slot.sequence + 1 }

/-- `take`. -/
def take (slot : EdgeSlot) (onlyNew : Bool) : Option PpsEdge × EdgeSlot :=
  let edge : PpsEdge := ⟨slot.localUs, slot.sequence⟩
  if edge.sequence = 0 then (none, slot)
  else if onlyNew then
    if edge.sequence = slot.taken then (none, slot)
    else (some edge, { slot with taken := edge.sequence })
  else (some edge, slot)

/-- A new edge is taken once, and only once there has been one. -/
theorem take_new (slot : EdgeSlot) :
    slot.take true = (none, slot) ∨ slot.sequence ≠ 0 ∧
      slot.take true = (some ⟨slot.localUs, slot.sequence⟩, { slot with taken := slot.sequence }) := by
  unfold take
  dsimp only
  split
  · exact .inl rfl
  · next some =>
      rw [if_pos rfl]
      split
      · exact .inl rfl
      · exact .inr ⟨some, rfl⟩

end EdgeSlot

structure PpsOutputStats where
  planned : BitVec 32 := 0
  extrapolated : BitVec 32 := 0
  latePlans : BitVec 32 := 0
  latencyUs : BitVec 32 := 0
  latencyMaxUs : BitVec 32 := 0
  deriving DecidableEq, Repr

/-- The output's statics, the alarm set, and the slot of its edges. -/
structure PpsOutput where
  countOffsetUs : Int := 0
  running : Bool := false
  high : Bool := false
  lastRiseCount : Int := 0
  planFresh : Bool := false
  planRiseCount : Int := 0
  periodAdjustQ16 : Int := 0
  adjustRemainderQ16 : Int := 0
  alarm : Option Int := none
  outputEdge : EdgeSlot := {}
  outputStats : PpsOutputStats := {}
  deriving DecidableEq, Repr

namespace PpsOutput

/-- A rise put off by whole seconds while it is too close, and by how many. -/
def putOff (rise nowCount : Int) : Int × Nat :=
  if rise < nowCount + minLeadUs then
    let (later, seconds) := putOff (rise + secondUs) nowCount
    (later, seconds + 1)
  else (rise, 0)
termination_by (nowCount + minLeadUs - rise).toNat

/-- `next_rise`. -/
def nextRise (output : PpsOutput) (nowCount : Int) : Int × PpsOutput :=
  let (rise, output) :=
    if output.planFresh then
      (output.planRiseCount,
        { output with
          planFresh := false
          outputStats :=
            { output.outputStats with planned := output.outputStats.planned + 1 } })
    else
      let remainder := output.adjustRemainderQ16 + output.periodAdjustQ16
      let whole := remainder / 65536
      (output.lastRiseCount + secondUs + whole,
        { output with
          adjustRemainderQ16 := remainder - whole * 65536
          outputStats :=
            { output.outputStats with extrapolated := output.outputStats.extrapolated + 1 } })
  let (rise, late) := putOff rise nowCount
  (rise,
    { output with
      outputStats :=
        { output.outputStats with
          latePlans := output.outputStats.latePlans + BitVec.ofNat 32 late } })

/-- `on_alarm`, a rising edge. -/
def rises (output : PpsOutput) (alarmValue nowUs : Int) : PpsOutput :=
  let latency := BitVec.ofInt 32 (nowUs - alarmValue - output.countOffsetUs)
  { output with
    outputEdge := output.outputEdge.record nowUs
    high := true
    lastRiseCount := alarmValue
    outputStats :=
      { output.outputStats with
        latencyUs := latency
        latencyMaxUs :=
          if output.outputStats.latencyMaxUs.slt latency then latency
          else output.outputStats.latencyMaxUs }
    alarm := some (alarmValue + ppsPulseUs) }

/-- `on_alarm`, a falling edge. -/
def falls (output : PpsOutput) (countValue : Int) : PpsOutput :=
  let (rise, output) := { output with high := false }.nextRise countValue
  { output with alarm := some rise }

/-- `on_alarm`. -/
def onAlarm (output : PpsOutput) (alarmValue countValue nowUs : Int) : PpsOutput :=
  if !output.high then output.rises alarmValue nowUs else output.falls countValue

/-- `pps_output_plan`. -/
def plan (output : PpsOutput) (nextRiseLocalUs adjustQ16 : Int) : PpsOutput :=
  { output with
    planRiseCount := nextRiseLocalUs - output.countOffsetUs
    planFresh := true
    periodAdjustQ16 := adjustQ16 }

/-- `pps_output_start`. -/
def start (output : PpsOutput) (firstRiseLocalUs adjustQ16 nowCount : Int) : PpsOutput :=
  if output.running then output.plan firstRiseLocalUs adjustQ16
  else
    { output with
      periodAdjustQ16 := adjustQ16
      adjustRemainderQ16 := 0
      planFresh := false
      high := false
      running := true
      alarm := some (putOff (firstRiseLocalUs - output.countOffsetUs) nowCount).1 }

/-- `pps_output_take`. -/
def takeEdge (output : PpsOutput) : Option PpsEdge × PpsOutput :=
  let (edge, slot) := output.outputEdge.take true
  (edge, { output with outputEdge := slot })

/-- It is put off by no more seconds than it takes. -/
theorem putOff_spec (rise nowCount : Int) :
    (putOff rise nowCount).1 = rise + (putOff rise nowCount).2 * secondUs ∧
      nowCount + minLeadUs ≤ (putOff rise nowCount).1 ∧
      ((putOff rise nowCount).2 = 0 ∨
        (putOff rise nowCount).1 < nowCount + minLeadUs + secondUs) := by
  induction rise using putOff.induct nowCount with
  | case1 rise close later seconds next ih =>
      rw [putOff, if_pos close, next]
      rw [next] at ih
      dsimp only at ih ⊢
      obtain ⟨sum, lead, least⟩ := ih
      push_cast
      refine ⟨by rw [sum]; ring, lead, .inr ?_⟩
      rcases least with none | least
      · rw [sum, none]
        dsimp only [secondUs] at *
        omega
      · exact least
  | case2 rise far =>
      rw [putOff, if_neg far]
      dsimp only
      exact ⟨by simp, by omega, .inl rfl⟩

/-- A rise far enough off stays. -/
theorem putOff_of_lead {rise nowCount : Int} (lead : nowCount + minLeadUs ≤ rise) :
    (putOff rise nowCount).1 = rise := by
  rw [putOff, if_neg (by omega)]

/-- What an output keeps at a falling edge whichever way the next rise is found. -/
structure Fell (output next : PpsOutput) : Prop where
  countOffsetUs : next.countOffsetUs = output.countOffsetUs
  high : next.high = false
  lastRiseCount : next.lastRiseCount = output.lastRiseCount
  planFresh : next.planFresh = false
  periodAdjustQ16 : next.periodAdjustQ16 = output.periodAdjustQ16
  outputEdge : next.outputEdge = output.outputEdge

variable {output : PpsOutput}

/-- A fresh plan is used, and used up. -/
theorem nextRise_planned (fresh : output.planFresh = true) (countValue : Int) :
    output.Fell (output.falls countValue) ∧
      (output.falls countValue).alarm = some (putOff output.planRiseCount countValue).1 ∧
      (output.falls countValue).adjustRemainderQ16 = output.adjustRemainderQ16 := by
  unfold falls nextRise
  rw [if_pos fresh]
  exact ⟨⟨rfl, rfl, rfl, rfl, rfl, rfl⟩, rfl, rfl⟩

/-- Without one the output runs on from its last rise, and carries what is left of the
adjustment. -/
theorem nextRise_extrapolated (stale : output.planFresh = false) (countValue : Int) :
    output.Fell (output.falls countValue) ∧
      (output.falls countValue).alarm = some (putOff (output.lastRiseCount + secondUs +
        (output.adjustRemainderQ16 + output.periodAdjustQ16) / 65536) countValue).1 ∧
      (output.falls countValue).adjustRemainderQ16 =
        (output.adjustRemainderQ16 + output.periodAdjustQ16) % 65536 := by
  have unplanned : ¬({ output with high := false } : PpsOutput).planFresh = true := by
    rw [stale]
    exact Bool.false_ne_true
  unfold falls nextRise
  rw [if_neg unplanned]
  refine ⟨⟨rfl, rfl, rfl, stale, rfl, rfl⟩, rfl, ?_⟩
  dsimp only
  rw [Int.emod_def, Int.mul_comm]

end PpsOutput

namespace EspClock

/-- `esp_clock_period_adjust_q16`. -/
def periodAdjustQ16 (clock : EspClock) : Int :=
  (-clock.status.frequencyPpb * 65536).tdiv 1000

variable {clock : EspClock}

/-- A second is adjusted by no more than the frequency's limit. -/
theorem Paced.periodAdjust (paced : clock.Paced) :
    -32768000 ≤ clock.periodAdjustQ16 ∧ clock.periodAdjustQ16 ≤ 32768000 := by
  have limit : -500000 ≤ clock.status.frequencyPpb ∧ clock.status.frequencyPpb ≤ 500000 :=
    abs_le.mp paced.frequency
  have low := Int.tdiv_le_tdiv (show (0 : Int) < 1000 by norm_num)
    (show -32768000000 ≤ -clock.status.frequencyPpb * 65536 by omega)
  have high := Int.tdiv_le_tdiv (show (0 : Int) < 1000 by norm_num)
    (show -clock.status.frequencyPpb * 65536 ≤ 32768000000 by omega)
  exact ⟨low, high⟩

/-- What a clock reads beyond the local timer. -/
def aheadUs (clock : EspClock) (localUs : Int) : Int :=
  clock.utcUs localUs - localUs

theorem utcUs_eq (clock : EspClock) (localUs : Int) :
    clock.utcUs localUs = localUs + clock.aheadUs localUs := by
  rw [aheadUs]
  ring

/-- A millionfold, the reading drifts from the timer by the rates and its two divisions. -/
theorem Paced.drift (paced : clock.Paced) {first second : Int} (later : first ≤ second) :
    -(600 * (second - first) + 2000000) ≤
        1000000 * (clock.aheadUs second - clock.aheadUs first) ∧
      1000000 * (clock.aheadUs second - clock.aheadUs first) ≤
        600 * (second - first) + 2000000 := by
  have moved := paced.apart second first
  have order : (first : ℚ) ≤ second := by exact_mod_cast later
  rw [abs_of_nonneg (sub_nonneg.mpr order), abs_lt] at moved
  have low : -(600 * ((second : ℚ) - first) + 2000000) ≤
      1000000 * (((clock.utcUs second : ℚ) - second) - (clock.utcUs first - first)) := by
    linarith [moved.1]
  have high : 1000000 * (((clock.utcUs second : ℚ) - second) - (clock.utcUs first - first)) ≤
      600 * ((second : ℚ) - first) + 2000000 := by
    linarith [moved.2]
  exact ⟨by exact_mod_cast low, by exact_mod_cast high⟩

/-- From its anchor a clock that has been updated runs without its divisions' error: both
leave out what would take it further. -/
theorem Paced.from_anchor (paced : clock.Paced) (anchored : clock.Anchored) {localUs : Int}
    (later : clock.anchorLocalUs ≤ localUs) :
    -(600 * (localUs - clock.anchorLocalUs)) ≤
        1000000 * (clock.aheadUs localUs - clock.aheadUs clock.anchorLocalUs) ∧
      1000000 * (clock.aheadUs localUs - clock.aheadUs clock.anchorLocalUs) ≤
        600 * (localUs - clock.anchorLocalUs) := by
  have reads := anchored.reads
  generalize elapsed : localUs - clock.anchorLocalUs = span at *
  have forward : 0 ≤ span := by omega
  have runs : |(span * clock.status.frequencyPpb).tdiv 1000000000| * 1000000 ≤ 500 * span := by
    refine Truncation.abs_tdiv_le (by norm_num) (by norm_num) ?_
    have most := mul_le_mul_of_nonneg_left paced.frequency forward
    rw [abs_mul, abs_of_nonneg forward]
    dsimp only [espClockFrequencyMaxPpb] at most
    omega
  have slews : |clock.slewed localUs| * 1000000 ≤ 100 * span := by
    rcases paced.slew with none | slewing
    · rw [slewed_of_none none, abs_zero]
      omega
    · rcases anchored with still | begins
      · rw [slewed_of_none still, abs_zero]
        omega
      · have rate : |clock.status.slewUs| * 1000000 ≤ 100 * clock.slewDurationUs := by
          have faster : slewPpm clock.status.fast ≤ 100 := by
            cases clock.status.fast <;> decide
          exact slewing.rate.trans (mul_le_mul_of_nonneg_right faster slewing.positive.le)
        have within : 0 ≤ clock.progress localUs ∧ clock.progress localUs ≤ span := by
          have positive := slewing.positive
          unfold progress
          rw [begins]
          omega
        rw [slewed_eq slewing.positive]
        refine Truncation.abs_tdiv_le slewing.positive (by norm_num) ?_
        rw [abs_mul, abs_of_nonneg within.1]
        calc
          _ = |clock.status.slewUs| * 1000000 * clock.progress localUs := by ring
          _ ≤ 100 * clock.slewDurationUs * span :=
            mul_le_mul rate within.2 within.1 (mul_nonneg (by norm_num) slewing.positive.le)
          _ = 100 * span * clock.slewDurationUs := by ring
  have now : clock.utcUs localUs = clock.anchorUtcUs + span +
      (span * clock.status.frequencyPpb).tdiv 1000000000 + clock.slewed localUs := by
    rw [utcUs, elapsed]
  rw [Int.abs_eq_natAbs] at runs slews
  rw [aheadUs, aheadUs, reads, now]
  omega

/-- Three passes find a local time from a guess this far off. -/
theorem Paced.localUs_near (paced : clock.Paced) (anchored : clock.Anchored) {soughtUs : Int}
    (near : |soughtUs - clock.anchorUtcUs| ≤ 10 ^ 12) :
    soughtUs - 2 ≤ clock.utcUs (clock.localUs soughtUs) ∧
      clock.utcUs (clock.localUs soughtUs) ≤ soughtUs + 2 := by
  have reads := anchored.reads
  generalize guess : clock.anchorLocalUs + (soughtUs - clock.anchorUtcUs) = guessUs
  have missed : |(clock.missUs soughtUs guessUs : ℚ)| < 600 / 1000000 * 10 ^ 12 + 2 := by
    have moved := paced.apart guessUs clock.anchorLocalUs
    have far : |(soughtUs : ℚ) - clock.anchorUtcUs| ≤ 10 ^ 12 := by exact_mod_cast near
    rw [reads, ← guess] at moved
    rw [missUs, ← guess]
    push_cast at moved ⊢
    rw [show (clock.anchorLocalUs : ℚ) + (soughtUs - clock.anchorUtcUs) - clock.anchorLocalUs =
      soughtUs - clock.anchorUtcUs by ring] at moved
    refine lt_of_eq_of_lt (congrArg abs (by ring)) (moved.trans_le ?_)
    linarith
  have first := paced.newtonPass soughtUs guessUs
  have second := paced.newtonPass soughtUs (clock.newtonPass soughtUs guessUs)
  have third := paced.newtonPass soughtUs
    (clock.newtonPass soughtUs (clock.newtonPass soughtUs guessUs))
  have found : clock.localUs soughtUs = clock.newtonPass soughtUs
      (clock.newtonPass soughtUs (clock.newtonPass soughtUs guessUs)) := by
    rw [← guess]
    rfl
  have left : |(clock.missUs soughtUs (clock.localUs soughtUs) : ℚ)| < 3 := by
    rw [found]
    norm_num at missed
    linarith
  have whole : |clock.missUs soughtUs (clock.localUs soughtUs)| < 3 := by exact_mod_cast left
  rw [missUs, abs_lt] at whole
  omega

end EspClock

end GpsClock.Ntp
