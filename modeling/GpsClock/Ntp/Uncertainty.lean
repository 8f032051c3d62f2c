import GpsClock.Ntp.EspClock

/-! # The ESP clock's uncertainty

The bound reported is assembled from the sample, what is left of the slew and an allowance
since the sample. A slew takes the frequency's error since the sample into account. A step
does not: it sets the sample's offset at the moment of the update, on the ground that the
sample is seconds old. A server newly selected may give one that is minutes old, and the
bound then says nothing of it (`GpsClock.Ntp.EspClock.stale_step_uncovered`). Where every
step's sample is fresh against the frequency the bound holds along every run
(`GpsClock.Ntp.EspClock.uncertainty_honest`).
-/

namespace GpsClock.Ntp.EspClock

/-- A sample's own bound. -/
def sampleBound (sample : EspClockSample) : ℚ :=
  (sample.delayUs : ℚ) / 2 + (sample.rootDelayUs : ℚ) / 2 + sample.rootDispersionUs

/-- UTC, at the local times up to the next update, against a sample and the clock set by
it: the sample within its bound, and from it on a constant rate within the drift allowed. -/
structure Truthful (trueUtc : Int → ℚ) (clock : EspClock) (sample : EspClockSample)
    (before : Int → Prop) : Prop where
  honest : |(sample.localUs + sample.offsetUs : ℚ) - trueUtc sample.localUs| ≤ sampleBound sample
  rate : ∃ rate : ℚ, |rate - (clock.status.frequencyPpb : ℚ) / 1000000000| ≤
      (clock.driftPpm : ℚ) / 1000000 ∧
    ∀ localUs, sample.localUs ≤ localUs → before localUs →
      trueUtc localUs = trueUtc sample.localUs + (localUs - sample.localUs) * (1 + rate)

/-- Before the next update of a run, if there is one. -/
def beforeNext : List Event → Int → Prop
  | [], _ => True
  | .update input :: _, localUs => localUs ≤ input.at
  | .newReference :: later, localUs => beforeNext later localUs

/-- Something true of every update of a run: of the clock before it, its arguments, and
the local times until the next. -/
def Along (holds : EspClock → Update → (Int → Prop) → Prop) : EspClock → List Event → Prop
  | _, [] => True
  | clock, .update input :: later =>
      holds clock input (beforeNext later) ∧ Along holds (clock.update input).2 later
  | clock, .newReference :: later => Along holds clock.newReference later

theorem Along.imp₂ {first second holds : EspClock → Update → (Int → Prop) → Prop}
    (implies : ∀ clock input before, first clock input before → second clock input before →
      holds clock input before) {clock : EspClock} {events : List Event}
    (firsts : Along first clock events) (seconds : Along second clock events) :
    Along holds clock events := by
  induction events generalizing clock with
  | nil => trivial
  | cons event later ih =>
      cases event with
      | update input =>
          exact ⟨implies _ _ _ firsts.1 seconds.1, ih firsts.2 seconds.2⟩
      | newReference => exact ih firsts seconds

/-- UTC agrees with an update. -/
def Agrees (trueUtc : Int → ℚ) (clock : EspClock) (input : Update) (before : Int → Prop) : Prop :=
  Truthful trueUtc (clock.update input).2 input.sample before

/-- The clock is within its bound and five microseconds, until the next update, unless the
bound is saturated. -/
def Covered (trueUtc : Int → ℚ) (clock : EspClock) (input : Update) (before : Int → Prop) : Prop :=
  ∀ localUs, input.at ≤ localUs → before localUs →
    (clock.update input).2.uncertaintyNs localUs < 4294967295 →
      |((clock.update input).2.utcUs localUs : ℚ) - trueUtc localUs| ≤
        ((clock.update input).2.uncertaintyNs localUs : ℚ) / 1000 + 5

/-- Over a step's sample's age the frequency comes to less than four microseconds. -/
def StepFresh (clock : EspClock) (input : Update) (_ : Int → Prop) : Prop :=
  clock.Steps input.sample →
    |(input.at - input.sample.localUs) * clock.status.frequencyPpb| ≤ 3999000000

/-! ## The bound's parts -/

variable {clock : EspClock} {input : Update} {before : Int → Prop} {trueUtc : Int → ℚ}

theorem at_le (input : Update) : input.sample.localUs ≤ input.at := by
  unfold Update.at
  split
  · exact le_refl _
  · next late => exact not_lt.mp late

/-- The bound reported is that of the sample, the slew and the drift, to the nanosecond. -/
theorem uncertaintyNs_le {localUs : Int} (valid : clock.status.valid = true)
    (later : clock.status.lastUpdateLocalUs ≤ localUs)
    (unsaturated : clock.uncertaintyNs localUs < 4294967295) :
    sampleBound clock.status.last + |(clock.status.slewUs : ℚ) - clock.slewed localUs| +
        (localUs - clock.status.lastUpdateLocalUs) * (clock.driftPpm : ℚ) / 1000000 ≤
      (clock.uncertaintyNs localUs : ℚ) / 1000 + 1 / 1000 := by
  have age : max (localUs - clock.status.lastUpdateLocalUs) 0 =
      localUs - clock.status.lastUpdateLocalUs := max_eq_left (Int.sub_nonneg.mpr later)
  have set : ¬(!clock.status.valid) = true := Bool.not_eq_true _ ▸ congrArg (!·) valid
  have drift := (abs_lt.mp (Truncation.near
    ((localUs - clock.status.lastUpdateLocalUs) * clock.driftPpm) (show 0 < 1000 by norm_num))).1
  have delay := le_abs_self (clock.status.last.delayUs : ℚ)
  unfold uncertaintyNs at unsaturated ⊢
  dsimp only at unsaturated ⊢
  rw [if_neg set, age, magnitude_eq, magnitude_eq] at unsaturated ⊢
  split at unsaturated
  · exact absurd unsaturated (lt_irrefl _)
  · next within =>
      rw [if_neg within, sampleBound]
      push_cast at drift ⊢
      linarith

/-- What an update notes, whichever way it goes. -/
theorem update_notes (clock : EspClock) (input : Update) :
    (clock.update input).2.status.valid = true ∧
      (clock.update input).2.status.last = input.sample ∧
      (clock.update input).2.status.lastUpdateLocalUs = input.sample.localUs := by
  rcases clock.update_cases input with ⟨_, error, steps⟩ | ⟨_, valid, slew⟩
  · rw [steps]
    exact ⟨rfl, rfl, rfl⟩
  · rw [slew]
    cases estimate : input.estimate with
    | none => exact ⟨valid, rfl, rfl⟩
    | some found => exact ⟨valid, rfl, rfl⟩

/-- A truthful sample carried forward strays from UTC by its bound and the drift. -/
theorem carried_truthful {sample : EspClockSample} (truthful : Truthful trueUtc clock sample before)
    {localUs : Int} (later : sample.localUs ≤ localUs) (within : before localUs) :
    |carried sample clock.status.frequencyPpb localUs - trueUtc localUs| ≤
      sampleBound sample + (localUs - sample.localUs) * (clock.driftPpm : ℚ) / 1000000 := by
  obtain ⟨rate, allowed, runs⟩ := truthful.rate
  have honest := truthful.honest
  have age : (0 : ℚ) ≤ localUs - sample.localUs := by
    have := Int.sub_nonneg.mpr later
    exact_mod_cast this
  have drifts := mul_le_mul_of_nonneg_left (abs_le.mp allowed).2 age
  have lags := mul_le_mul_of_nonneg_left (abs_le.mp allowed).1 age
  rw [abs_le] at honest
  rw [runs localUs later within, carried, abs_le]
  constructor <;> linarith

/-- After a step the clock reads the sample carried forward, less its frequency over the
sample's age. -/
theorem step_carries (clock : EspClock) (input : Update) (error localUs : Int) :
    |((((clock.judged input.sample error).step input.sample input.at).utcUs localUs : Int) : ℚ) -
        carried input.sample clock.status.frequencyPpb localUs| <
      |((input.at - input.sample.localUs) * clock.status.frequencyPpb : Int)| / 1000000000 + 1 := by
  have running := abs_lt.mp (Truncation.near
    ((localUs - input.at) * clock.status.frequencyPpb) (show 0 < 1000000000 by norm_num))
  have above := le_abs_self
    (((input.at - input.sample.localUs) * clock.status.frequencyPpb : Int) : ℚ)
  have below := neg_abs_le
    (((input.at - input.sample.localUs) * clock.status.frequencyPpb : Int) : ℚ)
  have reads : ((clock.judged input.sample error).step input.sample input.at).utcUs localUs =
      input.at + input.sample.offsetUs + (localUs - input.at) +
        ((localUs - input.at) * clock.status.frequencyPpb).tdiv 1000000000 := by
    rw [utcUs, slewed_of_none rfl]
    exact Int.add_zero _
  rw [reads, carried, abs_lt]
  push_cast at running above below ⊢
  constructor <;> linarith

/-- One update covers its interval, unless it steps to a stale sample. -/
theorem update_covered (agrees : Agrees trueUtc clock input before)
    (fresh : StepFresh clock input before) : Covered trueUtc clock input before := by
  intro localUs after within unsaturated
  obtain ⟨valid, last, updated⟩ := update_notes clock input
  have later := (at_le input).trans after
  have bound := uncertaintyNs_le valid (updated ▸ later) unsaturated
  have truth := carried_truthful agrees later within
  rw [last, updated] at bound
  rw [abs_le] at truth ⊢
  rcases clock.update_cases input with ⟨steps, error, stepped⟩ | ⟨_, _, slew⟩
  · have stray : ((|(input.at - input.sample.localUs) * clock.status.frequencyPpb| : Int) : ℚ) ≤
        3999000000 := by exact_mod_cast fresh steps
    have carries := abs_lt.mp (clock.step_carries input error localUs)
    have some := abs_nonneg (((clock.update input).2.status.slewUs : ℚ) -
      (clock.update input).2.slewed localUs)
    have frequency : (clock.update input).2.status.frequencyPpb = clock.status.frequencyPpb := by
      rw [stepped]
      rfl
    have reads : (clock.update input).2.utcUs localUs =
        ((clock.judged input.sample error).step input.sample input.at).utcUs localUs := by
      rw [stepped]
    rw [frequency] at truth
    rw [reads]
    constructor <;> linarith
  · have slews : (clock.update input).1 ≠ .stepped := by
      rw [slew]
      exact slew_not_stepped
    have carries := abs_lt.mp (update_carries slews localUs)
    have above := le_abs_self (((clock.update input).2.status.slewUs : ℚ) -
      (clock.update input).2.slewed localUs)
    have below := neg_abs_le (((clock.update input).2.status.slewUs : ℚ) -
      (clock.update input).2.slewed localUs)
    constructor <;> linarith

/-- **The bound is honest** along every run in which no step goes by a stale sample. -/
theorem uncertainty_honest (trueUtc : Int → ℚ) (events : List Event)
    (agrees : Along (Agrees trueUtc) {} events) (fresh : Along StepFresh {} events) :
    Along (Covered trueUtc) {} events :=
  agrees.imp₂ (fun _ _ _ => update_covered) fresh

/-! ## A stale step -/

/-- A sample that is exact, or out by its dispersion, where local time loses 40 ppm. -/
def slowSample (seconds : Int) (dispersionUs : Nat) : EspClockSample where
  localUs := seconds * 1000000
  offsetUs := seconds * 40 - dispersionUs
  rootDispersionUs := dispersionUs

def slowUtc (localUs : Int) : ℚ :=
  localUs * (1 + 40 / 1000000)

/-- The crystal's frequency learnt from three samples. -/
def learningRun : List Event :=
  [.update ⟨slowSample 0 0, 0, 0, none⟩,
    .update ⟨slowSample 200 0, 200000000, 0, some (40000, 2)⟩,
    .update ⟨slowSample 400 0, 400000000, 0, some (40000, 3)⟩]

/-- A server 200 ms out that says so, its sample ten minutes old when it is selected. -/
def staleUpdate : Update :=
  ⟨slowSample 1000 200000, 1600000000, 0, none⟩

theorem slow_truthful (clock : EspClock) (seconds : Int) (dispersionUs : Nat)
    (before : Int → Prop)
    (rate : |(40 / 1000000 : ℚ) - (clock.status.frequencyPpb : ℚ) / 1000000000| ≤
      (clock.driftPpm : ℚ) / 1000000) :
    Truthful slowUtc clock (slowSample seconds dispersionUs) before where
  honest := by
    have out : ((slowSample seconds dispersionUs).localUs +
        (slowSample seconds dispersionUs).offsetUs : ℚ) -
          slowUtc (slowSample seconds dispersionUs).localUs = -dispersionUs := by
      simp only [slowSample, slowUtc]
      push_cast
      ring
    rw [out, abs_neg, abs_of_nonneg (Nat.cast_nonneg _), sampleBound]
    simp only [slowSample]
    push_cast
    linarith
  rate := ⟨40 / 1000000, rate, fun localUs _ _ => by
    rw [slowUtc, slowUtc]
    ring⟩

/-- Where the frequency in force is the true one, or none is known yet. -/
theorem slow_rate {clock : EspClock} {ppb ppm : Int} (runs : clock.status.frequencyPpb = ppb)
    (drifts : clock.driftPpm = ppm)
    (near : |(40 / 1000000 : ℚ) - (ppb : ℚ) / 1000000000| ≤ (ppm : ℚ) / 1000000) :
    |(40 / 1000000 : ℚ) - (clock.status.frequencyPpb : ℚ) / 1000000000| ≤
      (clock.driftPpm : ℚ) / 1000000 := by
  rw [runs, drifts]
  exact near

/-- A crystal that loses as it always did, its frequency known. -/
theorem known_rate (ppm : Int) (some : 0 ≤ ppm) :
    |(40 / 1000000 : ℚ) - ((40000 : Int) : ℚ) / 1000000000| ≤ (ppm : ℚ) / 1000000 := by
  have allowed : (0 : ℚ) ≤ ppm := by exact_mod_cast some
  norm_num
  positivity

theorem unknown_rate :
    |(40 / 1000000 : ℚ) - ((0 : Int) : ℚ) / 1000000000| ≤ ((50 : Int) : ℚ) / 1000000 := by
  norm_num

theorem staleRun_agrees :
    Along (Agrees slowUtc) {} (learningRun ++ [.newReference, .update staleUpdate]) := by
  exact ⟨slow_truthful _ _ _ _ (slow_rate (by decide) (by decide) unknown_rate),
    slow_truthful _ _ _ _ (slow_rate (by decide) (by decide) (known_rate 5 (by decide))),
    slow_truthful _ _ _ _ (slow_rate (by decide) (by decide) (known_rate 2 (by decide))),
    slow_truthful _ _ _ _ (slow_rate (by decide) (by decide) (known_rate 2 (by decide))), trivial⟩

/-- `usable`: as old as the longest poll interval lets a sample be. -/
def Usable (maxIntervalS : Nat) (_ : EspClock) (input : Update) (_ : Int → Prop) : Prop :=
  input.at - input.sample.localUs ≤ (2 * maxIntervalS + 300) * 1000000

/-- **A stale step.** At the default interval, with every sample within its bound and UTC
at the frequency in force: the step takes a sample of 600 seconds ago as it was, and the
clock is 24 ms further out than the bound allows for. -/
theorem stale_step_uncovered :
    ¬∀ (trueUtc : Int → ℚ) (events : List Event), Along (Agrees trueUtc) {} events →
      Along (Usable 512) {} events → Along (Covered trueUtc) {} events := by
  intro claimed
  have usable : Along (Usable 512) {} (learningRun ++ [.newReference, .update staleUpdate]) :=
    ⟨show (0 : Int) ≤ 1324000000 by decide, show (0 : Int) ≤ 1324000000 by decide,
      show (0 : Int) ≤ 1324000000 by decide, show (600000000 : Int) ≤ 1324000000 by decide, trivial⟩
  have covered := (claimed slowUtc _ staleRun_agrees usable).2.2.2.1 1600000000 (by decide) trivial
    (by decide)
  have bound : (((learningRun.foldl machine.step {}).newReference.update
      staleUpdate).2.uncertaintyNs 1600000000) = 201200000 := by decide
  have reads : (((learningRun.foldl machine.step {}).newReference.update
      staleUpdate).2.utcUs 1600000000) = 1599840000 := by decide
  change |(((((learningRun.foldl machine.step {}).newReference.update
      staleUpdate).2.utcUs 1600000000 : Int) : ℚ)) - slowUtc 1600000000| ≤
    ((((learningRun.foldl machine.step {}).newReference.update
      staleUpdate).2.uncertaintyNs 1600000000 : Int) : ℚ) / 1000 + 5 at covered
  rw [bound, reads, slowUtc] at covered
  norm_num at covered

/-- Learning the frequency from fresh samples is covered. -/
theorem learningRun_covered : Along (Covered slowUtc) {} learningRun :=
  uncertainty_honest slowUtc learningRun
    ⟨slow_truthful _ _ _ _ (slow_rate (by decide) (by decide) unknown_rate),
      slow_truthful _ _ _ _ (slow_rate (by decide) (by decide) (known_rate 5 (by decide))),
      slow_truthful _ _ _ _ (slow_rate (by decide) (by decide) (known_rate 2 (by decide))), trivial⟩
    ⟨fun _ => by decide, fun _ => by decide, fun _ => by decide, trivial⟩

end GpsClock.Ntp.EspClock
