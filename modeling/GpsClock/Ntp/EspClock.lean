import GpsClock.Lib.Machine
import GpsClock.Lib.Truncation

/-! # The ESP's clock

`esp_clock.cpp`: UTC modelled against the local microsecond timer, a line with a
frequency and a correction being slewed in. An update anchors the line anew where it
stands, so that unless it steps the clock reads on without a jump; between updates it runs
at its frequency and the slew's rate; and what it reads once the slew has ended is the
sample's time carried forward (`GpsClock.Ntp.EspClock.update_uniform`).

What `estimate_frequency` finds in an update is given to it.
-/

namespace GpsClock.Ntp

/-- `ESP_CLOCK_STEP_US`. -/
abbrev espClockStepUs : Int := 128000

/-- `ESP_CLOCK_GENTLE_US`. -/
abbrev espClockGentleUs : Int := 8000

/-- `ESP_CLOCK_GENTLE_PPM`. -/
abbrev espClockGentlePpm : Int := 5

/-- `ESP_CLOCK_FAST_SLEW_PPM`. -/
abbrev espClockFastSlewPpm : Int := 100

/-- `ESP_CLOCK_WINDOW`. -/
abbrev espClockWindow : Nat := 8

/-- `ESP_CLOCK_FREQUENCY_MAX_PPB`. -/
abbrev espClockFrequencyMaxPpb : Int := 500000

/-- `STEP_CORRECTING_US`. -/
abbrev stepCorrectingUs : Int := 2000000

structure EspClockSample where
  localUs : Int := 0
  offsetUs : Int := 0
  delayUs : Int := 0
  rootDelayUs : Nat := 0
  rootDispersionUs : Nat := 0
  stratum : BitVec 8 := 0
  deriving DecidableEq, Repr

structure RawSample where
  localUs : Int := 0
  offsetUs : Int := 0
  delayUs : Int := 0
  deriving DecidableEq, Repr

inductive EspClockAction
  | stepped
  | slewed
  | slewedFast
  deriving DecidableEq, Repr

structure EspClockStatus where
  valid : Bool := false
  updates : BitVec 32 := 0
  steps : BitVec 32 := 0
  fastSlews : BitVec 32 := 0
  frequencySamples : BitVec 32 := 0
  frequencyUsed : Nat := 0
  frequencyPpb : Int := 0
  lastUpdateLocalUs : Int := 0
  lastErrorUs : Int := 0
  slewUs : Int := 0
  slewEndUs : Int := 0
  fast : Bool := false
  last : EspClockSample := {}
  deriving DecidableEq, Repr

structure EspClock where
  anchorLocalUs : Int := 0
  anchorUtcUs : Int := 0
  slewStartUs : Int := 0
  slewDurationUs : Int := 0
  stepLocalUs : Int := 0
  window : List RawSample := List.replicate espClockWindow {}
  windowCount : Nat := 0
  windowNext : Nat := 0
  status : EspClockStatus := {}
  deriving DecidableEq, Repr

def magnitude (value : Int) : Int :=
  if value < 0 then -value else value

namespace EspClock

/-- `slewed`: the part of the slew applied by a local time. -/
def slewed (clock : EspClock) (localUs : Int) : Int :=
  let elapsed := localUs - clock.slewStartUs
  let slew := clock.status.slewUs
  if slew = 0 ∨ elapsed ≤ 0 then 0
  else if clock.slewDurationUs ≤ elapsed then slew
  else (slew * elapsed).tdiv clock.slewDurationUs

/-- `esp_clock_utc_us`. -/
def utcUs (clock : EspClock) (localUs : Int) : Int :=
  let elapsed := localUs - clock.anchorLocalUs
  clock.anchorUtcUs + elapsed + (elapsed * clock.status.frequencyPpb).tdiv 1000000000 +
    clock.slewed localUs

def remember (clock : EspClock) (sample : EspClockSample) : EspClock :=
  { clock with
    window := clock.window.set clock.windowNext ⟨sample.localUs, sample.offsetUs, sample.delayUs⟩
    windowNext := (clock.windowNext + 1) % espClockWindow
    windowCount :=
      if clock.windowCount < espClockWindow then clock.windowCount + 1 else clock.windowCount }

/-- `step`. -/
def step (clock : EspClock) (sample : EspClockSample) (nowUs : Int) : EspClock :=
  { clock with
    anchorLocalUs := nowUs
    anchorUtcUs := nowUs + sample.offsetUs
    stepLocalUs := nowUs
    status :=
      { clock.status with
        slewUs := 0
        slewEndUs := nowUs
        fast := false
        valid := true
        steps := clock.status.steps + 1 } }

/-- The frequency an estimate gives, if one was made: clamped, and counted. -/
def estimated (clock : EspClock) (estimate : Option (Int × Nat)) : Int × EspClockStatus :=
  match estimate with
  | none => (clock.status.frequencyPpb, clock.status)
  | some (ppb, used) =>
      (if espClockFrequencyMaxPpb < ppb then espClockFrequencyMaxPpb
        else if ppb < -espClockFrequencyMaxPpb then -espClockFrequencyMaxPpb
        else ppb,
        { clock.status with
          frequencySamples := clock.status.frequencySamples + 1
          frequencyUsed := used })

/-- How long a correction takes. -/
def slewDuration (correction timeConstantUs : Int) : Int :=
  let duration :=
    if espClockGentleUs < magnitude correction then
      magnitude correction * (1000000 / espClockFastSlewPpm)
    else max (magnitude correction * (1000000 / espClockGentlePpm)) timeConstantUs
  max duration 1000000

/-- `esp_clock_update`, from the moment it decides not to step. -/
def slew (clock : EspClock) (sample : EspClockSample) (nowUs timeConstantUs error : Int)
    (estimate : Option (Int × Nat)) : EspClockAction × EspClock :=
  let (newPpb, status) := clock.estimated estimate
  let correction := error - (clock.slewed nowUs - clock.slewed sample.localUs) +
    ((nowUs - sample.localUs) * (newPpb - clock.status.frequencyPpb)).tdiv 1000000000
  let fast := decide (espClockGentleUs < magnitude correction)
  let duration := slewDuration correction timeConstantUs
  (if fast then .slewedFast else .slewed,
    { clock with
      anchorLocalUs := nowUs
      anchorUtcUs := clock.utcUs nowUs
      slewStartUs := nowUs
      slewDurationUs := duration
      status :=
        { status with
          frequencyPpb := newPpb
          slewUs := correction
          fast := fast
          fastSlews := if fast then status.fastSlews + 1 else status.fastSlews
          slewEndUs := nowUs + duration } })

/-- What `esp_clock_update` notes of the sample before it judges it. -/
def noted (clock : EspClock) (sample : EspClockSample) : EspClock :=
  { clock with
    status :=
      { clock.status with
        updates := clock.status.updates + 1
        last := sample
        lastUpdateLocalUs := sample.localUs } }.remember sample

/-- An update's arguments, and what `estimate_frequency` finds in it. -/
structure Update where
  sample : EspClockSample
  nowUs : Int
  timeConstantUs : Int
  estimate : Option (Int × Nat)
  deriving DecidableEq, Repr

/-- The moment an update takes effect. -/
def Update.at (input : Update) : Int :=
  if input.nowUs < input.sample.localUs then input.sample.localUs else input.nowUs

/-- The sample against the model. -/
def errorOf (clock : EspClock) (sample : EspClockSample) : Int :=
  sample.localUs + sample.offsetUs - clock.utcUs sample.localUs

/-- `esp_clock_update`. -/
def update (clock : EspClock) (input : Update) : EspClockAction × EspClock :=
  let clock := clock.noted input.sample
  let nowUs := input.at
  if !clock.status.valid then
    (.stepped,
      { clock with status := { clock.status with lastErrorUs := 0 } }.step input.sample nowUs)
  else
    let error := clock.errorOf input.sample
    let clock := { clock with status := { clock.status with lastErrorUs := error } }
    if espClockStepUs < magnitude error then (.stepped, clock.step input.sample nowUs)
    else clock.slew input.sample nowUs input.timeConstantUs error input.estimate

/-- `esp_clock_drift_ppm`. -/
def driftPpm (clock : EspClock) : Int :=
  if 2 ≤ clock.status.frequencySamples then 2
  else if clock.status.frequencySamples = 1 then 5
  else 50

/-- `esp_clock_new_reference`. -/
def newReference (clock : EspClock) : EspClock :=
  { clock with windowCount := 0, windowNext := 0 }

/-- `esp_clock_uncertainty_ns`. -/
def uncertaintyNs (clock : EspClock) (localUs : Int) : Int :=
  let age := max (localUs - clock.status.lastUpdateLocalUs) 0
  let ns := magnitude clock.status.last.delayUs * 500 + clock.status.last.rootDelayUs * 500 +
    clock.status.last.rootDispersionUs * 1000 +
    magnitude (clock.status.slewUs - clock.slewed localUs) * 1000 +
    (age * clock.driftPpm).tdiv 1000
  if !clock.status.valid then 4294967295 else if 4294967295 < ns then 4294967295 else ns

/-- `esp_clock_correcting`. -/
def correcting (clock : EspClock) (localUs : Int) : Bool :=
  if !clock.status.valid then false
  else if clock.status.steps ≠ 0 ∧ localUs - clock.stepLocalUs < stepCorrectingUs then true
  else clock.status.fast && decide (localUs < clock.status.slewEndUs)

/-! ## The rate between updates -/

/-- A slew's rate, in parts per million. -/
def slewPpm (fast : Bool) : Int :=
  if fast then espClockFastSlewPpm else espClockGentlePpm

/-- A slew under way: no faster than its kind allows, and ending when it is said to. -/
structure Slewing (clock : EspClock) : Prop where
  positive : 0 < clock.slewDurationUs
  rate : |clock.status.slewUs| * 1000000 ≤ slewPpm clock.status.fast * clock.slewDurationUs
  ends : clock.status.slewEndUs = clock.slewStartUs + clock.slewDurationUs

/-- A clock's frequency is within its limit, and so is its slew. -/
structure Paced (clock : EspClock) : Prop where
  frequency : |clock.status.frequencyPpb| ≤ espClockFrequencyMaxPpb
  slew : clock.status.slewUs = 0 ∨ clock.Slewing

variable {clock : EspClock} {sample : EspClockSample} {nowUs timeConstantUs error : Int}
  {estimate : Option (Int × Nat)}

theorem magnitude_eq (value : Int) : magnitude value = |value| := by
  unfold magnitude
  split
  · next negative => exact (abs_of_neg negative).symm
  · next some => exact (abs_of_nonneg (Int.not_lt.mp some)).symm

/-- How far into its duration a slew is. -/
def progress (clock : EspClock) (localUs : Int) : Int :=
  max 0 (min (localUs - clock.slewStartUs) clock.slewDurationUs)

theorem slewed_of_none (still : clock.status.slewUs = 0) (localUs : Int) :
    clock.slewed localUs = 0 := by
  rw [slewed, if_pos (.inl still)]

theorem slewed_eq (positive : 0 < clock.slewDurationUs) (localUs : Int) :
    clock.slewed localUs =
      (clock.status.slewUs * clock.progress localUs).tdiv clock.slewDurationUs := by
  unfold slewed progress
  dsimp only
  split
  · next early =>
      rcases early with none | before
      · rw [none, Int.zero_mul, Int.zero_tdiv]
      · rw [max_eq_left ((min_le_left _ _).trans before), Int.mul_zero, Int.zero_tdiv]
  · next late =>
      rw [not_or, not_le] at late
      split
      · next spent =>
          rw [min_eq_right spent, max_eq_right positive.le,
            Int.mul_tdiv_cancel _ positive.ne']
      · next within => rw [min_eq_left (not_le.mp within).le, max_eq_right late.2.le]

theorem slewed_of_ended (slewing : clock.Slewing) {localUs : Int}
    (ended : clock.status.slewEndUs ≤ localUs) : clock.slewed localUs = clock.status.slewUs := by
  have spent : clock.slewDurationUs ≤ localUs - clock.slewStartUs := by
    rw [slewing.ends] at ended
    exact le_sub_iff_add_le'.mpr ended
  rw [slewed_eq slewing.positive, progress, min_eq_right spent, max_eq_right slewing.positive.le,
    Int.mul_tdiv_cancel _ slewing.positive.ne']

theorem progress_mono {first second : Int} (later : first ≤ second) :
    clock.progress first ≤ clock.progress second ∧
      clock.progress second - clock.progress first ≤ second - first := by
  unfold progress
  omega

theorem slewed_slope (slewing : clock.Slewing) {first second : Int} (later : first ≤ second) :
    |(clock.slewed second : ℚ) - clock.slewed first| ≤
      slewPpm clock.status.fast / 1000000 * (second - first) + 1 := by
  have size : (0 : ℚ) < clock.slewDurationUs := by exact_mod_cast slewing.positive
  obtain ⟨ordered, apart⟩ := clock.progress_mono later
  have spread : (clock.progress second : ℚ) - clock.progress first ≤ second - first := by
    exact_mod_cast apart
  have forward : (0 : ℚ) ≤ (clock.progress second : ℚ) - clock.progress first := by
    have := Int.sub_nonneg.mpr ordered
    exact_mod_cast this
  have rate : |(clock.status.slewUs : ℚ)| / clock.slewDurationUs ≤
      slewPpm clock.status.fast / 1000000 := by
    rw [div_le_div_iff₀ size (by norm_num)]
    exact_mod_cast slewing.rate
  have allowed : (0 : ℚ) ≤ slewPpm clock.status.fast / 1000000 :=
    le_trans (by positivity) rate
  rw [slewed_eq slewing.positive, slewed_eq slewing.positive]
  calc
    _ ≤ |(clock.status.slewUs : ℚ)| * (clock.progress second - clock.progress first) /
          clock.slewDurationUs + 1 :=
      Truncation.slope _ slewing.positive (le_max_left 0 _) ordered
    _ = |(clock.status.slewUs : ℚ)| / clock.slewDurationUs *
          (clock.progress second - clock.progress first) + 1 := by ring
    _ ≤ slewPpm clock.status.fast / 1000000 * (second - first) + 1 := by
      gcongr

theorem utcUs_slope (paced : clock.Paced) {first second : Int}
    (anchored : clock.anchorLocalUs ≤ first) (later : first ≤ second) {ppm : ℚ}
    (slews : |(clock.slewed second : ℚ) - clock.slewed first| ≤ ppm / 1000000 * (second - first) + 1) :
    |((clock.utcUs second : ℚ) - clock.utcUs first) - (second - first)| ≤
      (500 + ppm) / 1000000 * (second - first) + 2 := by
  have apart : (0 : ℚ) ≤ second - first := by
    have := Int.sub_nonneg.mpr later
    exact_mod_cast this
  have limit : |(clock.status.frequencyPpb : ℚ)| ≤ 500000 := by exact_mod_cast paced.frequency
  have runs := Truncation.slope clock.status.frequencyPpb (show 0 < 1000000000 by norm_num)
    (Int.sub_nonneg.mpr anchored) (Int.sub_le_sub_right later clock.anchorLocalUs)
  have drift : |(clock.status.frequencyPpb : ℚ)| * ((second : ℚ) - first) ≤
      500000 * (second - first) := mul_le_mul_of_nonneg_right limit apart
  rw [abs_le] at runs slews ⊢
  simp only [utcUs]
  rw [Int.mul_comm (second - clock.anchorLocalUs), Int.mul_comm (first - clock.anchorLocalUs)]
  push_cast at runs slews ⊢
  constructor <;> linarith

/-! ## Updates -/

theorem estimated_limit (limit : |clock.status.frequencyPpb| ≤ espClockFrequencyMaxPpb)
    (estimate : Option (Int × Nat)) :
    |(clock.estimated estimate).1| ≤ espClockFrequencyMaxPpb := by
  cases estimate with
  | none => exact limit
  | some found =>
      rw [estimated]
      dsimp only
      split
      · exact le_of_eq (abs_of_pos (by norm_num))
      · split
        · exact le_of_eq (abs_of_neg (by norm_num))
        · exact abs_le.mpr ⟨by omega, by omega⟩

/-- The duration is long enough for the slew's rate. -/
theorem slewDuration_rate (correction timeConstantUs : Int) :
    0 < slewDuration correction timeConstantUs ∧
      |correction| * 1000000 ≤ slewPpm (decide (espClockGentleUs < magnitude correction)) *
        slewDuration correction timeConstantUs := by
  have size := abs_nonneg correction
  unfold slewDuration slewPpm
  dsimp only [espClockFastSlewPpm, espClockGentlePpm]
  rw [magnitude_eq]
  by_cases fast : espClockGentleUs < |correction|
  · rw [if_pos fast, if_pos (decide_eq_true fast)]
    omega
  · rw [if_neg fast, decide_eq_false fast, if_neg Bool.false_ne_true]
    omega

theorem slew_paced (paced : clock.Paced) :
    (clock.slew sample nowUs timeConstantUs error estimate).2.Paced := by
  obtain ⟨positive, rate⟩ := slewDuration_rate
    (error - (clock.slewed nowUs - clock.slewed sample.localUs) +
      ((nowUs - sample.localUs) * ((clock.estimated estimate).1 - clock.status.frequencyPpb)).tdiv
        1000000000) timeConstantUs
  exact ⟨estimated_limit paced.frequency estimate, .inr ⟨positive, rate, rfl⟩⟩

theorem step_paced (limit : |clock.status.frequencyPpb| ≤ espClockFrequencyMaxPpb) :
    (clock.step sample nowUs).Paced :=
  ⟨limit, .inl rfl⟩

theorem update_paced (paced : clock.Paced) (input : Update) : (clock.update input).2.Paced := by
  unfold update
  dsimp only
  split
  · exact step_paced paced.frequency
  · split
    · exact step_paced paced.frequency
    · exact slew_paced ⟨paced.frequency, paced.slew.imp_right fun slewing =>
        ⟨slewing.positive, slewing.rate, slewing.ends⟩⟩

/-- An update's clock once the sample is judged. -/
def judged (clock : EspClock) (sample : EspClockSample) (error : Int) : EspClock :=
  let clock := clock.noted sample
  { clock with status := { clock.status with lastErrorUs := error } }

theorem slew_not_stepped :
    (clock.slew sample nowUs timeConstantUs error estimate).1 ≠ .stepped := by
  unfold slew
  dsimp only
  split <;> exact nofun

/-- A first sample, or one far from the model. -/
def Steps (clock : EspClock) (sample : EspClockSample) : Prop :=
  clock.status.valid = false ∨ espClockStepUs < magnitude (clock.errorOf sample)

/-- An update steps, or it slews by the sample's error. -/
theorem update_cases (clock : EspClock) (input : Update) :
    (clock.Steps input.sample ∧ ∃ error, clock.update input =
        (.stepped, (clock.judged input.sample error).step input.sample input.at)) ∨
      ¬clock.Steps input.sample ∧ clock.status.valid = true ∧
        clock.update input = (clock.judged input.sample (clock.errorOf input.sample)).slew
          input.sample input.at input.timeConstantUs (clock.errorOf input.sample)
            input.estimate := by
  cases valid : clock.status.valid with
  | false =>
      have fresh : (!(clock.noted input.sample).status.valid) = true := congrArg (!·) valid
      rw [update]
      dsimp only
      rw [if_pos fresh]
      exact .inl ⟨.inl valid, 0, rfl⟩
  | true =>
      have set : ¬(!(clock.noted input.sample).status.valid) = true :=
        Bool.not_eq_true _ ▸ congrArg (!·) valid
      rw [update]
      dsimp only
      rw [if_neg set]
      by_cases far : espClockStepUs < magnitude ((clock.noted input.sample).errorOf input.sample)
      · rw [if_pos far]
        exact .inl ⟨.inr far, _, rfl⟩
      · rw [if_neg far]
        refine .inr ⟨?_, rfl, rfl⟩
        rintro (fresh | distant)
        · exact absurd (fresh.symm.trans valid) Bool.false_ne_true
        · exact far distant

/-- Slewing takes over where the clock stands. -/
theorem slew_continues :
    (clock.slew sample nowUs timeConstantUs error estimate).2.utcUs nowUs = clock.utcUs nowUs := by
  rw [utcUs, slewed, slew]
  dsimp only
  rw [Int.sub_self, Int.zero_mul, Int.zero_tdiv, if_pos (.inr (le_refl 0)), Int.add_zero,
    Int.add_zero, Int.add_zero]

/-- A sample's UTC carried forward at a frequency. -/
def carried (sample : EspClockSample) (ppb localUs : Int) : ℚ :=
  sample.localUs + sample.offsetUs + (localUs - sample.localUs) * (1 + ppb / 1000000000)

/-- But for what is left of the slew, the clock reads the sample carried forward: each of
four divisions may leave out less than a microsecond. -/
theorem slew_carries (localUs : Int) :
    let next := (clock.slew sample nowUs timeConstantUs (clock.errorOf sample) estimate).2
    |(next.utcUs localUs : ℚ) - (next.slewed localUs - next.status.slewUs) -
        carried sample next.status.frequencyPpb localUs| < 4 := by
  have running := Truncation.near
    ((localUs - nowUs) * (clock.estimated estimate).1) (show 0 < 1000000000 by norm_num)
  have reached := Truncation.near
    ((nowUs - clock.anchorLocalUs) * clock.status.frequencyPpb) (show 0 < 1000000000 by norm_num)
  have sampled := Truncation.near
    ((sample.localUs - clock.anchorLocalUs) * clock.status.frequencyPpb)
    (show 0 < 1000000000 by norm_num)
  have changed := Truncation.near
    ((nowUs - sample.localUs) * ((clock.estimated estimate).1 - clock.status.frequencyPpb))
    (show 0 < 1000000000 by norm_num)
  intro next
  have reads : next.utcUs localUs = clock.utcUs nowUs + (localUs - nowUs) +
      ((localUs - nowUs) * (clock.estimated estimate).1).tdiv 1000000000 + next.slewed localUs := rfl
  have corrects : next.status.slewUs =
      clock.errorOf sample - (clock.slewed nowUs - clock.slewed sample.localUs) +
        ((nowUs - sample.localUs) * ((clock.estimated estimate).1 -
          clock.status.frequencyPpb)).tdiv 1000000000 := rfl
  have runs : next.status.frequencyPpb = (clock.estimated estimate).1 := rfl
  rw [reads, corrects, runs, errorOf, utcUs, utcUs, carried]
  generalize (clock.estimated estimate).1 = newPpb at running changed ⊢
  generalize next.slewed localUs = applied
  rw [abs_lt] at running reached sampled changed ⊢
  push_cast at running reached sampled changed ⊢
  constructor <;> linarith

theorem update_continues {input : Update} (slews : (clock.update input).1 ≠ .stepped) :
    (clock.update input).2.utcUs input.at = clock.utcUs input.at := by
  rcases clock.update_cases input with ⟨_, error, steps⟩ | ⟨_, _, slew⟩
  · exact absurd (congrArg Prod.fst steps) slews
  · rw [slew]
    exact slew_continues

theorem update_carries {input : Update} (slews : (clock.update input).1 ≠ .stepped)
    (localUs : Int) :
    |((clock.update input).2.utcUs localUs : ℚ) -
        ((clock.update input).2.slewed localUs - (clock.update input).2.status.slewUs) -
        carried input.sample (clock.update input).2.status.frequencyPpb localUs| < 4 := by
  rcases clock.update_cases input with ⟨_, error, steps⟩ | ⟨_, _, slew⟩
  · exact absurd (congrArg Prod.fst steps) slews
  · rw [slew]
    exact slew_carries localUs

/-! ## Runs -/

/-- What happens to the clock: an update, or samples from another server from now on. -/
inductive Event
  | update (input : Update)
  | newReference
  deriving DecidableEq, Repr

/-- The clock from `esp_clock_init` on. -/
def machine : Machine EspClock Event where
  start clock := clock = {}
  step clock event :=
    match event with
    | .update input => (clock.update input).2
    | .newReference => clock.newReference

theorem paced : machine.Invariant (fun _ _ => True) Paced where
  start := by
    rintro clock rfl
    exact ⟨show |(0 : Int)| ≤ 500000 by norm_num, .inl rfl⟩
  step clock event paced _ := by
    cases event with
    | update input => exact update_paced paced input
    | newReference => exact ⟨paced.frequency, paced.slew.imp_right fun slewing =>
        ⟨slewing.positive, slewing.rate, slewing.ends⟩⟩

theorem paced_after (events : List Event) : (events.foldl machine.step ({} : EspClock)).Paced :=
  paced.run (paced.start _ rfl) (Machine.Run.foldl (fun _ _ => trivial) events _)

/-- A slew moves the clock at the fast rate at most, and at the gentle one unless it is a
fast one still under way. -/
theorem slewed_rate (paced : clock.Paced) {first second : Int} (later : first ≤ second) :
    |(clock.slewed second : ℚ) - clock.slewed first| ≤
        (espClockFastSlewPpm : ℚ) / 1000000 * (second - first) + 1 ∧
      (clock.status.fast = false ∨ clock.status.slewEndUs ≤ first →
        |(clock.slewed second : ℚ) - clock.slewed first| ≤
          (espClockGentlePpm : ℚ) / 1000000 * (second - first) + 1) := by
  have apart : (0 : ℚ) ≤ second - first := by
    have := Int.sub_nonneg.mpr later
    exact_mod_cast this
  have still : (0 : ℚ) ≤ (espClockGentlePpm : ℚ) / 1000000 * (second - first) + 1 := by
    positivity
  rcases paced.slew with none | slewing
  · rw [slewed_of_none none, slewed_of_none none, sub_self, abs_zero]
    exact ⟨by positivity, fun _ => still⟩
  · have rate := slewed_slope slewing later
    refine ⟨rate.trans ?_, fun gentle => ?_⟩
    · have slower : (slewPpm clock.status.fast : ℚ) ≤ espClockFastSlewPpm := by
        cases clock.status.fast <;> norm_num [slewPpm]
      gcongr
    · rcases gentle with gentle | ended
      · rwa [gentle] at rate
      · rw [slewed_of_ended slewing ended, slewed_of_ended slewing (ended.trans later), sub_self,
          abs_zero]
        exact still

theorem applied_of_ended (paced : clock.Paced) {localUs : Int}
    (ended : clock.status.slewEndUs ≤ localUs) : clock.slewed localUs = clock.status.slewUs := by
  rcases paced.slew with none | slewing
  · rw [slewed_of_none none, none]
  · exact slewed_of_ended slewing ended

/-- **Continuous, and nearly uniform.** After any run, an update that does not step leaves
what the clock reads at its moment, and once its slew has ended the clock reads the
sample's UTC carried forward at the new frequency, to within four microseconds. From any
update's moment on the clock advances as the local timer does to within its frequency's
limit and the slew's rate, and two microseconds. -/
theorem update_uniform (events : List Event) (input : Update) :
    let clock := events.foldl machine.step ({} : EspClock)
    let next := (clock.update input).2
    ((clock.update input).1 ≠ .stepped →
      next.utcUs input.at = clock.utcUs input.at ∧
        ∀ localUs, next.status.slewEndUs ≤ localUs →
          |(next.utcUs localUs : ℚ) - carried input.sample next.status.frequencyPpb localUs| < 4) ∧
      ∀ first second, next.anchorLocalUs ≤ first → first ≤ second →
        |((next.utcUs second : ℚ) - next.utcUs first) - (second - first)| ≤
            (500 + (espClockFastSlewPpm : ℚ)) / 1000000 * (second - first) + 2 ∧
          (next.status.fast = false ∨ next.status.slewEndUs ≤ first →
            |((next.utcUs second : ℚ) - next.utcUs first) - (second - first)| ≤
              (500 + (espClockGentlePpm : ℚ)) / 1000000 * (second - first) + 2) := by
  intro clock next
  have paced : next.Paced := update_paced (paced_after events) input
  refine ⟨fun slews => ?_, fun first second anchored later => ?_⟩
  · refine ⟨update_continues slews, fun localUs ended => ?_⟩
    have carries := update_carries slews localUs
    rwa [applied_of_ended paced ended, sub_self, sub_zero] at carries
  · obtain ⟨fast, gentle⟩ := slewed_rate paced later
    exact ⟨utcUs_slope paced anchored later fast,
      fun reported => utcUs_slope paced anchored later (gentle reported)⟩

end EspClock

end GpsClock.Ntp
