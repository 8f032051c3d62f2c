import GpsClock.Ntp.EspClock

/-! # The ESP clock's inverse

`esp_clock_local_us` goes from UTC back to the local timer by three Newton passes. The
clock's reading less the timer's moves by no more than 600 parts per million of the
time between, and two microseconds for its two divisions, so each pass leaves that much of
the error before it: from any clock there can be and any UTC within 10^12 microseconds of
its anchor, no more than two microseconds are left
(`GpsClock.Ntp.EspClock.inverse_near`).
-/

namespace GpsClock.Ntp.EspClock

/-- One pass of `esp_clock_local_us`. -/
def newtonPass (clock : EspClock) (utcUs localUs : Int) : Int :=
  localUs - (clock.utcUs localUs - utcUs)

/-- `esp_clock_local_us`. -/
def localUs (clock : EspClock) (utcUs : Int) : Int :=
  (clock.newtonPass utcUs)^[3] (clock.anchorLocalUs + (utcUs - clock.anchorUtcUs))

variable {clock : EspClock} {utcUs : Int}

/-- A slew starts where the clock was anchored. -/
def Anchored (clock : EspClock) : Prop :=
  clock.status.slewUs = 0 ∨ clock.slewStartUs = clock.anchorLocalUs

theorem update_anchored (input : Update) : (clock.update input).2.Anchored := by
  rcases clock.update_cases input with ⟨_, error, steps⟩ | ⟨_, _, slew⟩
  · rw [steps]
    exact .inl rfl
  · rw [slew]
    exact .inr rfl

theorem anchored : machine.Invariant (fun _ _ => True) Anchored where
  start := by
    rintro clock rfl
    exact .inl rfl
  step clock event anchored _ := by
    cases event with
    | update input => exact update_anchored input
    | newReference => exact anchored

/-- At its anchor a clock reads the anchor's UTC. -/
theorem Anchored.reads (anchored : clock.Anchored) :
    clock.utcUs clock.anchorLocalUs = clock.anchorUtcUs := by
  have unslewed : clock.slewed clock.anchorLocalUs = 0 := by
    rcases anchored with still | start
    · exact slewed_of_none still _
    · rw [slewed, start, Int.sub_self]
      exact if_pos (.inr (le_refl 0))
  rw [utcUs, unslewed, Int.sub_self, Int.zero_mul, Int.zero_tdiv]
  simp

/-- How far the reading less the timer's moves between two times, in either order. -/
theorem Paced.apart (paced : clock.Paced) (first second : Int) :
    |((clock.utcUs first : ℚ) - first) - (clock.utcUs second - second)| <
      600 / 1000000 * |(first : ℚ) - second| + 2 := by
  have limit : |(clock.status.frequencyPpb : ℚ)| ≤ 500000 := by exact_mod_cast paced.frequency
  have drifts := Truncation.apart ((first - clock.anchorLocalUs) * clock.status.frequencyPpb)
    ((second - clock.anchorLocalUs) * clock.status.frequencyPpb) (show 0 < 1000000000 by norm_num)
  have drift : |(((first - clock.anchorLocalUs) * clock.status.frequencyPpb : Int) : ℚ) -
      ((second - clock.anchorLocalUs) * clock.status.frequencyPpb : Int)| ≤
        500000 * |(first : ℚ) - second| := by
    have factored : (((first - clock.anchorLocalUs) * clock.status.frequencyPpb : Int) : ℚ) -
        ((second - clock.anchorLocalUs) * clock.status.frequencyPpb : Int) =
          clock.status.frequencyPpb * (first - second) := by
      push_cast
      ring
    rw [factored, abs_mul]
    exact mul_le_mul_of_nonneg_right limit (abs_nonneg _)
  have slews : |(clock.slewed first : ℚ) - clock.slewed second| ≤
      100 / 1000000 * |(first : ℚ) - second| + 1 := by
    rcases le_total second first with later | later
    · have rate := (slewed_rate paced later).1
      rwa [abs_of_nonneg (sub_nonneg.mpr (show (second : ℚ) ≤ first by exact_mod_cast later))]
    · have rate := (slewed_rate paced later).1
      rwa [abs_sub_comm, abs_sub_comm (first : ℚ),
        abs_of_nonneg (sub_nonneg.mpr (show (first : ℚ) ≤ second by exact_mod_cast later))]
  have split : ((clock.utcUs first : ℚ) - first) - (clock.utcUs second - second) =
      (((first - clock.anchorLocalUs) * clock.status.frequencyPpb).tdiv 1000000000 -
        ((second - clock.anchorLocalUs) * clock.status.frequencyPpb).tdiv 1000000000 : Int) +
      ((clock.slewed first : ℚ) - clock.slewed second) := by
    rw [EspClock.utcUs, EspClock.utcUs]
    push_cast
    ring
  rw [split]
  refine (abs_add_le _ _).trans_lt ?_
  push_cast at drifts drift slews ⊢
  linarith

/-- How far a reading is from the UTC sought. -/
def missUs (clock : EspClock) (utcUs localUs : Int) : Int :=
  clock.utcUs localUs - utcUs

/-- A pass leaves no more than the rates' share of the miss before it. -/
theorem Paced.newtonPass (paced : clock.Paced) (utcUs localUs : Int) :
    |(clock.missUs utcUs (clock.newtonPass utcUs localUs) : ℚ)| <
      600 / 1000000 * |(clock.missUs utcUs localUs : ℚ)| + 2 := by
  have moved := paced.apart (clock.newtonPass utcUs localUs) localUs
  have left : ((clock.utcUs (clock.newtonPass utcUs localUs) : ℚ) -
      (clock.newtonPass utcUs localUs : Int)) - (clock.utcUs localUs - localUs) =
        clock.missUs utcUs (clock.newtonPass utcUs localUs) := by
    rw [missUs, show ((clock.newtonPass utcUs localUs : Int) : ℚ) =
      localUs - (clock.utcUs localUs - utcUs) by rw [EspClock.newtonPass]; push_cast; ring]
    push_cast
    ring
  have step : ((clock.newtonPass utcUs localUs : Int) : ℚ) - localUs =
      -(clock.missUs utcUs localUs : ℚ) := by
    rw [EspClock.newtonPass, missUs]
    push_cast
    ring
  rwa [left, step, abs_neg] at moved

/-- **The inverse.** After any run, the clock reads within two microseconds of a UTC at the
local time found for it. -/
theorem inverse_near (events : List Event) (utcUs : Int)
    (near : |utcUs - (events.foldl machine.step ({} : EspClock)).anchorUtcUs| ≤ 10 ^ 12) :
    let clock := events.foldl machine.step ({} : EspClock)
    |clock.utcUs (clock.localUs utcUs) - utcUs| ≤ 2 := by
  intro clock
  have paced : clock.Paced := paced_after events
  have reads : clock.utcUs clock.anchorLocalUs = clock.anchorUtcUs :=
    (anchored.run (anchored.start _ rfl) (Machine.Run.foldl (fun _ _ => trivial) events _)).reads
  -- The first guess is as far from the anchor on both lines.
  have first : |(clock.missUs utcUs (clock.anchorLocalUs + (utcUs - clock.anchorUtcUs)) : ℚ)| <
      600 / 1000000 * 10 ^ 12 + 2 := by
    have moved := paced.apart (clock.anchorLocalUs + (utcUs - clock.anchorUtcUs)) clock.anchorLocalUs
    have far : |(utcUs : ℚ) - clock.anchorUtcUs| ≤ 10 ^ 12 := by exact_mod_cast near
    have missed : ((clock.utcUs (clock.anchorLocalUs + (utcUs - clock.anchorUtcUs)) : ℚ) -
        (clock.anchorLocalUs + (utcUs - clock.anchorUtcUs) : Int)) -
          (clock.utcUs clock.anchorLocalUs - clock.anchorLocalUs) =
        clock.missUs utcUs (clock.anchorLocalUs + (utcUs - clock.anchorUtcUs)) := by
      rw [missUs, reads]
      push_cast
      ring
    have away : ((clock.anchorLocalUs + (utcUs - clock.anchorUtcUs) : Int) : ℚ) -
        clock.anchorLocalUs = utcUs - clock.anchorUtcUs := by
      push_cast
      ring
    rw [missed, away] at moved
    linarith
  have second := paced.newtonPass utcUs (clock.anchorLocalUs + (utcUs - clock.anchorUtcUs))
  have third := paced.newtonPass utcUs (clock.newtonPass utcUs
    (clock.anchorLocalUs + (utcUs - clock.anchorUtcUs)))
  have last := paced.newtonPass utcUs (clock.newtonPass utcUs (clock.newtonPass utcUs
    (clock.anchorLocalUs + (utcUs - clock.anchorUtcUs))))
  have left : |(clock.missUs utcUs (clock.localUs utcUs) : ℚ)| < 3 := by
    change |(clock.missUs utcUs (clock.newtonPass utcUs (clock.newtonPass utcUs
      (clock.newtonPass utcUs (clock.anchorLocalUs + (utcUs - clock.anchorUtcUs))))) : ℚ)| < 3
    norm_num at first
    linarith
  have whole : |clock.missUs utcUs (clock.localUs utcUs)| < 3 := by exact_mod_cast left
  exact Int.lt_add_one_iff.mp whole

/-- A clock whose frequency is at its limit, and that is slewing back a tenth of a second. -/
def slewingRun : List Event :=
  [.update ⟨{ localUs := 0, offsetUs := 1000000000000 }, 1000, 0, none⟩,
    .update ⟨{ localUs := 900000000, offsetUs := 999999900000 }, 900001000, 0, some (500000, 8)⟩]

/-- Ten days after its anchor. -/
theorem inverse_near_slewing :
    let clock := slewingRun.foldl machine.step ({} : EspClock)
    |clock.utcUs (clock.localUs (clock.anchorUtcUs + 864000000000)) -
      (clock.anchorUtcUs + 864000000000)| ≤ 2 :=
  inverse_near slewingRun _ (by decide)

end GpsClock.Ntp.EspClock
