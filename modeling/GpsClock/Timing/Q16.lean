import GpsClock.Lib.Rounding

/-! # Q16.16 fixed point

`q16.h`: timer ticks in 65536ths, held in an `int32_t`. -/

namespace GpsClock.Timing

/-- What an `int32_t` keeps of a value. -/
def int32 (value : Int) : Int :=
  (value + 2147483648) % 4294967296 - 2147483648

/-- The values an `int32_t` holds. -/
def Fits32 (value : Int) : Prop :=
  -2147483648 ≤ value ∧ value ≤ 2147483647

instance (value : Int) : Decidable (Fits32 value) :=
  inferInstanceAs (Decidable (_ ∧ _))

theorem int32_eq {value : Int} (fits : Fits32 value) : int32 value = value := by
  obtain ⟨low, high⟩ := fits
  rw [int32]
  omega

/-- `Q16_ONE`. -/
abbrev q16One : Int := 65536

/-- `Q16_TICK_LIMIT`. -/
abbrev q16TickLimit : Int := 16383

/-- `Q16_FROM_TICKS`. -/
def q16FromTicks (ticks : Int) : Int :=
  int32 (ticks * q16One)

/-- `Q16_TICK_LIMIT` in Q16. -/
abbrev q16Limit : Int := 1073676288

/-- `q_round_shift`. -/
def qRoundShift (value : Int) (shift : Nat) : Int :=
  Rounding.nearest value shift

/-- `q16_round_from_q32`. -/
def q16RoundFromQ32 (valueQ32 : Int) : Int :=
  int32 (Rounding.nearest valueQ32 16)

/-- `q16_multiply`. -/
def q16Multiply (aQ16 bQ16 : Int) : Int :=
  q16RoundFromQ32 (aQ16 * bQ16)

/-- `q16_clamp`. -/
def q16Clamp (value limit : Int) : Int :=
  if value > limit then limit
  else if value < int32 (-limit) then int32 (-limit)
  else value

theorem q16FromTicks_eq {ticks : Int} (within : |ticks| ≤ q16TickLimit) :
    q16FromTicks ticks = ticks * q16One := by
  obtain ⟨low, high⟩ := abs_le.mp within
  apply int32_eq
  dsimp only [Fits32, q16One, q16TickLimit] at *
  omega

theorem q16Clamp_eq {limit : Int} (value : Int) (positive : 0 ≤ limit) (fits : limit ≤ 2147483647) :
    q16Clamp value limit = max (-limit) (min value limit) := by
  rw [q16Clamp, int32_eq ⟨by omega, by omega⟩]
  split
  · omega
  · split <;> omega

/-- A gain of at most one takes from a factor neither its sign nor more than its size. -/
theorem q16Multiply_gain {gain factor : Int} (least : 0 ≤ gain) (most : gain ≤ q16One)
    (fits : |factor| ≤ q16Limit) :
    (0 ≤ factor → 0 ≤ q16Multiply gain factor ∧ q16Multiply gain factor ≤ factor) ∧
      (factor ≤ 0 → factor ≤ q16Multiply gain factor ∧ q16Multiply gain factor ≤ 0) := by
  obtain ⟨low, high⟩ := abs_le.mp fits
  have whole : gain ≤ 2 ^ 16 := most
  obtain ⟨up, down⟩ := Rounding.nearest_weight factor (by decide) least whole
  rw [q16Multiply, q16RoundFromQ32]
  dsimp only [q16Limit] at low high
  rw [int32_eq]
  · exact ⟨up, down⟩
  · rcases le_total 0 factor with positive | negative
    · obtain ⟨least, most⟩ := up positive
      exact ⟨by omega, by omega⟩
    · obtain ⟨least, most⟩ := down negative
      exact ⟨by omega, by omega⟩

theorem q16Multiply_within {gain factor : Int} (least : 0 ≤ gain) (most : gain ≤ q16One)
    (fits : |factor| ≤ q16Limit) : |q16Multiply gain factor| ≤ q16Limit := by
  obtain ⟨up, down⟩ := q16Multiply_gain least most fits
  obtain ⟨low, high⟩ := abs_le.mp fits
  apply abs_le.mpr
  rcases le_total 0 factor with positive | negative
  · obtain ⟨least, most⟩ := up positive
    exact ⟨by omega, by omega⟩
  · obtain ⟨least, most⟩ := down negative
    exact ⟨by omega, by omega⟩

end GpsClock.Timing
