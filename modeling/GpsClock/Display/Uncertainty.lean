import GpsClock.Display.Modes

/-! # The uncertainty read off the tubes

Three figures, a decimal point and a unit, read back from the frame that is drawn. What is
read is the bound rounded up in the finest step that three figures hold
(`GpsClock.Display.uncertainty_shown`).
-/

namespace GpsClock.Display

/-! ## Reading a frame -/

def readDigit (segments : Byte) : Option Nat :=
  digits.idxOf? segments

/-- A number as it is read, blank tubes before it. -/
def readFigures (tubes : List Byte) : Option Nat :=
  match tubes.dropWhile (· == 0) with
  | [] => none
  | shown => shown.foldlM (fun value segments => (readDigit segments).map (value * 10 + ·)) 0

/-- The nanoseconds in one of the last figure: a unit, or a tenth of one that has tenths. -/
def readStep (unit : Byte) (point : Bool) : Option Nat :=
  match unitGlyphs.idxOf? unit, point with
  | some 0, false => some 1
  | some (thousands + 1), false => some (1000 ^ (thousands + 1))
  | some (thousands + 1), true => some (1000 ^ (thousands + 1) / 10)
  | _, _ => none

/-- What is read: the three figures together, and what one of the last is worth. -/
structure UncertaintyReading where
  figures : Nat
  stepNs : Nat
  deriving DecidableEq

/-- The uncertainty on the tubes, the middle lower dot as the decimal point. -/
def TubesFrame.readUncertainty (frame : TubesFrame) : Option UncertaintyReading := do
  let figures ← readFigures [frame.tube 0, frame.tube 1, frame.tube 2]
  let stepNs ← readStep (frame.tube 3) (frame.separators &&& tubesMiddleDot != 0)
  return { figures := figures, stepNs := stepNs }

def UncertaintyReading.ns (reading : UncertaintyReading) : Nat :=
  reading.figures * reading.stepNs

/-- Whole nanoseconds, then tenths and whole microseconds and milliseconds. -/
def uncertaintySteps : List Nat := [1, 100, 1000, 100000, 1000000]

/-- A bound, rounded up in the finest step that three figures hold. -/
structure UncertaintyReading.Bounds (reading : UncertaintyReading) (ns : Nat) : Prop where
  above : ns ≤ reading.ns
  close : reading.ns < ns + reading.stepNs
  figures : reading.figures ≤ 999
  step : reading.stepNs ∈ uncertaintySteps
  finest : ∀ step ∈ uncertaintySteps, step < reading.stepNs → 999 * step < ns

/-! ## What is drawn -/

theorem readDigit_digits {digit : Nat} (one : digit < 10) :
    readDigit (digits.getD digit 0) = some digit ∧ (digits.getD digit 0 == 0) = false := by
  interval_cases digit <;> decide

theorem readFigures_blank (tubes : List Byte) : readFigures (0 :: tubes) = readFigures tubes :=
  rfl

/-- Three figures, or fewer after blanks. -/
theorem readFigures_three {first second third : Nat} (one : first < 10) (two : second < 10)
    (three : third < 10) :
    readFigures [digits.getD first 0, digits.getD second 0, digits.getD third 0] =
        some (first * 100 + second * 10 + third) ∧
      readFigures [digits.getD second 0, digits.getD third 0] = some (second * 10 + third) ∧
      readFigures [digits.getD third 0] = some third := by
  obtain ⟨firstRead, firstLit⟩ := readDigit_digits one
  obtain ⟨secondRead, secondLit⟩ := readDigit_digits two
  obtain ⟨thirdRead, thirdLit⟩ := readDigit_digits three
  refine ⟨?_, ?_, ?_⟩
  · rw [readFigures, List.dropWhile_cons_of_neg (by rw [firstLit]; decide)]
    simp only [List.foldlM, firstRead, secondRead, thirdRead, Option.map_some, Option.bind_eq_bind,
      Option.bind_some]
    refine congrArg some ?_
    omega
  · rw [readFigures, List.dropWhile_cons_of_neg (by rw [secondLit]; decide)]
    simp only [List.foldlM, secondRead, thirdRead, Option.map_some, Option.bind_eq_bind,
      Option.bind_some]
    refine congrArg some ?_
    omega
  · rw [readFigures, List.dropWhile_cons_of_neg (by rw [thirdLit]; decide)]
    simp only [List.foldlM, thirdRead, Option.map_some, Option.bind_eq_bind, Option.bind_some]
    refine congrArg some ?_
    omega

/-- A number drawn on the first three tubes. -/
theorem tubes_three (frame : TubesFrame) (value : Nat) :
    (frameNumber frame 0 3 value).tube 0 = digits.getD (value / 10 / 10 % 10) 0 ∧
      (frameNumber frame 0 3 value).tube 1 = digits.getD (value / 10 % 10) 0 ∧
      (frameNumber frame 0 3 value).tube 2 = digits.getD (value % 10) 0 := by
  refine ⟨?_, ?_, ?_⟩ <;> simp [frameNumber, tube_put]

theorem tube_frameBlank (frame : TubesFrame) (first count tube : Nat) (inside : tube < 4) :
    (frameBlank frame first count).tube tube =
      if first ≤ tube ∧ tube < first + count then 0 else frame.tube tube := by
  induction count with
  | zero => rw [frameBlank, if_neg (by omega)]
  | succ count ih =>
      rw [frameBlank, tube_put, ih]
      by_cases last : first + count = tube
      · rw [if_pos ⟨last, by omega⟩, if_pos (by omega)]
      · rw [if_neg fun here => last here.1]
        by_cases within : first ≤ tube ∧ tube < first + count
        · rw [if_pos within, if_pos (by omega)]
        · rw [if_neg within, if_neg (by omega)]

/-- A number of three figures or fewer is read as it was drawn, so many of its first tubes
blanked, if only zeroes were on them. -/
theorem readFigures_drawn (frame : TubesFrame) {value blanks : Nat} (three : value < 1000)
    (none : blanks = 0 ∨ blanks = 1 ∧ value < 100 ∨ blanks = 2 ∧ value < 10) :
    let drawn := frameBlank (frameNumber frame 0 3 value) 0 blanks
    readFigures [drawn.tube 0, drawn.tube 1, drawn.tube 2] = some value := by
  obtain ⟨first, second, third⟩ := tubes_three frame value
  obtain ⟨all, two, one⟩ := readFigures_three (Nat.mod_lt (value / 10 / 10) (show 0 < 10 by decide))
    (Nat.mod_lt (value / 10) (show 0 < 10 by decide)) (Nat.mod_lt value (show 0 < 10 by decide))
  dsimp only
  rw [tube_frameBlank _ _ _ _ (by decide), tube_frameBlank _ _ _ _ (by decide),
    tube_frameBlank _ _ _ _ (by decide), first, second, third]
  rcases none with rfl | ⟨rfl, small⟩ | ⟨rfl, small⟩
  · refine all.trans (congrArg some ?_)
    omega
  · refine two.trans (congrArg some ?_)
    omega
  · refine one.trans (congrArg some ?_)
    omega

/-- As it is drawn with its leading zeroes blanked. -/
theorem readFigures_blanked (frame : TubesFrame) {value : Nat} (three : value < 1000) :
    let drawn := frameNumberBlanked frame 0 3 value
    readFigures [drawn.tube 0, drawn.tube 1, drawn.tube 2] = some value := by
  have shown : frameNumberBlanked frame 0 3 value =
      frameBlank (frameNumber frame 0 3 value) 0 (3 - digitsShown 4 value) := by
    rw [frameNumberBlanked]
    split
    · rfl
    · next full => rw [Nat.sub_eq_zero_of_le (Nat.le_of_not_lt full), frameBlank]
  rw [shown]
  refine readFigures_drawn frame three ?_
  by_cases tens : 10 ≤ value
  · by_cases hundreds : 100 ≤ value
    · have digits : digitsShown 4 value = 3 := by
        simp only [digitsShown, tens, if_true]
        rw [if_pos (by omega), if_neg (by omega)]
      exact .inl (by rw [digits])
    · have digits : digitsShown 4 value = 2 := by
        simp only [digitsShown, tens, if_true]
        rw [if_neg (by omega)]
      exact .inr (.inl ⟨by rw [digits], by omega⟩)
  · have digits : digitsShown 4 value = 1 := if_neg tens
    exact .inr (.inr ⟨by rw [digits], by omega⟩)

/-! ## The value drawn -/

theorem ceilingDiv_bounds (value : Nat) {divisor : Nat} (positive : 0 < divisor) :
    value ≤ ceilingDiv value divisor * divisor ∧
      ceilingDiv value divisor * divisor < value + divisor := by
  have parts := Nat.div_add_mod value divisor
  have rest := Nat.mod_lt value positive
  rw [ceilingDiv, Nat.add_mul, Nat.mul_comm (value / divisor)]
  split
  · omega
  · omega

/-- Where a value does not fit three figures, it is more than they hold. -/
theorem ceilingDiv_overflow {value divisor : Nat} (positive : 0 < divisor)
    (overflows : ¬ceilingDiv value divisor < 1000) : 999 * divisor < value := by
  have bounds := (ceilingDiv_bounds value positive).2
  have many := Nat.mul_le_mul_right divisor (Nat.le_of_not_lt overflows)
  omega

/-- A value rounded up to a step, and more than three figures hold of any finer one. -/
theorem bounds_of_step {ns step : Nat} (known : step ∈ uncertaintySteps)
    (fits : ceilingDiv ns step < 1000)
    (finest : ∀ finer ∈ uncertaintySteps, finer < step → 999 * finer < ns) :
    UncertaintyReading.Bounds ⟨ceilingDiv ns step, step⟩ ns := by
  have positive := (by decide : ∀ step ∈ uncertaintySteps, 0 < step) step known
  obtain ⟨above, close⟩ := ceilingDiv_bounds ns positive
  exact ⟨above, close, Nat.le_of_lt_succ fits, known, finest⟩

/-- What the loop ends with is the bound rounded up in the finest step that fits. -/
theorem uncertaintyFigures_spec {ns : Nat} (within : ns ≤ displayUncertaintyMaxNs) :
    ∃ value point unit stepNs, uncertaintyFigures ns = (value, point, unit) ∧ value < 1000 ∧
      readStep (unitGlyphs.getD unit 0) point = some stepNs ∧
      UncertaintyReading.Bounds ⟨value, stepNs⟩ ns := by
  have listed {finer : Nat} (known : finer ∈ uncertaintySteps) :
      finer = 1 ∨ finer = 100 ∨ finer = 1000 ∨ finer = 100000 ∨ finer = 1000000 := by
    simpa [uncertaintySteps] using known
  have none : ¬999 * 1000000 < ns := not_lt.mpr within
  rw [uncertaintyFigures]
  by_cases whole : ns < 1000
  · have value : ceilingDiv ns 1 = ns := by
      rw [ceilingDiv, Nat.div_one, Nat.mod_one]
      rfl
    have bounds := bounds_of_step (show 1 ∈ uncertaintySteps by decide) (by rwa [value])
      fun finer known small => by
        have := listed known
        omega
    rw [value] at bounds
    rw [if_pos whole]
    exact ⟨_, _, _, 1, rfl, whole, by decide, bounds⟩
  · rw [if_neg whole]
    by_cases tenthUs : ceilingDiv ns 100 < 1000
    · rw [if_pos tenthUs]
      refine ⟨_, _, _, 100, rfl, tenthUs, by decide, bounds_of_step (by decide) tenthUs ?_⟩
      intro finer known small
      have := listed known
      omega
    · have overUs := ceilingDiv_overflow (by decide) tenthUs
      rw [if_neg tenthUs]
      by_cases us : ceilingDiv ns 1000 < 1000
      · rw [if_pos us]
        refine ⟨_, _, _, 1000, rfl, us, by decide, bounds_of_step (by decide) us ?_⟩
        intro finer known small
        have := listed known
        omega
      · have overTenthMs := ceilingDiv_overflow (by decide) us
        rw [if_neg us]
        by_cases tenthMs : ceilingDiv ns 100000 < 1000
        · rw [if_pos tenthMs]
          refine ⟨_, _, _, 100000, rfl, tenthMs, by decide, bounds_of_step (by decide) tenthMs ?_⟩
          intro finer known small
          have := listed known
          omega
        · have overMs := ceilingDiv_overflow (by decide) tenthMs
          have ms : ceilingDiv ns 1000000 < 1000 := by
            by_contra overflows
            exact none (ceilingDiv_overflow (by decide) overflows)
          rw [if_neg tenthMs, if_pos ms]
          refine ⟨_, _, _, 1000000, rfl, ms, by decide, bounds_of_step (by decide) ms ?_⟩
          intro finer known small
          have := listed known
          omega

/-! ## The value read -/

@[simp] theorem separators_frameNumber (frame : TubesFrame) (first width value : Nat) :
    (frameNumber frame first width value).separators = frame.separators := by
  induction width generalizing frame value with
  | zero => rfl
  | succ place ih => exact (ih _ _).trans rfl

@[simp] theorem separators_frameBlank (frame : TubesFrame) (first count : Nat) :
    (frameBlank frame first count).separators = frame.separators := by
  induction count with
  | zero => rfl
  | succ count ih => exact ih

theorem separators_frameNumberBlanked (frame : TubesFrame) (first width value : Nat) :
    (frameNumberBlanked frame first width value).separators = frame.separators := by
  rw [frameNumberBlanked]
  split
  · exact (separators_frameBlank _ _ _).trans (separators_frameNumber _ _ _ _)
  · exact separators_frameNumber _ _ _ _

/-- A frame is read by its figures, its unit and its point. -/
theorem readUncertainty_put {frame : TubesFrame} {value stepNs : Nat} {glyph : Byte}
    (figures : readFigures [frame.tube 0, frame.tube 1, frame.tube 2] = some value)
    (step : readStep glyph (frame.separators &&& tubesMiddleDot != 0) = some stepNs) :
    (frame.put 3 glyph).readUncertainty = some ⟨value, stepNs⟩ := by
  have same : (frame.put 3 glyph).separators = frame.separators := rfl
  rw [TubesFrame.readUncertainty, tube_put, tube_put, tube_put, tube_put, same]
  rw [if_neg (by decide), if_neg (by decide), if_neg (by decide), if_pos (by decide), figures, step]
  rfl

/-- The frame of a known uncertainty, as it is read. -/
theorem readUncertainty_render {view : DisplayView} (valid : view.uncertaintyValid = true)
    (within : view.uncertaintyNs ≤ displayUncertaintyMaxNs) :
    ∃ reading, (renderUncertainty view {}).readUncertainty = some reading ∧
      reading.Bounds view.uncertaintyNs := by
  obtain ⟨value, point, unit, stepNs, figures, three, step, bounds⟩ := uncertaintyFigures_spec within
  refine ⟨⟨value, stepNs⟩, ?_, bounds⟩
  have known : ¬(!view.uncertaintyValid || decide (displayUncertaintyMaxNs < view.uncertaintyNs)) =
      true := by
    rw [valid]
    simpa using within
  rw [renderUncertainty, if_neg known, figures]
  cases point with
  | true =>
      refine readUncertainty_put ?_ ?_
      · dsimp only
        rw [if_pos rfl, tube_light, tube_light, tube_light]
        by_cases small : value < 100
        · rw [if_pos small]
          exact readFigures_drawn {} three (.inr (.inl ⟨rfl, small⟩))
        · rw [if_neg small]
          exact readFigures_drawn {} three (.inl rfl)
      · have lit : (TubesFrame.light
            (if value < 100 then frameBlank (frameNumber {} 0 3 value) 0 1
            else frameNumber {} 0 3 value) tubesMiddleDot).separators = tubesMiddleDot := by
          rw [TubesFrame.light]
          dsimp only
          split <;> simp
        dsimp only
        rw [if_pos rfl, lit]
        exact step
  | false =>
      refine readUncertainty_put (readFigures_blanked {} three) ?_
      dsimp only
      rw [if_neg Bool.false_ne_true, separators_frameNumberBlanked]
      exact step

/-- The alarm's dot is not the point. -/
theorem readUncertainty_draw (settings : DisplaySettings) (view : DisplayView) :
    (DisplayMode.uncertainty.draw settings view).readUncertainty =
      (renderUncertainty view {}).readUncertainty := by
  have other (separators : Byte) :
      (separators ||| tubesStartDot) &&& tubesMiddleDot = separators &&& tubesMiddleDot := by
    rw [BitVec.and_or_distrib_right]
    exact BitVec.or_zero
  rw [DisplayMode.draw]
  split
  · rw [TubesFrame.readUncertainty, tube_light, tube_light, tube_light, tube_light]
    rw [TubesFrame.light, other]
    rfl
  · rfl

/-- A larger uncertainty is not read as less. -/
theorem UncertaintyReading.Bounds.le {reading reading' : UncertaintyReading} {ns ns' : Nat}
    (bounds : reading.Bounds ns) (bounds' : reading'.Bounds ns') (less : ns ≤ ns') :
    reading.ns ≤ reading'.ns := by
  have coarser : reading.stepNs ≤ reading'.stepNs := by
    by_contra finer
    have overflows := bounds.finest reading'.stepNs bounds'.step (Nat.lt_of_not_le finer)
    have held := Nat.mul_le_mul_right reading'.stepNs bounds'.figures
    have above := bounds'.above
    rw [UncertaintyReading.ns] at above
    omega
  obtain ⟨times, multiple⟩ :=
    (by decide : ∀ step ∈ uncertaintySteps, ∀ step' ∈ uncertaintySteps, step ≤ step' → step ∣ step')
      reading.stepNs bounds.step reading'.stepNs bounds'.step coarser
  have positive := (by decide : ∀ step ∈ uncertaintySteps, 0 < step) reading.stepNs bounds.step
  have close := bounds.close
  have above := bounds'.above
  rw [UncertaintyReading.ns] at close above ⊢
  rw [UncertaintyReading.ns]
  rw [multiple] at above ⊢
  have steps : reading.figures * reading.stepNs <
      (reading'.figures * times + 1) * reading.stepNs := by
    calc reading.figures * reading.stepNs < ns + reading.stepNs := close
      _ ≤ reading'.figures * (reading.stepNs * times) + reading.stepNs := by omega
      _ = (reading'.figures * times + 1) * reading.stepNs := by ring
  have fewer := Nat.le_of_lt_succ (Nat.lt_of_mul_lt_mul_right steps)
  calc reading.figures * reading.stepNs ≤ reading'.figures * times * reading.stepNs :=
        Nat.mul_le_mul_right _ fewer
    _ = reading'.figures * (reading.stepNs * times) := by ring

/-- **The uncertainty shown is a bound.** What is read off the tubes is the uncertainty
rounded up in the finest step that three figures hold, so it exceeds it by less than one of
its last figure, and a larger uncertainty is not read as less. -/
theorem uncertainty_shown (settings later : DisplaySettings) (view other : DisplayView)
    (valid : view.uncertaintyValid = true) (valid' : other.uncertaintyValid = true)
    (less : view.uncertaintyNs ≤ other.uncertaintyNs)
    (within : other.uncertaintyNs ≤ displayUncertaintyMaxNs) :
    ∃ reading reading',
      (DisplayMode.uncertainty.draw settings view).readUncertainty = some reading ∧
      (DisplayMode.uncertainty.draw later other).readUncertainty = some reading' ∧
      reading.Bounds view.uncertaintyNs ∧ reading'.Bounds other.uncertaintyNs ∧
      reading.ns ≤ reading'.ns := by
  obtain ⟨reading, read, bounds⟩ := readUncertainty_render valid (less.trans within)
  obtain ⟨reading', read', bounds'⟩ := readUncertainty_render valid' within
  exact ⟨reading, reading', (readUncertainty_draw settings view).trans read,
    (readUncertainty_draw later other).trans read', bounds, bounds', bounds.le bounds' less⟩

/-- A known uncertainty. -/
def uncertain (ns : Nat) : DisplayView where
  uncertaintyValid := true
  uncertaintyNs := ns

/-- 99.9 us, and a nanosecond more: 100 us. -/
theorem uncertainty_shown_carries :
    ∃ reading reading',
      (DisplayMode.uncertainty.draw {} (uncertain 99900)).readUncertainty = some reading ∧
      (DisplayMode.uncertainty.draw {} (uncertain 99901)).readUncertainty = some reading' ∧
      reading.Bounds 99900 ∧ reading'.Bounds 99901 ∧ reading.ns ≤ reading'.ns :=
  uncertainty_shown {} {} (uncertain 99900) (uncertain 99901) rfl rfl (by decide) (by decide)

end GpsClock.Display
