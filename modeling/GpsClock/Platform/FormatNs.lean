import GpsClock.Lib.Rounding
import GpsClock.Lib.Decimal

/-! # Time intervals to four figures

`utc_format_ns` and the ESP's `time_format_ns`. What they write is read back as a number of
nanoseconds, and every interval below 10^18 ns is written to within half its last place. Up
to 999.95 s it has four significant figures; at 999.95 s, which rounds to 1000.0 s, it has
five (`GpsClock.Platform.formatted_iff`).
-/

namespace GpsClock.Platform

/-- `units`. -/
def nsUnits : List (List Char) :=
  [['n', 's'], ['u', 's'], ['m', 's'], ['s']]

/-- `UTC_NS_TEXT`. -/
def utcNsText : Nat := 24

/-- `TIME_NS_TEXT`. -/
def timeNsText : Nat := 32

/-- The first loop: the largest unit that leaves a whole part, and its nanoseconds. `left`
is how many units are larger than the one reached. -/
def unitLoop (size : Nat) : Nat → Nat → Nat → Nat × Nat
  | 0, unit, scale => (unit, scale)
  | left + 1, unit, scale =>
      if scale * 1000 ≤ size then unitLoop size left (unit + 1) (scale * 1000) else (unit, scale)

/-- `decimals` before the loop. -/
def decimalsLeft (whole : Nat) : Nat :=
  if 1000 ≤ whole then 0 else if 100 ≤ whole then 1 else if 10 ≤ whole then 2 else 3

/-- `power`. -/
def decimalPower (decimals : Nat) : Nat :=
  if decimals = 3 then 1000 else if decimals = 2 then 100 else if decimals = 1 then 10 else 1

/-- `digits`. -/
def wholeDigits (whole : Nat) : Nat :=
  if 100 ≤ whole then 3 else if 10 ≤ whole then 2 else 1

/-- What the loop leaves: the unit, the decimals, and the figures, in units of the last. -/
structure NsFigures where
  unit : Nat
  decimals : Nat
  rounded : Nat
  deriving DecidableEq, Repr

/-- The second loop, in 64 bits: `none` where it is not done in so many rounds. -/
def figuresLoop (size : Nat) : Nat → Nat → Nat → Nat → Option NsFigures
  | 0, _, _, _ => none
  | rounds + 1, unit, scale, decimals =>
      let power := decimalPower decimals
      let rounded := (size * power + scale / 2) % 2 ^ 64 / scale
      let whole := rounded / power
      if 1000 ≤ whole ∧ unit < 3 then figuresLoop size rounds (unit + 1) (scale * 1000) 3
      else if 0 < decimals ∧ 4 < wholeDigits whole + decimals then
        figuresLoop size rounds unit scale (decimals - 1)
      else some ⟨unit, decimals, rounded⟩

/-- How many more rounds the loop can take: each takes a decimal off, or a larger unit. -/
def roundsLeft (unit decimals : Nat) : Nat :=
  4 * (3 - unit) + decimals

/-- `sign`. -/
def nsSign (ns : Int) (plus : Bool) : List Char :=
  if ns < 0 then ['-'] else if plus then ['+'] else []

/-- The text of the figures, the whole part printed from a word of so many bits. -/
def NsFigures.text (figures : NsFigures) (width : Nat) (sign : List Char) : List Char :=
  let power := decimalPower figures.decimals
  let whole := figures.rounded / power % 2 ^ width
  let unit := nsUnits.getD figures.unit []
  if figures.decimals = 0 then sign ++ Decimal.digits whole ++ ' ' :: unit
  else
    sign ++ Decimal.digits whole ++
      '.' :: (Decimal.padded figures.decimals (figures.rounded % power) ++ ' ' :: unit)

/-- The body the two functions share. -/
def formatNs (width : Nat) (ns : Int) (plus : Bool) : Option (List Char) :=
  let size := ns.natAbs
  let (unit, scale) := unitLoop size 3 0 1
  if unit = 0 then
    some (nsSign ns plus ++ Decimal.digits (size % 2 ^ 32) ++ ' ' :: nsUnits.getD 0 [])
  else
    let decimals := decimalsLeft (size / scale)
    (figuresLoop size (roundsLeft unit decimals + 1) unit scale decimals).map fun figures =>
      figures.text width (nsSign ns plus)

/-- `utc_format_ns`: `unsigned long` is 32 bits. -/
def utcFormatNs (ns : Int) (plus : Bool) : Option (List Char) :=
  formatNs 32 ns plus

/-- `time_format_ns`: `unsigned long long`, cut to the text's size. -/
def timeFormatNs (ns : Int) (plus : Bool) : Option (List Char) :=
  (formatNs 64 ns plus).map fun text => text.take (timeNsText - 1)

/-- The loop is done within the rounds it is given, whatever the size. -/
theorem figuresLoop_isSome (size rounds unit scale decimals : Nat)
    (enough : roundsLeft unit decimals < rounds) :
    (figuresLoop size rounds unit scale decimals).isSome = true := by
  induction rounds generalizing unit scale decimals with
  | zero => exact absurd enough (Nat.not_lt_zero _)
  | succ rounds ih =>
      rw [roundsLeft] at enough
      rw [figuresLoop]
      split
      · rename_i larger
        apply ih
        rw [roundsLeft]
        omega
      · split
        · rename_i fewer
          apply ih
          rw [roundsLeft]
          omega
        · rfl

/-! ## The figures -/

section Loop

variable {size scale unit decimals rounds : Nat}

theorem decimalPower_eq (most : decimals ≤ 3) : decimalPower decimals = 10 ^ decimals := by
  obtain rfl | rfl | rfl | rfl : decimals = 0 ∨ decimals = 1 ∨ decimals = 2 ∨ decimals = 3 := by
    omega
  all_goals rfl

theorem wholeDigits_le {whole width : Nat} (some : 1 ≤ width) (small : whole < 10 ^ width) :
    wholeDigits whole ≤ width := by
  obtain rfl | rfl | more : width = 1 ∨ width = 2 ∨ 3 ≤ width := by omega
  · rw [wholeDigits, if_neg (by omega), if_neg (by omega)]
  · rw [wholeDigits, if_neg (by omega)]
    split
    · exact le_rfl
    · exact Nat.le_succ 1
  · rw [wholeDigits]
    split
    · exact more
    · split <;> omega

/-- The whole part of four figures leaves as many digits as the decimals do not take. -/
theorem whole_lt {rounded : Nat} (most : decimals ≤ 3) (high : rounded ≤ 9999) :
    rounded / decimalPower decimals < 10 ^ (4 - decimals) := by
  rw [decimalPower_eq most]
  apply Nat.div_lt_of_lt_mul
  rw [← pow_add, Nat.add_sub_cancel' (by omega)]
  exact Nat.lt_succ_of_le high

/-- A round, where the product fits 64 bits. -/
theorem figuresLoop_succ (fits : size * decimalPower decimals + scale / 2 < 18446744073709551616) :
    figuresLoop size (rounds + 1) unit scale decimals =
      let rounded := Rounding.quotient (size * decimalPower decimals) scale
      let whole := rounded / decimalPower decimals
      if 1000 ≤ whole ∧ unit < 3 then figuresLoop size rounds (unit + 1) (scale * 1000) 3
      else if 0 < decimals ∧ 4 < wholeDigits whole + decimals then
        figuresLoop size rounds unit scale (decimals - 1)
      else some ⟨unit, decimals, rounded⟩ := by
  have kept : (size * decimalPower decimals + scale / 2) % 2 ^ 64 =
      size * decimalPower decimals + scale / 2 := Nat.mod_eq_of_lt fits
  rw [figuresLoop, Rounding.quotient, kept]

/-- Four figures end the loop. -/
theorem figuresLoop_settles (least : 1 ≤ decimals) (most : decimals ≤ 3)
    (fits : size * decimalPower decimals + scale / 2 < 18446744073709551616)
    (high : Rounding.quotient (size * decimalPower decimals) scale ≤ 9999) :
    figuresLoop size (rounds + 1) unit scale decimals =
      some ⟨unit, decimals, Rounding.quotient (size * decimalPower decimals) scale⟩ := by
  rw [figuresLoop_succ fits]
  dsimp only
  have whole := whole_lt most high
  rw [if_neg, if_neg]
  · rintro ⟨-, many⟩
    have few := wholeDigits_le (by omega) whole
    omega
  · rintro ⟨many, -⟩
    have thousand : 10 ^ (4 - decimals) ≤ 1000 :=
      Nat.pow_le_pow_right (by decide) (by omega : 4 - decimals ≤ 3)
    exact Nat.not_le.mpr whole (thousand.trans many)

/-- A carry into another digit takes a decimal off. -/
theorem figuresLoop_carries (least : 2 ≤ decimals) (most : decimals ≤ 3)
    (fits : size * decimalPower decimals + scale / 2 < 18446744073709551616)
    (carry : Rounding.quotient (size * decimalPower decimals) scale = 10000) :
    figuresLoop size (rounds + 1) unit scale decimals =
      figuresLoop size rounds unit scale (decimals - 1) := by
  rw [figuresLoop_succ fits]
  dsimp only
  rw [carry]
  obtain rfl | rfl : decimals = 2 ∨ decimals = 3 := by omega
  · rfl
  · rfl

/-- With no decimals left to take but one, a carry goes into the next unit, if there is one. -/
theorem figuresLoop_next (fits : size * decimalPower 1 + scale / 2 < 18446744073709551616)
    (carry : Rounding.quotient (size * decimalPower 1) scale = 10000) :
    figuresLoop size (rounds + 1) unit scale 1 =
      if unit < 3 then figuresLoop size rounds (unit + 1) (scale * 1000) 3
      else some ⟨unit, 1, 10000⟩ := by
  rw [figuresLoop_succ fits]
  dsimp only
  rw [carry]
  by_cases larger : unit < 3
  · rw [if_pos ⟨by decide, larger⟩, if_pos larger]
  · rw [if_neg fun next => larger next.2, if_neg (by decide), if_neg larger]

/-- With no decimals nothing is taken off in the largest unit. -/
theorem figuresLoop_whole (fits : size * decimalPower 0 + scale / 2 < 18446744073709551616) :
    figuresLoop size (rounds + 1) 3 scale 0 =
      some ⟨3, 0, Rounding.quotient (size * decimalPower 0) scale⟩ := by
  rw [figuresLoop_succ fits]
  dsimp only
  rw [if_neg fun next => absurd next.2 (by decide), if_neg fun fewer => absurd fewer.1 (by decide)]

/-- The figures are the size, rounded in their unit and decimals. -/
structure Rounds (size : Nat) (figures : NsFigures) : Prop where
  unitMost : figures.unit ≤ 3
  decimals : figures.decimals ≤ 3
  rounded : figures.rounded =
    Rounding.quotient (size * decimalPower figures.decimals) (1000 ^ figures.unit)
  whole : figures.rounded / decimalPower figures.decimals ≤ 1000000000

/-- They are four, short of the carry out of the largest unit. -/
structure Shows (size : Nat) (figures : NsFigures) : Prop extends Rounds size figures where
  four : size < 999950000000 →
    1 ≤ figures.decimals ∧ 1000 ≤ figures.rounded ∧ figures.rounded ≤ 9999
  carry : 999950000000 ≤ size → size < 1000000000000 → figures = ⟨3, 1, 10000⟩

/-- The decimals the loop starts with leave four figures, or a carry. -/
theorem decimalsLeft_range (positive : 0 < scale) (low : scale ≤ size)
    (high : size < 1000 * scale) :
    let decimals := decimalsLeft (size / scale)
    (1 ≤ decimals ∧ decimals ≤ 3) ∧ 1000 * scale ≤ size * decimalPower decimals ∧
      size * decimalPower decimals < 10000 * scale := by
  have few : size / scale < 1000 := (Nat.div_lt_iff_lt_mul positive).mpr high
  have tens := Nat.le_div_iff_mul_le (x := 10) (y := size) positive
  have hundreds := Nat.le_div_iff_mul_le (x := 100) (y := size) positive
  dsimp only
  rw [decimalsLeft, if_neg (Nat.not_le.mpr few)]
  split
  · refine ⟨by decide, ?_⟩
    change _ ≤ size * 10 ∧ size * 10 < _
    omega
  · split
    · refine ⟨by decide, ?_⟩
      change _ ≤ size * 100 ∧ size * 100 < _
      omega
    · refine ⟨by decide, ?_⟩
      change _ ≤ size * 1000 ∧ size * 1000 < _
      omega

theorem quotient_range {amount : Nat} (positive : 0 < scale) (low : 1000 * scale ≤ amount)
    (high : amount < 10000 * scale) :
    1000 ≤ Rounding.quotient amount scale ∧ Rounding.quotient amount scale ≤ 10000 := by
  constructor
  · apply (Rounding.le_quotient positive).mpr
    omega
  · apply Nat.le_of_lt_succ
    apply (Rounding.quotient_lt positive).mpr
    omega

/-- A carry leaves a thousand of ten times the unit of last place. -/
theorem quotient_carried {amount : Nat} (positive : 0 < scale)
    (carry : 10000 ≤ Rounding.quotient (amount * 10) scale) (high : amount < 1000 * scale) :
    Rounding.quotient amount scale = 1000 := by
  have reached := (Rounding.le_quotient positive).mp carry
  apply Nat.le_antisymm
  · apply Nat.le_of_lt_succ
    apply (Rounding.quotient_lt positive).mpr
    omega
  · apply (Rounding.le_quotient positive).mpr
    omega

/-- The largest unit's scale, and a bound on the others'. -/
theorem scale_of_unit (unitLeast : 1 ≤ unit) (unitMost : unit ≤ 3) (power : scale = 1000 ^ unit) :
    0 < scale ∧ (unit < 3 → scale ≤ 1000000) ∧ (unit = 3 → scale = 1000000000) := by
  obtain rfl | rfl | rfl : unit = 1 ∨ unit = 2 ∨ unit = 3 := by omega
  all_goals
    rw [power]
    decide

theorem whole_small (rounded : Nat) (few : rounded ≤ 10000) :
    rounded / decimalPower decimals ≤ 1000000000 :=
  (Nat.div_le_self _ _).trans (few.trans (by decide))

/-- Four figures are short of the carry. -/
theorem shows_four (unitLeast : 1 ≤ unit) (unitMost : unit ≤ 3) (least : 1 ≤ decimals)
    (most : decimals ≤ 3) (power : scale = 1000 ^ unit)
    (low : 1000 ≤ Rounding.quotient (size * decimalPower decimals) scale)
    (high : Rounding.quotient (size * decimalPower decimals) scale ≤ 9999) :
    Shows size ⟨unit, decimals, Rounding.quotient (size * decimalPower decimals) scale⟩ := by
  obtain ⟨positive, small, largest⟩ := scale_of_unit unitLeast unitMost power
  have above := (Rounding.quotient_lt positive).mp (Nat.lt_succ_of_le high)
  have tenth : 10 ≤ decimalPower decimals := by
    rw [decimalPower_eq most]
    exact Nat.le_self_pow (by omega) 10
  have scaled := Nat.mul_le_mul_left size tenth
  refine ⟨⟨unitMost, most, by rw [power], whole_small _ (high.trans (by decide))⟩,
    fun _ => ⟨least, low, high⟩, ?_⟩
  intro beyond _
  rcases Nat.lt_or_ge unit 3 with smaller | last
  · have := small smaller
    omega
  · have := largest (Nat.le_antisymm unitMost last)
    omega

/-- Below a thousand of the unit, the loop leaves four figures, with a carry at most. -/
theorem figuresLoop_shows (unitLeast : 1 ≤ unit) (unitMost : unit ≤ 3)
    (power : scale = 1000 ^ unit) (low : scale ≤ size) (high : size < 1000 * scale) :
    ∃ figures, figuresLoop size (roundsLeft unit (decimalsLeft (size / scale)) + 1) unit scale
        (decimalsLeft (size / scale)) = some figures ∧ Shows size figures := by
  obtain ⟨positive, small, largest⟩ := scale_of_unit unitLeast unitMost power
  obtain ⟨⟨least, most⟩, amountLow, amountHigh⟩ := decimalsLeft_range positive low high
  obtain ⟨roundedLow, roundedHigh⟩ := quotient_range positive amountLow amountHigh
  have scaleMost : scale ≤ 1000000000 := by omega
  generalize decimalsLeft (size / scale) = decimals at *
  have fits : size * decimalPower decimals + scale / 2 < 18446744073709551616 := by omega
  rcases Nat.lt_or_ge (Rounding.quotient (size * decimalPower decimals) scale) 10000 with
    short | carry
  · have four := Nat.le_of_lt_succ short
    exact ⟨_, figuresLoop_settles least most fits four,
      shows_four unitLeast unitMost least most power roundedLow four⟩
  · have carried := Nat.le_antisymm roundedHigh carry
    rcases Nat.lt_or_ge decimals 2 with one | more
    · obtain rfl : decimals = 1 := by omega
      rw [roundsLeft, figuresLoop_next fits carried]
      change 10000 ≤ Rounding.quotient (size * 10) scale at carry
      have reached := (Rounding.le_quotient positive).mp carry
      by_cases larger : unit < 3
      · rw [if_pos larger]
        have smallScale := small larger
        have wide : 0 < scale * 1000 := by omega
        have next : Rounding.quotient (size * decimalPower 3) (scale * 1000) = 1000 := by
          change Rounding.quotient (size * 1000) (scale * 1000) = 1000
          refine quotient_carried wide ((Rounding.le_quotient wide).mpr ?_) ?_
          · omega
          · omega
        have thousand : size * decimalPower 3 + scale * 1000 / 2 < 18446744073709551616 := by
          change size * 1000 + scale * 1000 / 2 < 18446744073709551616
          omega
        have four : Rounding.quotient (size * decimalPower 3) (scale * 1000) ≤ 9999 := by
          rw [next]
          decide
        exact ⟨_, figuresLoop_settles (by decide) le_rfl thousand four,
          shows_four (Nat.succ_pos unit) larger (by decide) le_rfl
            (by rw [pow_succ, ← power]) next.ge four⟩
      · rw [if_neg larger]
        obtain rfl : unit = 3 := by omega
        have whole := largest rfl
        refine ⟨⟨3, 1, 10000⟩, rfl, ⟨unitMost, by decide, ?_, by decide⟩, fun before => ?_,
          fun _ _ => rfl⟩
        · rw [← power]
          exact carried.symm
        · omega
    · obtain ⟨fewer, rfl⟩ : ∃ fewer, decimals = fewer + 1 := ⟨decimals - 1, by omega⟩
      have fewerMost : fewer ≤ 3 := by omega
      have fewerLeast : 1 ≤ fewer := Nat.le_of_succ_le_succ more
      have tenfold : size * decimalPower (fewer + 1) = size * decimalPower fewer * 10 := by
        rw [decimalPower_eq most, decimalPower_eq fewerMost, pow_succ, Nat.mul_assoc]
      rw [roundsLeft, ← Nat.add_assoc, figuresLoop_carries more most fits carried]
      rw [tenfold] at carry amountHigh fits
      have next := quotient_carried positive carry (by omega)
      have four : Rounding.quotient (size * decimalPower fewer) scale ≤ 9999 := by
        rw [next]
        decide
      have room : size * decimalPower fewer + scale / 2 < 18446744073709551616 := by omega
      exact ⟨_, figuresLoop_settles fewerLeast fewerMost room four,
        shows_four unitLeast unitMost fewerLeast fewerMost power next.ge four⟩

/-- From a thousand seconds on, the whole seconds. -/
theorem figuresLoop_seconds (low : 1000000000000 ≤ size) (high : size < 1000000000000000000) :
    ∃ figures, figuresLoop size (roundsLeft 3 (decimalsLeft (size / 1000000000)) + 1) 3 1000000000
        (decimalsLeft (size / 1000000000)) = some figures ∧ Shows size figures := by
  have many : 1000 ≤ size / 1000000000 := by omega
  have fits : size * decimalPower 0 + 1000000000 / 2 < 18446744073709551616 := by
    change size * 1 + 1000000000 / 2 < 18446744073709551616
    omega
  rw [decimalsLeft, if_pos many]
  refine ⟨_, figuresLoop_whole fits, ⟨le_rfl, Nat.zero_le 3, rfl, ?_⟩, fun before => ?_,
    fun _ before => ?_⟩
  · change Rounding.quotient (size * 1) 1000000000 / 1 ≤ 1000000000
    rw [Nat.div_one, Nat.mul_one]
    apply Nat.le_of_lt_succ
    apply (Rounding.quotient_lt (by decide)).mpr
    omega
  · omega
  · omega

/-- The unit the first loop finds, for a size it does not print in nanoseconds. -/
theorem unitLoop_spec (low : 1000 ≤ size) :
    ∃ unit, unitLoop size 3 0 1 = (unit, 1000 ^ unit) ∧ 1 ≤ unit ∧ unit ≤ 3 ∧
      1000 ^ unit ≤ size ∧ (unit < 3 → size < 1000 * 1000 ^ unit) := by
  rw [unitLoop, if_pos low, unitLoop]
  by_cases thousand : 1 * 1000 * 1000 ≤ size
  · rw [if_pos thousand, unitLoop]
    by_cases million : 1 * 1000 * 1000 * 1000 ≤ size
    · rw [if_pos million, unitLoop]
      exact ⟨3, rfl, by decide, le_rfl, million, fun wrong => absurd wrong (by decide)⟩
    · rw [if_neg million]
      exact ⟨2, rfl, by decide, by decide, thousand, fun _ => Nat.lt_of_not_le million⟩
  · rw [if_neg thousand]
    exact ⟨1, rfl, by decide, by decide, low, fun _ => Nat.lt_of_not_le thousand⟩

end Loop

/-! ## What a text says -/

/-- A text's sign, its digits before and after the point, and its unit. -/
structure NsReading where
  negative : Bool
  whole : List Char
  fraction : List Char
  unit : Nat
  deriving DecidableEq, Repr

/-- The sign, then the digits, then, past a point, more of them, and last the unit's name. -/
def readNs (text : List Char) : NsReading :=
  let body := if text.head? = some '-' ∨ text.head? = some '+' then text.tail else text
  let rest := body.dropWhile Char.isDigit
  { negative := text.head? == some '-'
    whole := body.takeWhile Char.isDigit
    fraction := if rest.head? = some '.' then rest.tail.takeWhile Char.isDigit else []
    unit := nsUnits.idxOf ((text.dropWhile (· != ' ')).tail) }

namespace NsReading

/-- All its digits as one number. -/
def figures (reading : NsReading) : Nat :=
  Decimal.read (reading.whole ++ reading.fraction)

/-- One of its last place, in nanoseconds. -/
def lastPlace (reading : NsReading) : ℚ :=
  1000 ^ reading.unit / 10 ^ reading.fraction.length

/-- The nanoseconds it says. -/
def nanoseconds (reading : NsReading) : ℚ :=
  (if reading.negative then -1 else 1) * reading.figures * reading.lastPlace

/-- Four digits, the first of them not a zero, with a whole part, and in the largest unit
that leaves one. -/
structure FourFigures (reading : NsReading) : Prop where
  digits : (reading.whole ++ reading.fraction).length = 4
  leading : 1000 ≤ reading.figures
  wholePart : 0 < Decimal.read reading.whole
  largest : reading.unit < 3 → Decimal.read reading.whole < 1000

end NsReading

section Reading

variable {sign whole fraction name : List Char} {unit : Nat}

/-- A sign as `nsSign` gives it. -/
def IsSign (sign : List Char) : Prop :=
  sign = [] ∨ sign = ['-'] ∨ sign = ['+']

theorem nsSign_isSign (ns : Int) (plus : Bool) : IsSign (nsSign ns plus) := by
  rw [nsSign]
  split
  · exact .inr (.inl rfl)
  · split
    · exact .inr (.inr rfl)
    · exact .inl rfl

/-- The sign comes off, for a digit follows it. -/
theorem body_eq (signed : IsSign sign) (rest : List Char) (starts : whole ≠ [])
    (digits : ∀ char ∈ whole, char.isDigit = true) :
    (if (sign ++ (whole ++ rest)).head? = some '-' ∨ (sign ++ (whole ++ rest)).head? = some '+' then
        (sign ++ (whole ++ rest)).tail
      else sign ++ (whole ++ rest)) = whole ++ rest ∧
      ((sign ++ (whole ++ rest)).head? == some '-') = decide (sign = ['-']) := by
  rcases signed with rfl | rfl | rfl
  · obtain ⟨first, more, rfl⟩ := List.exists_cons_of_ne_nil starts
    have digit := digits first (.head _)
    have minus : first ≠ '-' := by
      rintro rfl
      cases digit
    have plus : first ≠ '+' := by
      rintro rfl
      cases digit
    simp [minus, plus]
  · simp
  · simp

/-- The unit's name is what follows the space. -/
theorem name_eq (signed : IsSign sign) (middle name : List Char)
    (figures : ∀ char ∈ middle, char.isDigit = true ∨ char = '.') :
    ((sign ++ (middle ++ ' ' :: name)).dropWhile (· != ' ')).tail = name := by
  rw [← List.append_assoc, List.dropWhile_append_of_pos]
  · simp
  · intro char member
    rcases List.mem_append.mp member with inSign | inMiddle
    · rcases signed with rfl | rfl | rfl
      · cases inSign
      · rw [List.mem_singleton.mp inSign]
        rfl
      · rw [List.mem_singleton.mp inSign]
        rfl
    · rcases figures char inMiddle with digit | rfl
      · rw [bne_iff_ne]
        rintro rfl
        cases digit
      · rfl

/-- A text with no point reads as its parts. -/
theorem readNs_whole (signed : IsSign sign) (starts : whole ≠ [])
    (digits : ∀ char ∈ whole, char.isDigit = true) :
    readNs (sign ++ whole ++ ' ' :: name) =
      ⟨decide (sign = ['-']), whole, [], nsUnits.idxOf name⟩ := by
  obtain ⟨body, negative⟩ := body_eq signed (' ' :: name) starts digits
  obtain ⟨taken, left⟩ := Decimal.takeWhile_append (' ' :: name) digits
    (by rintro char ⟨⟩; rfl)
  rw [readNs, List.append_assoc, body, negative, taken, left,
    name_eq signed whole name fun char member => .inl (digits char member)]
  rfl

/-- A text with a point reads as its parts. -/
theorem readNs_point (signed : IsSign sign) (starts : whole ≠ [])
    (digits : ∀ char ∈ whole, char.isDigit = true)
    (decimals : ∀ char ∈ fraction, char.isDigit = true) :
    readNs (sign ++ whole ++ '.' :: (fraction ++ ' ' :: name)) =
      ⟨decide (sign = ['-']), whole, fraction, nsUnits.idxOf name⟩ := by
  obtain ⟨body, negative⟩ := body_eq signed ('.' :: (fraction ++ ' ' :: name)) starts digits
  obtain ⟨taken, left⟩ := Decimal.takeWhile_append ('.' :: (fraction ++ ' ' :: name)) digits
    (by rintro char ⟨⟩; rfl)
  obtain ⟨after, -⟩ := Decimal.takeWhile_append (' ' :: name) decimals
    (by rintro char ⟨⟩; rfl)
  have named := name_eq signed (whole ++ '.' :: fraction) name (by
    intro char member
    rcases List.mem_append.mp member with inWhole | inRest
    · exact .inl (digits char inWhole)
    · rcases List.mem_cons.mp inRest with rfl | inFraction
      · exact .inr rfl
      · exact .inl (decimals char inFraction))
  rw [List.append_assoc, List.cons_append] at named
  rw [readNs, List.append_assoc, body, negative, taken, left, named]
  simp only [List.head?_cons, if_true, List.tail_cons, after]

theorem idxOf_unit (unitMost : unit ≤ 3) : nsUnits.idxOf (nsUnits.getD unit []) = unit := by
  obtain rfl | rfl | rfl | rfl : unit = 0 ∨ unit = 1 ∨ unit = 2 ∨ unit = 3 := by omega
  all_goals rfl

theorem unit_length (unitMost : unit ≤ 3) : (nsUnits.getD unit []).length ≤ 2 := by
  obtain rfl | rfl | rfl | rfl : unit = 0 ∨ unit = 1 ∨ unit = 2 ∨ unit = 3 := by omega
  all_goals decide

end Reading

namespace Rounds

variable {size width : Nat} {figures : NsFigures} {sign : List Char}

/-- The fraction's digits, none of them where the figures have no decimals. -/
def fractionDigits (figures : NsFigures) : List Char :=
  if figures.decimals = 0 then []
  else Decimal.padded figures.decimals (figures.rounded % decimalPower figures.decimals)

theorem fractionDigits_length (rounds : Rounds size figures) :
    (fractionDigits figures).length = figures.decimals := by
  rw [fractionDigits]
  split
  · rename_i none
    rw [none]
    rfl
  · rename_i some
    apply Decimal.padded_length (Nat.pos_of_ne_zero some)
    rw [decimalPower_eq rounds.decimals]
    exact Nat.mod_lt _ (by positivity)

/-- The text reads as the figures it was made of. -/
theorem readNs_text (rounds : Rounds size figures) (signed : IsSign sign)
    (wide : 1000000000 < 2 ^ width) :
    readNs (figures.text width sign) =
      ⟨decide (sign = ['-']), Decimal.digits (figures.rounded / decimalPower figures.decimals),
        fractionDigits figures, figures.unit⟩ := by
  have whole := Nat.mod_eq_of_lt (lt_of_le_of_lt rounds.whole wide)
  rw [NsFigures.text, whole, fractionDigits]
  by_cases none : figures.decimals = 0
  · rw [if_pos none, if_pos none, readNs_whole signed Decimal.digits_ne_nil
      fun _ member => Decimal.digits_isDigit member, idxOf_unit rounds.unitMost]
  · rw [if_neg none, if_neg none, readNs_point signed Decimal.digits_ne_nil
      (fun _ member => Decimal.digits_isDigit member) fun _ member => Decimal.padded_isDigit member,
      idxOf_unit rounds.unitMost]

theorem text_length (rounds : Rounds size figures) (signed : IsSign sign)
    (wide : 1000000000 < 2 ^ width) : (figures.text width sign).length ≤ 18 := by
  have whole := Nat.mod_eq_of_lt (lt_of_le_of_lt rounds.whole wide)
  have name := unit_length rounds.unitMost
  have decimals := rounds.decimals
  have fraction := rounds.fractionDigits_length
  have one : sign.length ≤ 1 := by
    rcases signed with rfl | rfl | rfl
    · exact Nat.zero_le 1
    · exact le_rfl
    · exact le_rfl
  have ten : (Decimal.digits (figures.rounded / decimalPower figures.decimals)).length ≤ 10 :=
    Decimal.digits_length_le (by decide) (lt_of_le_of_lt rounds.whole (by decide))
  rw [fractionDigits] at fraction
  rw [NsFigures.text, whole]
  by_cases none : figures.decimals = 0
  · rw [if_pos none, List.length_append, List.length_append, List.length_cons]
    omega
  · rw [if_neg none] at fraction ⊢
    rw [List.length_append, List.length_append, List.length_cons, List.length_append,
      List.length_cons, fraction]
    omega

/-- The text is the same from any word that holds the whole part. -/
theorem text_width (rounds : Rounds size figures) {wider : Nat} (wide : 1000000000 < 2 ^ width)
    (enough : 1000000000 < 2 ^ wider) : figures.text wider sign = figures.text width sign := by
  have whole := Nat.mod_eq_of_lt (lt_of_le_of_lt rounds.whole wide)
  have same := Nat.mod_eq_of_lt (lt_of_le_of_lt rounds.whole enough)
  rw [NsFigures.text, NsFigures.text, whole, same]

/-- The digits together are the figures. -/
theorem figures_eq (rounds : Rounds size figures) :
    Decimal.read (Decimal.digits (figures.rounded / decimalPower figures.decimals) ++
      fractionDigits figures) = figures.rounded := by
  rw [Decimal.read_append, rounds.fractionDigits_length, ← decimalPower_eq rounds.decimals,
    Decimal.read_digits]
  by_cases none : figures.decimals = 0
  · rw [fractionDigits, if_pos none, none]
    change 1 * (figures.rounded / 1) + 0 = _
    rw [Nat.div_one, Nat.one_mul, Nat.add_zero]
  · rw [fractionDigits, if_neg none, Decimal.read_padded, Nat.div_add_mod]

/-- The figures are within half their last place of the size. -/
theorem near (rounds : Rounds size figures) :
    |(figures.rounded : ℚ) * (1000 ^ figures.unit / 10 ^ figures.decimals) - size| ≤
      1000 ^ figures.unit / 10 ^ figures.decimals / 2 := by
  obtain ⟨low, high⟩ := @Rounding.quotient_near (size * decimalPower figures.decimals)
    (1000 ^ figures.unit) (by positivity)
  rw [← rounds.rounded, decimalPower_eq rounds.decimals] at low high
  have place : (0 : ℚ) < 10 ^ figures.decimals := by positivity
  have lowQ : (2 : ℚ) * figures.rounded * 1000 ^ figures.unit ≤
      2 * (size * 10 ^ figures.decimals) + 1000 ^ figures.unit := by exact_mod_cast low
  have highQ : (2 : ℚ) * (size * 10 ^ figures.decimals) ≤
      2 * figures.rounded * 1000 ^ figures.unit + 1000 ^ figures.unit := by exact_mod_cast high
  have scaled : (figures.rounded : ℚ) * (1000 ^ figures.unit / 10 ^ figures.decimals) - size =
      (figures.rounded * 1000 ^ figures.unit - size * 10 ^ figures.decimals) /
        10 ^ figures.decimals := by
    field_simp
  rw [scaled, abs_div, abs_of_pos place, div_right_comm, div_le_div_iff_of_pos_right place,
    abs_le]
  constructor <;> linarith

end Rounds

/-- What is claimed of an interval's text. -/
def Formatted (ns : Int) (plus : Bool) : Prop :=
  ∃ text, utcFormatNs ns plus = some text ∧ timeFormatNs ns plus = some text ∧
    text.length < utcNsText ∧
    |(readNs text).nanoseconds - ns| ≤ (readNs text).lastPlace / 2 ∧
    (1000 ≤ ns.natAbs → ns.natAbs ≤ 999950000000 → (readNs text).FourFigures)

variable {ns : Int} {plus : Bool} {figures : NsFigures}

/-- The text's number, with its sign, is as near the interval as the figures are to its
size. -/
theorem nanoseconds_near (rounds : Rounds ns.natAbs figures) :
    |(readNs (figures.text 32 (nsSign ns plus))).nanoseconds - ns| ≤
      (readNs (figures.text 32 (nsSign ns plus))).lastPlace / 2 := by
  have near := rounds.near
  have place : (readNs (figures.text 32 (nsSign ns plus))).lastPlace =
      1000 ^ figures.unit / 10 ^ figures.decimals := by
    rw [rounds.readNs_text (nsSign_isSign ns plus) (by decide), NsReading.lastPlace,
      rounds.fractionDigits_length]
  have amount : (readNs (figures.text 32 (nsSign ns plus))).figures = figures.rounded := by
    rw [rounds.readNs_text (nsSign_isSign ns plus) (by decide), NsReading.figures,
      rounds.figures_eq]
  have negative : (readNs (figures.text 32 (nsSign ns plus))).negative = decide (ns < 0) := by
    rw [rounds.readNs_text (nsSign_isSign ns plus) (by decide), nsSign]
    by_cases below : ns < 0
    · rw [if_pos below]
      simp [below]
    · rw [if_neg below]
      cases plus <;> simp [below]
  rw [NsReading.nanoseconds, place, amount, negative]
  have size : (ns.natAbs : ℚ) = |(ns : ℚ)| := by
    rw [← Int.cast_abs, Int.abs_eq_natAbs, Int.cast_natCast]
  rw [size] at near
  rcases lt_or_ge ns 0 with below | above
  · have signed : (ns : ℚ) < 0 := by exact_mod_cast below
    rw [abs_of_neg signed] at near
    rw [decide_eq_true below, if_pos rfl, ← abs_neg]
    convert near using 2
    ring
  · have signed : (0 : ℚ) ≤ ns := by exact_mod_cast above
    rw [abs_of_nonneg signed] at near
    rw [decide_eq_false (not_lt.mpr above), if_neg (by decide), one_mul]
    exact near

/-- What both functions write of the figures. -/
theorem texts_eq (rounds : Rounds ns.natAbs figures)
    (formats : ∀ width, formatNs width ns plus = some (figures.text 32 (nsSign ns plus)) ∨
      formatNs width ns plus = some (figures.text width (nsSign ns plus))) :
    utcFormatNs ns plus = some (figures.text 32 (nsSign ns plus)) ∧
      timeFormatNs ns plus = some (figures.text 32 (nsSign ns plus)) := by
  have length := rounds.text_length (nsSign_isSign ns plus) (by decide : 1000000000 < 2 ^ 32)
  have esp : formatNs 64 ns plus = some (figures.text 32 (nsSign ns plus)) := by
    rcases formats 64 with same | same
    · exact same
    · rw [same, rounds.text_width (by decide : 1000000000 < 2 ^ 32) (by decide)]
  refine ⟨(formats 32).elim id id, ?_⟩
  rw [timeFormatNs, esp, Option.map_some, List.take_of_length_le]
  exact length.trans (by decide)

/-- Short of a microsecond the nanoseconds are printed as they are. -/
theorem formatNs_nanoseconds (few : ns.natAbs < 1000) :
    Rounds ns.natAbs ⟨0, 0, ns.natAbs⟩ ∧
      ∀ width, formatNs width ns plus =
        some (NsFigures.text ⟨0, 0, ns.natAbs⟩ 32 (nsSign ns plus)) := by
  refine ⟨⟨Nat.zero_le 3, Nat.zero_le 3, ?_, ?_⟩, fun width => ?_⟩
  · change ns.natAbs = (ns.natAbs * 1 + 1 / 2) / 1
    omega
  · change ns.natAbs / 1 ≤ 1000000000
    omega
  · rw [formatNs, unitLoop, if_neg (by omega)]
    change some (nsSign ns plus ++ Decimal.digits (ns.natAbs % 2 ^ 32) ++ _) =
      some (nsSign ns plus ++ Decimal.digits (ns.natAbs / 1 % 2 ^ 32) ++ _)
    rw [Nat.div_one]

/-- From a microsecond on, the figures are printed. -/
theorem formatNs_figures (low : 1000 ≤ ns.natAbs) (high : ns.natAbs < 1000000000000000000) :
    ∃ figures, Shows ns.natAbs figures ∧
      ∀ width, formatNs width ns plus = some (figures.text width (nsSign ns plus)) := by
  obtain ⟨unit, found, least, most, reached, below⟩ := unitLoop_spec low
  have loop : ∃ figures, figuresLoop ns.natAbs
      (roundsLeft unit (decimalsLeft (ns.natAbs / 1000 ^ unit)) + 1) unit (1000 ^ unit)
      (decimalsLeft (ns.natAbs / 1000 ^ unit)) = some figures ∧ Shows ns.natAbs figures := by
    rcases Nat.lt_or_ge ns.natAbs (1000 * 1000 ^ unit) with small | large
    · exact figuresLoop_shows least most rfl reached small
    · obtain rfl : unit = 3 := by
        rcases Nat.lt_or_ge unit 3 with smaller | last
        · exact absurd (below smaller) (Nat.not_lt.mpr large)
        · exact Nat.le_antisymm most last
      exact figuresLoop_seconds large high
  obtain ⟨figures, ends, shows⟩ := loop
  refine ⟨figures, shows, fun width => ?_⟩
  rw [formatNs, found]
  dsimp only
  rw [if_neg (by omega), ends]
  rfl

/-- Below the carry out of the largest unit the text has four figures. -/
theorem Shows.fourFigures (shows : Shows ns.natAbs figures) (below : ns.natAbs < 999950000000) :
    (readNs (figures.text 32 (nsSign ns plus))).FourFigures := by
  obtain ⟨least, low, high⟩ := shows.four below
  have rounds := shows.toRounds
  have power := decimalPower_eq rounds.decimals
  have whole := whole_lt rounds.decimals high
  have more : 10 ^ (3 - figures.decimals) ≤ figures.rounded / decimalPower figures.decimals := by
    rw [power]
    apply (Nat.le_div_iff_mul_le (by positivity)).mpr
    rw [← pow_add, Nat.sub_add_cancel rounds.decimals]
    exact low
  have next : 4 - figures.decimals = 3 - figures.decimals + 1 := by
    have := rounds.decimals
    omega
  rw [rounds.readNs_text (nsSign_isSign ns plus) (by decide)]
  refine ⟨?_, ?_, ?_, fun _ => ?_⟩
  · dsimp only
    rw [next] at whole
    rw [List.length_append, Decimal.digits_length more whole, rounds.fractionDigits_length]
    omega
  · rw [NsReading.figures, rounds.figures_eq]
    exact low
  · rw [Decimal.read_digits]
    exact lt_of_lt_of_le (by positivity) more
  · rw [Decimal.read_digits]
    refine lt_of_lt_of_le whole ?_
    exact Nat.pow_le_pow_right (by decide) (by omega : 4 - figures.decimals ≤ 3)

/-- Every interval's text is as claimed but that of 999.95 s exactly, which has five
figures. -/
theorem formatted_iff (ns : Int) (plus : Bool) (below : ns.natAbs < 1000000000000000000) :
    Formatted ns plus ↔ ns.natAbs ≠ 999950000000 := by
  rcases Nat.lt_or_ge ns.natAbs 1000 with few | many
  · obtain ⟨rounds, formats⟩ := @formatNs_nanoseconds ns plus few
    obtain ⟨utc, esp⟩ := texts_eq rounds fun width => .inl (formats width)
    have length := rounds.text_length (nsSign_isSign ns plus) (by decide : 1000000000 < 2 ^ 32)
    refine iff_of_true ⟨_, utc, esp, lt_of_le_of_lt length (by decide), nanoseconds_near rounds,
      fun wrong => absurd wrong (Nat.not_le.mpr few)⟩ ?_
    omega
  · obtain ⟨figures, shows, formats⟩ := @formatNs_figures ns plus many below
    have rounds := shows.toRounds
    obtain ⟨utc, esp⟩ := texts_eq rounds fun width => .inr (formats width)
    have length := rounds.text_length (nsSign_isSign ns plus) (by decide : 1000000000 < 2 ^ 32)
    constructor
    · rintro ⟨text, written, -, -, -, four⟩ exactly
      obtain rfl : figures.text 32 (nsSign ns plus) = text :=
        Option.some.inj (utc.symm.trans written)
      have digits := (four many exactly.le).digits
      rw [rounds.readNs_text (nsSign_isSign ns plus) (by decide),
        shows.carry exactly.ge (by rw [exactly]; decide)] at digits
      exact absurd digits
        (by decide : ¬(Decimal.digits (10000 / 10) ++ Rounds.fractionDigits ⟨3, 1, 10000⟩).length = 4)
    · intro other
      refine ⟨_, utc, esp, lt_of_le_of_lt length (by decide), nanoseconds_near rounds,
        fun _ high => shows.fourFigures (lt_of_le_of_ne high other)⟩

/-- The carry out of microseconds gives four figures. -/
theorem formatted_carry : Formatted (-999950) false :=
  (formatted_iff (-999950) false (by decide)).mpr (by decide)

/-- 999.95 s is written 1000.0 s. -/
theorem not_formatted : ¬Formatted 999950000000 false := by
  rintro ⟨text, written, -, -, -, four⟩
  have shown : utcFormatNs 999950000000 false =
      some ['1', '0', '0', '0', '.', '0', ' ', 's'] := by decide +kernel
  obtain rfl := Option.some.inj (shown.symm.trans written)
  exact absurd (four (by decide) (by decide)).digits (by decide +kernel)

end GpsClock.Platform
