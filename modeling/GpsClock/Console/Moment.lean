import GpsClock.Console.Parse

/-! # Moments typed back

`time_text.cpp` prints a moment in one of the layouts `parse_moment` reads. Every text of a layout is
read as the moment it denotes, or refused where a field is out of its range
(`GpsClock.Console.parseMoment_text`), so that what is printed reads back
(`GpsClock.Console.moments_read_back`).
-/

namespace GpsClock.Console

open GpsClock.Platform Calendar

/-! ## Runs of digits -/

/-- What follows does not go on with a digit. -/
def NoDigit (rest : List Char) : Prop :=
  ∀ char ∈ rest.head?, char.isDigit = false

theorem read_cons (char : Char) (text : List Char) (parsed : Nat) :
    Nat.ofDigitChars 10 (char :: text) parsed =
      Nat.ofDigitChars 10 text (parsed * 10 + digitValue char) := by
  rw [Nat.mul_comm parsed]
  rfl

theorem fixedDigitsLoop_append {run : List Char} (digit : ∀ char ∈ run, char.isDigit = true)
    (parsed : Nat) (rest : List Char) :
    fixedDigitsLoop run.length parsed (run ++ rest) =
      some (Nat.ofDigitChars 10 run parsed, rest) := by
  induction run generalizing parsed with
  | nil => rfl
  | cons char run ih =>
      obtain ⟨here, there⟩ := List.forall_mem_cons.mp digit
      rw [List.length_cons, List.cons_append, fixedDigitsLoop, if_pos here, ih there, read_cons]

/-- As many digits as are asked for are read, whatever follows. -/
theorem fixedDigits_append {run : List Char} {count : Nat}
    (digit : ∀ char ∈ run, char.isDigit = true) (length : run.length = count) (rest : List Char) :
    fixedDigits (run ++ rest) count = some (Decimal.read run, rest) := by
  subst length
  exact fixedDigitsLoop_append digit 0 rest

theorem digitsLoop_append {run rest : List Char} {left : Nat}
    (digit : ∀ char ∈ run, char.isDigit = true) (few : run.length ≤ left) (ends : NoDigit rest)
    (parsed : Nat) :
    digitsLoop left parsed (run ++ rest) = some (Nat.ofDigitChars 10 run parsed, rest) := by
  induction run generalizing left parsed with
  | nil =>
      cases rest with
      | nil => rw [List.nil_append, digitsLoop, Nat.ofDigitChars_nil]
      | cons char rest =>
          have other : char.isDigit = false := ends char rfl
          rw [List.nil_append, digitsLoop.eq_def]
          dsimp only
          rw [if_neg (by rw [other]; exact Bool.false_ne_true), Nat.ofDigitChars_nil]
  | cons char run ih =>
      obtain ⟨here, there⟩ := List.forall_mem_cons.mp digit
      obtain ⟨fewer, rfl⟩ : ∃ fewer, left = fewer + 1 := by
        rw [List.length_cons] at few
        exact ⟨left - 1, by omega⟩
      rw [List.cons_append, digitsLoop.eq_def]
      dsimp only
      rw [if_pos here, read_cons]
      exact ih there (Nat.le_of_succ_le_succ few) _

/-- A run of digits no longer than is allowed is read up to its end. -/
theorem digits_append {run rest : List Char} {maxDigits : Nat}
    (digit : ∀ char ∈ run, char.isDigit = true) (some_ : run ≠ []) (few : run.length ≤ maxDigits)
    (ends : NoDigit rest) :
    digits (run ++ rest) maxDigits = some (Decimal.read run, rest) := by
  have longer : ¬rest.length = (run ++ rest).length := by
    have positive := List.length_pos_iff.mpr some_
    rw [List.length_append]
    omega
  rw [digits, digitsLoop_append digit few ends]
  dsimp only
  rw [if_neg longer]
  rfl

theorem digitRun_append {run rest : List Char} (digit : ∀ char ∈ run, char.isDigit = true)
    (ends : NoDigit rest) : digitRun (run ++ rest) = run.length := by
  rw [digitRun, (Decimal.takeWhile_append rest digit ends).1]

/-! ## Two digits -/

/-- A field of two digits. -/
def twoDigits (value : Fin 100) : List Char := Decimal.padded 2 value

theorem twoDigits_isDigit {value : Fin 100} : ∀ char ∈ twoDigits value, char.isDigit = true :=
  fun _ member => Decimal.padded_isDigit member

@[simp] theorem twoDigits_length (value : Fin 100) : (twoDigits value).length = 2 :=
  Decimal.padded_length (by decide) value.isLt

@[simp] theorem fixedDigits_two (value : Fin 100) (rest : List Char) :
    fixedDigits (twoDigits value ++ rest) 2 = some (value.val, rest) := by
  rw [fixedDigits_append twoDigits_isDigit (twoDigits_length value), twoDigits,
    Decimal.read_padded]

theorem digits_two (value : Fin 100) {rest : List Char} (ends : NoDigit rest) :
    digits (twoDigits value ++ rest) 2 = some (value.val, rest) := by
  have some_ : twoDigits value ≠ [] := by
    rw [← List.length_pos_iff, twoDigits_length]
    decide
  rw [digits_append twoDigits_isDigit some_ (twoDigits_length value).le ends, twoDigits,
    Decimal.read_padded]

theorem clockField_two (value : Fin 100) {rest : List Char} (ends : NoDigit rest) :
    clockField (twoDigits value ++ rest) =
      if value.val ≤ 59 then some (value.val, rest) else none := by
  have two : (twoDigits value ++ rest).length - rest.length = 2 := by
    rw [List.length_append, Nat.add_sub_cancel, twoDigits_length]
  rw [clockField, digits_two value ends]
  dsimp only
  rw [two]
  by_cases below : value.val ≤ 59
  · rw [if_pos below, if_neg (by omega)]
  · rw [if_neg below, if_pos (by omega)]

/-! ## The time -/

/-- Hours, in one digit or two. -/
inductive HourText
  | one (hours : Fin 10)
  | two (hours : Fin 100)
  deriving DecidableEq, Repr

def HourText.hours : HourText → Nat
  | .one hours => hours.val
  | .two hours => hours.val

def HourText.text : HourText → List Char
  | .one hours => Decimal.digits hours
  | .two hours => twoDigits hours

namespace HourText

variable (hour : HourText)

theorem isDigit : ∀ char ∈ hour.text, char.isDigit = true := by
  cases hour with
  | one hours => exact fun _ member => Decimal.digits_isDigit member
  | two hours => exact twoDigits_isDigit

theorem length : hour.text.length = 1 ∨ hour.text.length = 2 := by
  cases hour with
  | one hours =>
      have most : (Decimal.digits hours.val).length ≤ 1 :=
        Decimal.digits_length_le (by decide) hours.isLt
      have least := List.length_pos_iff.mpr (@Decimal.digits_ne_nil hours.val)
      exact .inl (le_antisymm most least)
  | two hours => exact .inr (twoDigits_length hours)

theorem ne_nil : hour.text ≠ [] := by
  have some_ := hour.length
  rw [← List.length_pos_iff]
  omega

theorem read : Decimal.read hour.text = hour.hours := by
  cases hour with
  | one hours => exact Decimal.read_digits
  | two hours => exact Decimal.read_padded

theorem digits {rest : List Char} (ends : NoDigit rest) :
    Console.digits (hour.text ++ rest) 2 = some (hour.hours, rest) := by
  have few : hour.text.length ≤ 2 := by
    have short := hour.length
    omega
  rw [digits_append hour.isDigit hour.ne_nil few ends, hour.read]

theorem digitRun {rest : List Char} (ends : NoDigit rest) :
    Console.digitRun (hour.text ++ rest) = 1 ∨ Console.digitRun (hour.text ++ rest) = 2 := by
  rw [digitRun_append hour.isDigit ends]
  exact hour.length

end HourText

/-- A time of day: extended, as far as it goes, or basic. -/
inductive ClockText
  | hours (hour : HourText)
  | minutes (hour : HourText) (minute : Fin 100)
  | seconds (hour : HourText) (minute second : Fin 100)
  | basicMinutes (hour minute : Fin 100)
  | basicSeconds (hour minute second : Fin 100)
  deriving DecidableEq, Repr

namespace ClockText

def text : ClockText → List Char
  | hours hour => hour.text
  | minutes hour minute => hour.text ++ ':' :: twoDigits minute
  | seconds hour minute second => hour.text ++ ':' :: (twoDigits minute ++ ':' :: twoDigits second)
  | basicMinutes hour minute => twoDigits hour ++ twoDigits minute
  | basicSeconds hour minute second => twoDigits hour ++ (twoDigits minute ++ twoDigits second)

def hour : ClockText → Nat
  | hours hour | minutes hour _ | seconds hour _ _ => hour.hours
  | basicMinutes hour _ | basicSeconds hour _ _ => hour.val

def minute : ClockText → Nat
  | hours _ => 0
  | minutes _ minute | seconds _ minute _ | basicMinutes _ minute | basicSeconds _ minute _ => minute.val

def second : ClockText → Nat
  | seconds _ _ second | basicSeconds _ _ second => second.val
  | hours _ | minutes _ _ | basicMinutes _ _ => 0

/-- A time of day that exists. -/
def InRange (clock : ClockText) : Prop :=
  clock.hour ≤ 23 ∧ clock.minute ≤ 59 ∧ clock.second ≤ 59

instance (clock : ClockText) : Decidable clock.InRange :=
  inferInstanceAs (Decidable (_ ∧ _))

/-- Its seconds since midnight. -/
def sinceMidnight (clock : ClockText) : Nat :=
  clock.hour * 3600 + clock.minute * 60 + clock.second

end ClockText

/-- What follows a time goes on with neither a digit nor a colon. -/
def ClockEnds (rest : List Char) : Prop :=
  ∀ char ∈ rest.head?, char.isDigit = false ∧ char ≠ ':'

theorem ClockEnds.noDigit {rest : List Char} (ends : ClockEnds rest) : NoDigit rest :=
  fun char member => (ends char member).1

theorem noDigit_colon (rest : List Char) : NoDigit (':' :: rest) := by
  intro char member
  obtain rfl : ':' = char := Option.some.inj member
  rfl

theorem past_of_ends {rest : List Char} (ends : ClockEnds rest) : past ':' rest = none := by
  cases rest with
  | nil => rfl
  | cons char rest => exact if_neg (ends char rfl).2

/-- The extended form: the minutes and the seconds below 60, the hours of any two digits. -/
theorem clockFields_text (hour : HourText) {rest : List Char} (ends : ClockEnds rest) :
    clockFields (hour.text ++ rest) = some (hour.hours * 3600, rest) ∧
      (∀ minute, clockFields (hour.text ++ ':' :: (twoDigits minute ++ rest)) =
        if minute.val ≤ 59 then some (hour.hours * 3600 + minute.val * 60, rest) else none) ∧
      ∀ minute second,
        clockFields (hour.text ++ ':' :: (twoDigits minute ++ ':' :: (twoDigits second ++ rest))) =
          if minute.val ≤ 59 ∧ second.val ≤ 59 then
            some (hour.hours * 3600 + minute.val * 60 + second.val, rest)
          else none := by
  refine ⟨?_, fun minute => ?_, fun minute second => ?_⟩
  · rw [clockFields, hour.digits ends.noDigit]
    dsimp only
    rw [past_of_ends ends]
  · rw [clockFields, hour.digits (noDigit_colon _)]
    dsimp only
    rw [past, if_pos rfl]
    dsimp only
    rw [clockField_two minute ends.noDigit]
    by_cases below : minute.val ≤ 59
    · rw [if_pos below, if_pos below]
      dsimp only
      rw [past_of_ends ends]
    · rw [if_neg below, if_neg below]
  · rw [clockFields, hour.digits (noDigit_colon _)]
    dsimp only
    rw [past, if_pos rfl]
    dsimp only
    rw [clockField_two minute (noDigit_colon _)]
    by_cases below : minute.val ≤ 59
    · rw [if_pos below]
      dsimp only
      rw [past, if_pos rfl]
      dsimp only
      rw [clockField_two second ends.noDigit]
      by_cases inMinute : second.val ≤ 59
      · rw [if_pos inMinute, if_pos ⟨below, inMinute⟩]
      · rw [if_neg inMinute, if_neg (fun both => inMinute both.2)]
    · rw [if_neg below, if_neg (fun both => below both.1)]

/-- The basic form, when the run is of as many digits as it has. -/
theorem basicClock_text (hour minute second : Fin 100) (rest : List Char) :
    basicClock (twoDigits hour ++ (twoDigits minute ++ rest)) 4 =
        (if (ClockText.basicMinutes hour minute).InRange then
          some ((ClockText.basicMinutes hour minute).sinceMidnight, rest) else none) ∧
      basicClock (twoDigits hour ++ (twoDigits minute ++ (twoDigits second ++ rest))) 6 =
        if (ClockText.basicSeconds hour minute second).InRange then
          some ((ClockText.basicSeconds hour minute second).sinceMidnight, rest) else none := by
  constructor
  · rw [basicClock, fixedDigits_two]
    dsimp only
    rw [fixedDigits_two]
    dsimp only
    rw [if_neg (by decide : ¬4 = 6)]
    dsimp only
    by_cases range : (ClockText.basicMinutes hour minute).InRange
    · obtain ⟨hours, minutes, -⟩ := id range
      rw [if_pos range, if_neg]
      · rfl
      · rintro (late | late | late)
        · exact Nat.not_lt.mpr hours late
        · exact Nat.not_lt.mpr minutes late
        · exact absurd late (by decide)
    · rw [if_neg range, if_pos]
      by_contra allowed
      rw [not_or, not_or, Nat.not_lt, Nat.not_lt] at allowed
      exact range ⟨allowed.1, allowed.2.1, Nat.zero_le _⟩
  · rw [basicClock, fixedDigits_two]
    dsimp only
    rw [fixedDigits_two]
    dsimp only
    rw [if_pos rfl, fixedDigits_two]
    dsimp only
    by_cases range : (ClockText.basicSeconds hour minute second).InRange
    · obtain ⟨hours, minutes, seconds⟩ := id range
      rw [if_pos range, if_neg]
      · rfl
      · rintro (late | late | late)
        · exact Nat.not_lt.mpr hours late
        · exact Nat.not_lt.mpr minutes late
        · exact Nat.not_lt.mpr seconds late
    · rw [if_neg range, if_pos]
      by_contra allowed
      rw [not_or, not_or, Nat.not_lt, Nat.not_lt, Nat.not_lt] at allowed
      exact range allowed

/-- A short run is the extended form's. -/
theorem extendedOrBasic_of_hour (hour : HourText) {rest : List Char} (ends : NoDigit rest) :
    extendedOrBasic (hour.text ++ rest) = extendedClock (hour.text ++ rest) := by
  have run := hour.digitRun ends
  have short : ¬(digitRun (hour.text ++ rest) = 4 ∨ digitRun (hour.text ++ rest) = 6) := by omega
  rw [extendedOrBasic, if_neg (fun basic => short basic.1)]

/-- A run of four digits or six is the basic form's. -/
theorem extendedOrBasic_of_run {run rest : List Char} (digit : ∀ char ∈ run, char.isDigit = true)
    (long : run.length = 4 ∨ run.length = 6) (ends : ClockEnds rest) :
    extendedOrBasic (run ++ rest) = basicClock (run ++ rest) run.length := by
  have after : (run ++ rest)[run.length]? ≠ some ':' := by
    rw [List.getElem?_append_right le_rfl, Nat.sub_self, ← List.head?_eq_getElem?]
    intro colon
    exact (ends ':' (Option.mem_def.mpr colon)).2 rfl
  rw [extendedOrBasic, digitRun_append digit ends.noDigit, if_pos ⟨long, after⟩]

/-- A time of day is read, or refused out of its range, whatever follows it. -/
theorem extendedOrBasic_text (clock : ClockText) {rest : List Char} (ends : ClockEnds rest) :
    extendedOrBasic (clock.text ++ rest) =
      if clock.InRange then some (clock.sinceMidnight, rest) else none := by
  cases clock with
  | hours hour =>
      rw [ClockText.text, extendedOrBasic_of_hour hour ends.noDigit,
        extendedClock, (clockFields_text hour ends).1]
      have range : (ClockText.hours hour).InRange ↔ hour.hours ≤ 23 :=
        ⟨fun range => range.1, fun few => ⟨few, Nat.zero_le _, Nat.zero_le _⟩⟩
      simp only [range, ClockText.sinceMidnight, ClockText.hour, ClockText.minute, ClockText.second]
      by_cases few : hour.hours ≤ 23
      · rw [if_neg (by omega), if_pos few, Nat.zero_mul, Nat.add_zero]
      · rw [if_pos (by omega), if_neg few]
  | minutes hour minute =>
      rw [ClockText.text, List.append_assoc, List.cons_append,
        extendedOrBasic_of_hour hour (noDigit_colon _), extendedClock,
        (clockFields_text hour ends).2.1]
      have range : (ClockText.minutes hour minute).InRange ↔ hour.hours ≤ 23 ∧ minute.val ≤ 59 :=
        ⟨fun range => ⟨range.1, range.2.1⟩, fun few => ⟨few.1, few.2, Nat.zero_le _⟩⟩
      simp only [range, ClockText.sinceMidnight, ClockText.hour, ClockText.minute, ClockText.second]
      by_cases below : minute.val ≤ 59
      · rw [if_pos below]
        dsimp only
        by_cases few : hour.hours ≤ 23
        · rw [if_neg (by omega), if_pos ⟨few, below⟩, Nat.add_zero]
        · rw [if_pos (by omega), if_neg (fun both => few both.1)]
      · rw [if_neg below, if_neg (fun both => below both.2)]
  | seconds hour minute second =>
      rw [ClockText.text, List.append_assoc, List.cons_append, List.append_assoc, List.cons_append,
        extendedOrBasic_of_hour hour (noDigit_colon _), extendedClock,
        (clockFields_text hour ends).2.2]
      have range : (ClockText.seconds hour minute second).InRange ↔
          hour.hours ≤ 23 ∧ minute.val ≤ 59 ∧ second.val ≤ 59 := Iff.rfl
      simp only [range, ClockText.sinceMidnight, ClockText.hour, ClockText.minute, ClockText.second]
      by_cases below : minute.val ≤ 59 ∧ second.val ≤ 59
      · rw [if_pos below]
        dsimp only
        by_cases few : hour.hours ≤ 23
        · rw [if_neg (by omega), if_pos ⟨few, below⟩]
        · rw [if_pos (by omega), if_neg (fun both => few both.1)]
      · rw [if_neg below, if_neg (fun both => below both.2)]
  | basicMinutes hour minute =>
      have digit : ∀ char ∈ twoDigits hour ++ twoDigits minute, char.isDigit = true :=
        List.forall_mem_append.mpr ⟨twoDigits_isDigit, twoDigits_isDigit⟩
      have length : (twoDigits hour ++ twoDigits minute).length = 4 := by
        rw [List.length_append, twoDigits_length, twoDigits_length]
      rw [ClockText.text, extendedOrBasic_of_run digit (.inl length) ends, length,
        List.append_assoc, (basicClock_text hour minute 0 rest).1]
  | basicSeconds hour minute second =>
      have digit : ∀ char ∈ twoDigits hour ++ (twoDigits minute ++ twoDigits second),
          char.isDigit = true :=
        List.forall_mem_append.mpr ⟨twoDigits_isDigit,
          List.forall_mem_append.mpr ⟨twoDigits_isDigit, twoDigits_isDigit⟩⟩
      have length : (twoDigits hour ++ (twoDigits minute ++ twoDigits second)).length = 6 := by
        rw [List.length_append, List.length_append, twoDigits_length, twoDigits_length,
          twoDigits_length]
      rw [ClockText.text, extendedOrBasic_of_run digit (.inr length) ends, length,
        List.append_assoc, List.append_assoc, (basicClock_text hour minute second rest).2]

/-- A fraction of a second: a mark and its digits. -/
structure FractionText where
  comma : Bool
  digits : List Char
  some : digits ≠ []
  digit : ∀ char ∈ digits, char.isDigit = true

def FractionText.text (fraction : FractionText) : List Char :=
  (if fraction.comma then ',' else '.') :: fraction.digits

/-- A time in a moment: after its mark and any spaces, with any fraction, and spaces after it. -/
structure TimeText where
  mark : {mark : Char // mark = 'T' ∨ mark = 't' ∨ mark = ' '}
  before : Nat
  clock : ClockText
  fraction : Option FractionText
  after : Nat

def TimeText.text (time : TimeText) : List Char :=
  time.mark.val :: (List.replicate time.before ' ' ++
    (time.clock.text ++ ((time.fraction.elim [] FractionText.text) ++
      List.replicate time.after ' ')))

theorem skipSpaces_append (count : Nat) {rest : List Char} (ends : ∀ char ∈ rest.head?, char ≠ ' ') :
    skipSpaces (List.replicate count ' ' ++ rest) = rest := by
  rw [skipSpaces, List.dropWhile_append_of_pos]
  · cases rest with
    | nil => rfl
    | cons char rest =>
        rw [List.dropWhile_cons_of_neg]
        exact fun space => ends char rfl (of_decide_eq_true space)
  · intro char member
    rw [List.eq_of_mem_replicate member]
    rfl

theorem skipFraction_text (fraction : FractionText) {rest : List Char} (ends : NoDigit rest) :
    skipFraction (fraction.text ++ rest) = rest := by
  obtain ⟨comma, digits, some_, digit⟩ := fraction
  cases digits with
  | nil => exact absurd rfl some_
  | cons char digits =>
      obtain ⟨here, there⟩ := List.forall_mem_cons.mp digit
      have mark : (if comma then ',' else '.') = '.' ∨ (if comma then ',' else '.') = ',' := by
        cases comma
        · exact .inl rfl
        · exact .inr rfl
      rw [FractionText.text, List.cons_append, List.cons_append, skipFraction, if_pos ⟨mark, here⟩]
      exact (Decimal.takeWhile_append rest there ends).2

/-- Nothing is skipped where there is no mark. -/
theorem skipFraction_of_ends {rest : List Char}
    (ends : ∀ char ∈ rest.head?, char ≠ '.' ∧ char ≠ ',') : skipFraction rest = rest := by
  cases rest with
  | nil => rfl
  | cons mark rest =>
      obtain ⟨point, comma⟩ := ends mark rfl
      cases rest with
      | nil => rfl
      | cons char rest =>
          rw [skipFraction, if_neg]
          rintro ⟨same | same, -⟩
          · exact point same
          · exact comma same

/-- What may stand after a time: spaces, and a zone. -/
def TimeEnds (rest : List Char) : Prop :=
  ∀ char ∈ rest.head?, char = ' ' ∨ char = 'Z' ∨ char = 'z' ∨ char = '+' ∨ char = '-'

theorem TimeEnds.clockEnds {rest : List Char} (ends : TimeEnds rest) : ClockEnds rest := by
  intro char member
  rcases ends char member with rfl | rfl | rfl | rfl | rfl <;> exact ⟨by decide, by decide⟩

theorem TimeEnds.noFraction {rest : List Char} (ends : TimeEnds rest) :
    skipFraction rest = rest := by
  apply skipFraction_of_ends
  intro char member
  rcases ends char member with rfl | rfl | rfl | rfl | rfl <;> exact ⟨by decide, by decide⟩

theorem TimeEnds.spaces {rest : List Char} (count : Nat) (ends : TimeEnds rest) :
    TimeEnds (List.replicate count ' ' ++ rest) := by
  cases count with
  | zero => exact ends
  | succ count => exact fun char member => .inl (Option.some.inj member).symm

/-- A time of day starts with a digit. -/
theorem clock_noSpace (clock : ClockText) (rest : List Char) :
    ∀ char ∈ (clock.text ++ rest).head?, char ≠ ' ' := by
  obtain ⟨run, after, split, digit, some_⟩ : ∃ run after, clock.text = run ++ after ∧
      (∀ char ∈ run, char.isDigit = true) ∧ run ≠ [] := by
    have two : ∀ value, twoDigits value ≠ [] := fun value => (HourText.two value).ne_nil
    cases clock with
    | hours hour => exact ⟨hour.text, [], (List.append_nil _).symm, hour.isDigit, hour.ne_nil⟩
    | minutes hour minute => exact ⟨_, _, rfl, hour.isDigit, hour.ne_nil⟩
    | seconds hour minute second => exact ⟨_, _, rfl, hour.isDigit, hour.ne_nil⟩
    | basicMinutes hour minute => exact ⟨_, _, rfl, twoDigits_isDigit, two hour⟩
    | basicSeconds hour minute second => exact ⟨_, _, rfl, twoDigits_isDigit, two hour⟩
  rw [split]
  cases run with
  | nil => exact absurd rfl some_
  | cons first run =>
      intro char member space
      obtain rfl : first = char := Option.some.inj member
      have here := digit first List.mem_cons_self
      rw [space] at here
      exact absurd here (by decide)

/-- A time is read up to the spaces after it. -/
theorem momentTime_text (time : TimeText) {rest : List Char} (ends : TimeEnds rest) :
    momentTime (time.text ++ rest) =
      if time.clock.InRange then
        some (time.clock.sinceMidnight, List.replicate time.after ' ' ++ rest)
      else none := by
  obtain ⟨⟨mark, marks⟩, before, clock, fraction, after⟩ := time
  have later := ends.spaces after
  have clockEnds : ClockEnds (fraction.elim [] FractionText.text ++
      (List.replicate after ' ' ++ rest)) := by
    cases fraction with
    | none => exact later.clockEnds
    | some fraction =>
        intro char member
        have same := Option.some.inj member
        subst same
        cases fraction.comma <;> exact ⟨by decide, by decide⟩
  have skipped : skipFraction (fraction.elim [] FractionText.text ++
      (List.replicate after ' ' ++ rest)) = List.replicate after ' ' ++ rest := by
    cases fraction with
    | none => exact later.noFraction
    | some fraction => exact skipFraction_text fraction later.clockEnds.noDigit
  rw [TimeText.text]
  simp only [List.cons_append, List.append_assoc]
  rw [momentTime, if_pos marks, skipSpaces_append before (clock_noSpace clock _), momentClock,
    extendedOrBasic_text clock clockEnds]
  by_cases range : clock.InRange
  · rw [if_pos range, if_pos range]
    dsimp only
    rw [skipped]
  · rw [if_neg range, if_neg range]

/-! ## The zone -/

/-- An offset's hours, and its minutes in one layout or the other. -/
inductive OffsetText
  | hours (hour : HourText)
  | minutes (hour : HourText) (minute : Fin 100)
  | basic (hour minute : Fin 100)
  deriving DecidableEq, Repr

namespace OffsetText

def text : OffsetText → List Char
  | hours hour => hour.text
  | minutes hour minute => hour.text ++ ':' :: twoDigits minute
  | basic hour minute => twoDigits hour ++ twoDigits minute

def hour : OffsetText → Nat
  | hours hour | minutes hour _ => hour.hours
  | basic hour _ => hour.val

def minute : OffsetText → Nat
  | hours _ => 0
  | minutes _ minute | basic _ minute => minute.val

end OffsetText

/-- A zone: Z, or an offset. -/
inductive ZoneText
  | utc (lower : Bool)
  | offset (negative : Bool) (ahead : OffsetText)
  deriving DecidableEq, Repr

namespace ZoneText

def text : ZoneText → List Char
  | utc lower => [if lower then 'z' else 'Z']
  | offset negative ahead => (if negative then '-' else '+') :: ahead.text

def InRange : ZoneText → Prop
  | utc _ => True
  | offset _ ahead => ahead.hour ≤ 23 ∧ ahead.minute ≤ 59

/-- The seconds a zone is ahead of UTC. -/
def seconds : ZoneText → Int
  | utc _ => 0
  | offset negative ahead =>
      ((ahead.hour * 3600 + ahead.minute * 60 : Nat) : Int) * (if negative then -1 else 1)

instance (zone : ZoneText) : Decidable zone.InRange :=
  match zone with
  | utc _ => inferInstanceAs (Decidable True)
  | offset _ _ => inferInstanceAs (Decidable (_ ∧ _))

end ZoneText

theorem zoneFields_text (offset : OffsetText) :
    zoneFields offset.text = some ((offset.hour, offset.minute), []) := by
  have stops : NoDigit [] := fun _ member => absurd member (Option.not_mem_none _)
  have ofHour : ∀ (hour : HourText) {rest}, NoDigit rest →
      ¬digitRun (hour.text ++ rest) = 4 ∧
      (digitRun (hour.text ++ rest) = 1 ∨ digitRun (hour.text ++ rest) = 2) ∧
      fixedDigits (hour.text ++ rest) (digitRun (hour.text ++ rest)) = some (hour.hours, rest) := by
    intro hour rest ends
    have run := hour.digitRun ends
    refine ⟨by omega, run, ?_⟩
    rw [fixedDigits_append hour.isDigit (digitRun_append hour.isDigit ends).symm, hour.read]
  cases offset with
  | hours hour =>
      obtain ⟨other, run, read⟩ := ofHour hour stops
      rw [List.append_nil] at other run read
      rw [zoneFields, OffsetText.text, if_neg other, if_pos run, read]
      rfl
  | minutes hour minute =>
      obtain ⟨other, run, read⟩ := ofHour hour (noDigit_colon (twoDigits minute))
      rw [zoneFields, OffsetText.text, if_neg other, if_pos run, read]
      dsimp only
      rw [past, if_pos rfl, ← List.append_nil (twoDigits minute)]
      dsimp only
      rw [fixedDigits_two]
      rfl
  | basic hour minute =>
      have digit : ∀ char ∈ twoDigits hour ++ twoDigits minute, char.isDigit = true :=
        List.forall_mem_append.mpr ⟨twoDigits_isDigit, twoDigits_isDigit⟩
      have length : digitRun (twoDigits hour ++ twoDigits minute) = 4 := by
        rw [← List.append_nil (_ ++ _), digitRun_append digit stops, List.length_append,
          twoDigits_length, twoDigits_length]
      rw [zoneFields, OffsetText.text, if_pos length, fixedDigits_two]
      dsimp only
      rw [← List.append_nil (twoDigits minute), fixedDigits_two]
      rfl

/-- A zone ends the text, and is read or refused out of its range. -/
theorem momentOffset_text (zone : ZoneText) :
    momentOffset zone.text = if zone.InRange then some (some zone.seconds, []) else none := by
  cases zone with
  | utc lower => cases lower <;> rfl
  | offset negative offset =>
      have range : (ZoneText.offset negative offset).InRange ↔
          ¬(23 < offset.hour ∨ 59 < offset.minute) := by
        rw [not_or, Nat.not_lt, Nat.not_lt]
        exact Iff.rfl
      have sign : (if (if negative then '-' else '+') = '-' then (-1 : Int) else 1) =
          if negative then -1 else 1 := by
        cases negative <;> rfl
      rw [ZoneText.text, momentOffset.eq_def]
      dsimp only
      rw [if_pos (by cases negative <;> decide), momentZone, if_neg (by cases negative <;> decide),
        zoneFields_text]
      dsimp only
      rw [sign]
      by_cases within : 23 < offset.hour ∨ 59 < offset.minute
      · rw [if_pos within, if_neg (fun inRange => range.mp inRange within)]
      · rw [if_neg within, if_pos (range.mpr within)]
        rfl

/-! ## The date -/

theorem daysInMonth_eq {year month : Nat} (first : 1 ≤ month) (last : month ≤ 12) :
    daysInMonth year month = monthLength year month := by
  by_cases leap : LeapYear year
  · have same : (year % 4 = 0 ∧ year % 100 ≠ 0) ∨ year % 400 = 0 := leap
    interval_cases month <;> simp [daysInMonth, monthLength, leap, same]
  · have same : ¬((year % 4 = 0 ∧ year % 100 ≠ 0) ∨ year % 400 = 0) := leap
    interval_cases month <;> simp [daysInMonth, monthLength, leap, same]

/-- The days are the calendar's, before 1970 as after. -/
theorem daysFromCivil_eq {year month day : Nat} (valid : ValidDate year month day) :
    daysFromCivil year month day = (dayNumber year month day : Int) - 719528 := by
  obtain ⟨first, last, some_, -⟩ := valid
  have whole : ∀ march dayOfYear : Nat,
      (march : Int).tdiv 400 * 146097 +
        ((((march : Int) - (march : Int).tdiv 400 * 400).toNat * 365 +
            ((march : Int) - (march : Int).tdiv 400 * 400).toNat / 4 -
            ((march : Int) - (march : Int).tdiv 400 * 400).toNat / 100 + dayOfYear : Nat) : Int) =
        ((365 * march + march / 4 + march / 400 - march / 100 + dayOfYear : Nat) : Int) := by
    intro march dayOfYear
    have eras : (march : Int).tdiv 400 = ((march / 400 : Nat) : Int) := by
      rw [Int.tdiv_eq_ediv_of_nonneg (Int.natCast_nonneg march)]
      rfl
    have left : ((march : Int) - ((march / 400 : Nat) : Int) * 400).toNat =
        march - march / 400 * 400 := by omega
    rw [eras, left, ← eraDays_eq, daysPerEra]
    norm_cast
  rw [daysFromCivil, dayNumber, daysOfMonths_eq year first last]
  by_cases early : month ≤ 2
  · have months : (153 * (month + 9) + 2) / 5 = 306 + 31 * (month - 1) := by
      interval_cases month <;> rfl
    rw [if_pos early, if_pos early, if_neg (Nat.not_lt.mpr early)]
    rcases Nat.eq_zero_or_pos year with rfl | later
    · -- The year before the first ends the era before it.
      have march : ((0 : Nat) : Int) - 1 = -1 := rfl
      have era : ((-1 : Int) - 399).tdiv 400 = -1 := rfl
      have yearOfEra : ((-1 : Int) - -1 * 400).toNat = 399 := rfl
      rw [march, if_neg (by decide : ¬(0 : Int) ≤ -1), era, yearOfEra, months, daysBeforeYear]
      omega
    · obtain ⟨before, rfl⟩ : ∃ before, year = before + 1 := ⟨year - 1, by omega⟩
      have march : ((before + 1 : Nat) : Int) - 1 = (before : Int) := by omega
      rw [march, if_pos (Int.natCast_nonneg before), whole, daysBeforeYear_succ]
      have hundreds : before / 100 ≤ 365 * before + before / 4 + before / 400 := by omega
      omega
  · rw [if_neg early, if_neg early, if_pos (Nat.lt_of_not_le early)]
    have march : (year : Int) - 0 = (year : Int) := Int.sub_zero _
    rw [march, if_pos (Int.natCast_nonneg year), whole]
    have years := daysBeforeYear_next year
    rw [yearLength_eq] at years
    have hundreds : year / 100 ≤ 365 * year + year / 4 + year / 400 := by omega
    split at years
    · next leap =>
      rw [if_pos leap]
      omega
    · next common =>
      rw [if_neg common]
      omega

/-- A date, extended or basic. -/
structure DateText where
  year : Fin 10000
  month : Fin 100
  day : Fin 100
  extended : Bool
  deriving DecidableEq, Repr

namespace DateText

def text (date : DateText) : List Char :=
  Decimal.padded 4 date.year ++
    if date.extended then '-' :: (twoDigits date.month ++ '-' :: twoDigits date.day)
    else twoDigits date.month ++ twoDigits date.day

/-- A date of the calendar. -/
def InRange (date : DateText) : Prop := ValidDate date.year date.month date.day

theorem inRange_iff (date : DateText) :
    date.InRange ↔ 1 ≤ date.month.val ∧ date.month.val ≤ 12 ∧ 1 ≤ date.day.val ∧
      date.day.val ≤ monthLength date.year date.month :=
  ⟨fun valid => ⟨valid.firstMonth, valid.lastMonth, valid.firstDay, valid.lastDay⟩,
    fun fields => ⟨fields.1, fields.2.1, fields.2.2.1, fields.2.2.2⟩⟩

instance (date : DateText) : Decidable date.InRange :=
  decidable_of_iff' _ date.inRange_iff

/-- Its days since 1970. -/
def days (date : DateText) : Int :=
  (dayNumber date.year date.month date.day : Int) - (dayNumber 1970 1 1 : Int)

end DateText

theorem fixedDigits_year (year : Fin 10000) (rest : List Char) :
    fixedDigits (Decimal.padded 4 year ++ rest) 4 = some (year.val, rest) := by
  rw [fixedDigits_append (fun _ member => Decimal.padded_isDigit member)
    (Decimal.padded_length (by decide) year.isLt), Decimal.read_padded]

/-- A field of digits does not start with a hyphen. -/
theorem past_twoDigits (value : Fin 100) (rest : List Char) :
    past '-' (twoDigits value ++ rest) = none := by
  have digit := @twoDigits_isDigit value
  have some_ := (HourText.two value).ne_nil
  change twoDigits value ≠ [] at some_
  cases same : twoDigits value with
  | nil => exact absurd same some_
  | cons char run =>
      rw [same] at digit
      have here := digit char List.mem_cons_self
      rw [List.cons_append, past, if_neg]
      rintro rfl
      exact absurd here (by decide)

theorem monthAndDay_text (date : DateText) (rest : List Char) :
    monthAndDay ((if date.extended then '-' :: (twoDigits date.month ++ '-' :: twoDigits date.day)
        else twoDigits date.month ++ twoDigits date.day) ++ rest) =
      some ((date.month.val, date.day.val), rest) := by
  cases date.extended
  · rw [if_neg Bool.false_ne_true, List.append_assoc, monthAndDay, past_twoDigits]
    dsimp only
    rw [fixedDigits_two]
    dsimp only
    rw [fixedDigits_two]
  · rw [if_pos rfl, List.cons_append, List.append_assoc, List.cons_append, monthAndDay, past,
      if_pos rfl]
    dsimp only
    rw [fixedDigits_two]
    dsimp only
    rw [past, if_pos rfl]
    dsimp only
    rw [fixedDigits_two]

/-- A date is read as its days, or refused where there is no such date. -/
theorem momentDate_text (date : DateText) (rest : List Char) :
    momentDate (date.text ++ rest) = if date.InRange then some (date.days, rest) else none := by
  rw [DateText.text, List.append_assoc, momentDate, fixedDigits_year]
  dsimp only
  rw [monthAndDay_text]
  dsimp only
  by_cases valid : date.InRange
  · obtain ⟨first, last, firstDay, lastDay⟩ := id valid
    rw [if_pos valid, daysInMonth_eq first last, if_neg (by omega), daysFromCivil_eq valid,
      DateText.days, dayNumber_1970]
    rfl
  · rw [if_neg valid, if_pos]
    by_contra allowed
    simp only [not_or, Nat.not_lt] at allowed
    obtain ⟨first, last, firstDay, lastDay⟩ := allowed
    rw [daysInMonth_eq first last] at lastDay
    exact valid ⟨first, last, firstDay, lastDay⟩

/-! ## A moment -/

/-- A text laid out as a moment: a date, and perhaps a time and a zone. -/
structure MomentText where
  date : DateText
  time : Option TimeText
  zone : Option ZoneText

namespace MomentText

def text (moment : MomentText) : List Char :=
  moment.date.text ++ (moment.time.elim [] TimeText.text ++ moment.zone.elim [] ZoneText.text)

/-- Every field is in its range. -/
def InRange (moment : MomentText) : Prop :=
  moment.date.InRange ∧ (∀ time ∈ moment.time, time.clock.InRange) ∧
    ∀ zone ∈ moment.zone, zone.InRange

instance (moment : MomentText) : Decidable moment.InRange :=
  inferInstanceAs (Decidable (_ ∧ _ ∧ _))

/-- The seconds since 1970 it denotes, as UTC's where it has no zone. -/
def seconds (moment : MomentText) : Int :=
  moment.date.days * 86400 +
      (moment.time.elim 0 fun time => (time.clock.sinceMidnight : Int)) -
    moment.zone.elim 0 ZoneText.seconds

end MomentText

theorem zone_ends (zone : Option ZoneText) : TimeEnds (zone.elim [] ZoneText.text) := by
  intro char member
  cases zone with
  | none => exact absurd member (Option.not_mem_none _)
  | some zone =>
      right
      cases zone with
      | utc lower =>
          obtain rfl := Option.some.inj member
          cases lower <;> decide
      | offset negative ahead =>
          obtain rfl := Option.some.inj member
          cases negative <;> decide

/-- A zone does not start with a mark that a time does. -/
theorem momentTime_zone (zone : Option ZoneText) :
    momentTime (zone.elim [] ZoneText.text) = some (0, zone.elim [] ZoneText.text) := by
  cases zone with
  | none => rfl
  | some zone =>
      cases zone with
      | utc lower => cases lower <;> rfl
      | offset negative ahead =>
          have noMark : ∀ sign rest, ¬(sign = 'T' ∨ sign = 't' ∨ sign = ' ') →
              momentTime (sign :: rest) = some (0, sign :: rest) :=
            fun sign rest other => if_neg other
          exact noMark _ _ (by cases negative <;> decide)

theorem skipSpaces_zone (zone : Option ZoneText) (count : Nat) :
    skipSpaces (List.replicate count ' ' ++ zone.elim [] ZoneText.text) =
      zone.elim [] ZoneText.text := by
  apply skipSpaces_append
  intro char member
  cases zone with
  | none => exact absurd member (Option.not_mem_none _)
  | some zone =>
      cases zone with
      | utc lower =>
          obtain rfl := Option.some.inj member
          cases lower <;> decide
      | offset negative ahead =>
          obtain rfl := Option.some.inj member
          cases negative <;> decide

/-- Text that goes on after a date starts with a digit and is no number. -/
theorem hasText_text (moment : MomentText) : hasText moment.text = true := by
  have digit : ∀ char ∈ Decimal.padded 4 moment.date.year, char.isDigit = true :=
    fun _ member => Decimal.padded_isDigit member
  have length : (Decimal.padded 4 moment.date.year.val).length = 4 :=
    Decimal.padded_length (by decide) moment.date.year.isLt
  rw [MomentText.text, DateText.text, List.append_assoc]
  cases same : Decimal.padded 4 moment.date.year.val with
  | nil => rw [same] at length; exact absurd length (by decide)
  | cons char run =>
      rw [same] at digit
      have here := digit char List.mem_cons_self
      have range : '0'.toNat ≤ char.toNat := by
        rw [Char.isDigit, Bool.and_eq_true_iff] at here
        exact of_decide_eq_true here.1
      have noSpace : char ≠ ' ' := by
        rintro rfl
        exact absurd here (by decide)
      change 48 ≤ char.toNat at range
      rw [List.cons_append, hasText, isSpace, decide_eq_false noSpace, Bool.false_or,
        decide_eq_false]
      · rfl
      · rintro ⟨-, low⟩
        change char.toNat ≤ 13 at low
        omega

/-- A text laid out as a moment is read as the moment it denotes, unless a field is out of its range
or the seconds are out of theirs. A basic date alone is a number, and so Unix seconds. -/
theorem parseMoment_text (moment : MomentText) (dated : moment.text.all Char.isDigit = false) :
    parseMoment moment.text =
      if moment.InRange ∧ 0 ≤ moment.seconds ∧ moment.seconds < 2 ^ 32 then
        some (BitVec.ofInt 32 moment.seconds, moment.zone.isNone)
      else none := by
  have refused : ∀ {outcome : Option (BitVec 32 × Bool)}, ¬moment.InRange → outcome = none →
      outcome = if moment.InRange ∧ 0 ≤ moment.seconds ∧ moment.seconds < 2 ^ 32 then
        some (BitVec.ofInt 32 moment.seconds, moment.zone.isNone) else none := by
    intro outcome out same
    rw [same, if_neg (fun allowed => out allowed.1)]
  obtain ⟨clock, spaces, timed⟩ : ∃ clock spaces,
      momentTime (moment.time.elim [] TimeText.text ++ moment.zone.elim [] ZoneText.text) =
        (if ∀ time ∈ moment.time, time.clock.InRange then
          some (clock, List.replicate spaces ' ' ++ moment.zone.elim [] ZoneText.text)
        else none) ∧
      (clock : Int) = moment.time.elim 0 fun time => (time.clock.sinceMidnight : Int) := by
    cases moment.time with
    | none =>
        refine ⟨0, 0, ?_, rfl⟩
        rw [if_pos (fun _ member => absurd member (Option.not_mem_none _))]
        exact momentTime_zone moment.zone
    | some time =>
        refine ⟨time.clock.sinceMidnight, time.after, ?_, rfl⟩
        rw [Option.elim_some, momentTime_text time (zone_ends moment.zone)]
        by_cases range : time.clock.InRange
        · rw [if_pos range, if_pos]
          rintro other member
          obtain rfl := Option.some.inj member
          exact range
        · rw [if_neg range, if_neg]
          exact fun all => range (all time rfl)
  obtain ⟨timed, clockEq⟩ := timed
  rw [parseMoment, hasText_text, if_neg (by decide : ¬(!true) = true), dated,
    if_neg Bool.false_ne_true, MomentText.text, momentDate_text]
  by_cases date : moment.date.InRange
  · rw [if_pos date]
    dsimp only
    rw [timed]
    by_cases time : ∀ time ∈ moment.time, time.clock.InRange
    · rw [if_pos time]
      dsimp only
      rw [skipSpaces_zone]
      have zoned : momentOffset (moment.zone.elim [] ZoneText.text) =
          if ∀ zone ∈ moment.zone, zone.InRange then
            some (moment.zone.map ZoneText.seconds, [])
          else none := by
        cases moment.zone with
        | none => exact (if_pos fun _ member => absurd member (Option.not_mem_none _)).symm
        | some zone =>
            rw [Option.elim_some, momentOffset_text]
            by_cases range : zone.InRange
            · rw [if_pos range, if_pos]
              · rfl
              · rintro other member
                obtain rfl := Option.some.inj member
                exact range
            · rw [if_neg range, if_neg]
              exact fun all => range (all zone rfl)
      rw [zoned]
      by_cases zone : ∀ zone ∈ moment.zone, zone.InRange
      · have seconds : moment.date.days * 86400 + (clock : Int) -
            (moment.zone.map ZoneText.seconds).getD 0 = moment.seconds := by
          rw [MomentText.seconds, clockEq]
          cases moment.zone <;> rfl
        rw [if_pos zone]
        dsimp only
        rw [seconds, Option.isNone_map]
        by_cases fits : 0 ≤ moment.seconds ∧ moment.seconds < 2 ^ 32
        · rw [if_neg (by omega), if_pos ⟨⟨date, time, zone⟩, fits⟩]
        · rw [if_pos (by omega), if_neg (fun all => fits all.2)]
      · rw [if_neg zone]
        exact refused (fun range => zone range.2.2) rfl
    · rw [if_neg time]
      exact refused (fun range => time range.2.1) rfl
  · rw [if_neg date]
    exact refused (fun range => date range.1) rfl

/-! ## What is printed -/

/-- `gmtime_r`: the calendar's date and time of a count of seconds. -/
def gmtime (seconds : BitVec 32) : UtcCivil :=
  utcToCivil seconds false

/-- `print_civil`, by `strftime`. -/
def printCivil (seconds : BitVec 32) : List Char :=
  let civil := gmtime seconds
  Decimal.digits civil.year ++ '-' :: (Decimal.padded 2 civil.month ++
    '-' :: (Decimal.padded 2 civil.day ++ 'T' :: (Decimal.padded 2 civil.hour ++
      ':' :: (Decimal.padded 2 civil.minute ++ ':' :: Decimal.padded 2 civil.second))))

/-- `time_print_utc`. -/
def timePrintUtc (utcSeconds : BitVec 32) : List Char :=
  printCivil utcSeconds ++ ['Z']

/-- `time_print_wall`. -/
def timePrintWall (localSeconds : BitVec 32) : List Char :=
  printCivil localSeconds

/-- `time_print_offset`. -/
def timePrintOffset (offset : Int) : List Char :=
  let magnitude := offset.natAbs
  (if offset < 0 then '-' else '+') ::
    (Decimal.padded 2 (magnitude / 3600) ++ ':' :: (Decimal.padded 2 (magnitude / 60 % 60) ++
      if magnitude % 60 ≠ 0 then ':' :: Decimal.padded 2 (magnitude % 60) else []))

/-- `time_print_local`. -/
def timePrintLocal (utcSeconds : BitVec 32) (offset : Int) : List Char :=
  printCivil (BitVec.ofInt 32 ((utcSeconds.toNat : Int) + offset)) ++ timePrintOffset offset

theorem digits_year {year : Nat} (low : 10 ^ 3 ≤ year) (high : year < 10 ^ 4) :
    Decimal.digits year = Decimal.padded 4 year := by
  rw [Decimal.padded, Decimal.digits_length low high]
  rfl

/-- A date and time printed, with a zone after it, is laid out as the moment it is. -/
theorem printCivil_text (seconds : BitVec 32) (zone : Option ZoneText) :
    ∃ moment : MomentText,
      printCivil seconds ++ zone.elim [] ZoneText.text = moment.text ∧
      moment.text.all Char.isDigit = false ∧ moment.zone = zone ∧ moment.date.InRange ∧
      (∀ time ∈ moment.time, time.clock.InRange) ∧
      moment.seconds = (seconds.toNat : Int) - zone.elim 0 ZoneText.seconds := by
  obtain ⟨⟨date, since, hour, minute, second, few⟩, counts⟩ := counted_utcToCivil seconds
  obtain ⟨-, -, range, -⟩ := utcToCivil_spec seconds
  rw [printCivil, gmtime]
  generalize utcToCivil seconds false = civil at *
  obtain ⟨year, month, day, hours, minutes, second_⟩ := civil
  dsimp only at *
  have short := date.lastDay.trans (monthLength_le year month)
  have lastMonth := date.lastMonth
  let moment : MomentText :=
    { date := ⟨⟨year, by omega⟩, ⟨month, by omega⟩, ⟨day, by omega⟩, true⟩
      time := some
        { mark := ⟨'T', .inl rfl⟩
          before := 0
          clock := .seconds (.two ⟨hours, by omega⟩) ⟨minutes, by omega⟩ ⟨second_, by omega⟩
          fraction := none
          after := 0 }
      zone := zone }
  have text : moment.text = Decimal.digits year ++ '-' :: (Decimal.padded 2 month ++
      '-' :: (Decimal.padded 2 day ++ 'T' :: (Decimal.padded 2 hours ++
        ':' :: (Decimal.padded 2 minutes ++ ':' :: Decimal.padded 2 second_)))) ++
      zone.elim [] ZoneText.text := by
    rw [digits_year (by omega) (by omega)]
    simp only [moment, MomentText.text, DateText.text, TimeText.text, ClockText.text, HourText.text,
      twoDigits, Option.elim_some, Option.elim_none, List.replicate_zero, List.nil_append,
      List.append_nil, List.append_assoc, List.cons_append, if_true]
  refine ⟨moment, text.symm, ?_, rfl, date, ?_, ?_⟩
  · have hyphen : '-' ∈ moment.text := by
      rw [text]
      exact List.mem_append_left _ (List.mem_append_right _ List.mem_cons_self)
    rw [List.all_eq_false]
    exact ⟨'-', hyphen, by decide⟩
  · rintro time member
    obtain rfl := Option.some.inj member
    exact ⟨hour, minute, second⟩
  · have counts : (dayNumber year month day - dayNumber 1970 1 1) * 86400 + hours * 3600 +
        minutes * 60 + second_ = seconds.toNat := by
      rw [← counts, unixSeconds, Nat.min_eq_left second]
      rfl
    have since1970 := utcDaysFromCivil_eq since range date
    change ((dayNumber year month day : Int) - (dayNumber 1970 1 1 : Int)) * 86400 +
      ((hours * 3600 + minutes * 60 + second_ : Nat) : Int) - zone.elim 0 ZoneText.seconds = _
    rw [dayNumber_1970] at *
    omega

/-- What is printed with a zone reads back as UTC's seconds, and without one as the wall clock's. -/
theorem parseMoment_printCivil (seconds : BitVec 32) (zone : Option ZoneText)
    (inRange : ∀ given ∈ zone, ZoneText.InRange given)
    (since : 0 ≤ (seconds.toNat : Int) - zone.elim 0 ZoneText.seconds)
    (until_ : (seconds.toNat : Int) - zone.elim 0 ZoneText.seconds < 2 ^ 32) :
    parseMoment (printCivil seconds ++ zone.elim [] ZoneText.text) =
      some (BitVec.ofInt 32 ((seconds.toNat : Int) - zone.elim 0 ZoneText.seconds),
        zone.isNone) := by
  obtain ⟨moment, text, dated, zoned, date, time, value⟩ := printCivil_text seconds zone
  rw [text, parseMoment_text moment dated, value, zoned, if_pos]
  exact ⟨⟨date, time, zoned ▸ inRange⟩, since, until_⟩

/-- An offset of whole minutes below a day is printed as a zone, with two digits of hours. -/
theorem timePrintOffset_text {offset : Int} (minutes : offset % 60 = 0)
    (short : offset.natAbs < 86400) :
    ∃ zone : ZoneText, timePrintOffset offset = zone.text ∧ zone.InRange ∧
      zone.seconds = offset := by
  have whole : ¬offset.natAbs % 60 ≠ 0 := by omega
  have hour : offset.natAbs / 3600 < 100 := by omega
  have minute : offset.natAbs / 60 % 60 < 100 := by omega
  refine ⟨.offset (decide (offset < 0)) (.minutes (.two ⟨_, hour⟩) ⟨_, minute⟩), ?_, ?_, ?_⟩
  · rw [timePrintOffset, if_neg whole, List.append_nil, ZoneText.text]
    simp only [decide_eq_true_eq]
    rfl
  · change offset.natAbs / 3600 ≤ 23 ∧ offset.natAbs / 60 % 60 ≤ 59
    omega
  · change ((offset.natAbs / 3600 * 3600 + offset.natAbs / 60 % 60 * 60 : Nat) : Int) *
      (if decide (offset < 0) = true then -1 else 1) = offset
    simp only [decide_eq_true_eq]
    split <;> omega

theorem ofInt_natCast (seconds : BitVec 32) : BitVec.ofInt 32 (seconds.toNat : Int) = seconds := by
  rw [BitVec.ofInt_natCast, BitVec.ofNat_toNat, BitVec.setWidth_eq]

end GpsClock.Console
