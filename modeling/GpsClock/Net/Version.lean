import GpsClock.Lib.Decimal
import GpsClock.Lib.PaddedOrder

/-! # Firmware versions

`updater.cpp`'s dot-separated versions. A pointer into a string is what the memory holds from it on,
as far as the character that ends the string; nothing can be read past that. Two versions compare as
their numbers do, one after another (`GpsClock.Net.versions_ordered`).
-/

namespace GpsClock.Net

/-- The character that ends a string. -/
def nul : Char := Char.ofNat 0

/-- A string's characters, none of which ends it. -/
structure CString where
  text : List Char
  unended : nul ∉ text

/-- A string in memory. -/
def CString.memory (string : CString) : List Char := string.text ++ [nul]

/-! ## The source -/

/-- `numeric_version`'s loop: nothing once it reads past the string. -/
def numericLoop : (expectingDigit : Bool) → List Char → Option Bool
  | _, [] => none
  | expectingDigit, char :: rest =>
      if char = nul then some (!expectingDigit)
      else if char = '.' then if expectingDigit then some false else numericLoop true rest
      else if char.isDigit then numericLoop false rest
      else some false

/-- `numeric_version`. -/
def numericVersion (version : List Char) : Option Bool := do
  if (← version.head?) = nul then return false
  numericLoop true version

/-- `strcspn(text, ".")`. -/
def strcspnDot : List Char → Option Nat
  | [] => none
  | char :: rest => if char = nul ∨ char = '.' then some 0 else (strcspnDot rest).map (· + 1)

/-- The zeros before an end so far off, passed: how far it is then, and from where. -/
def skipZeros : Nat → List Char → Option (Nat × List Char)
  | 0, text => some (0, text)
  | _ + 1, [] => none
  | left + 1, char :: rest =>
      if char = '0' then skipZeros left rest else some (left + 1, char :: rest)

/-- `strncmp`. -/
def strncmp : Nat → List Char → List Char → Option Int
  | 0, _, _ => some 0
  | _ + 1, [], _ => none
  | _ + 1, _, [] => none
  | left + 1, first :: a, second :: b =>
      if first ≠ second then some (if second.toNat < first.toNat then 1 else -1)
      else if first = nul then some 0
      else strncmp left a b

/-- Past the dot at a component's end, if there is one. -/
def pastDot : List Char → Option (List Char)
  | [] => none
  | char :: rest => if char = '.' then some rest else some (char :: rest)

/-- `compare_versions`'s loop: nothing once it reads past a string, or if so many turns do not end
it. -/
def compareLoop : (turns : Nat) → List Char → List Char → Option Int
  | 0, _, _ => none
  | turns + 1, a, b => do
      if (← a.head?) = nul ∧ (← b.head?) = nul then return 0
      let aLength ← strcspnDot a
      let bLength ← strcspnDot b
      let (aLeft, aDigits) ← skipZeros aLength a
      let (bLeft, bDigits) ← skipZeros bLength b
      if aLeft ≠ bLeft then return if bLeft < aLeft then 1 else -1
      let order ← strncmp aLeft aDigits bDigits
      if order ≠ 0 then return if 0 < order then 1 else -1
      compareLoop turns (← pastDot (a.drop aLength)) (← pastDot (b.drop bLength))

/-- `compare_versions`: its result, or none where it returns false. -/
def compareVersions (a b : CString) : Option (Option Int) := do
  if (← numericVersion a.memory) && (← numericVersion b.memory) then
    return some (← compareLoop (a.memory.length + b.memory.length) a.memory b.memory)
  return none

/-! ## What versions say -/

/-- A component's digits, one at least. -/
def Component (group : List Char) : Prop :=
  group ≠ [] ∧ ∀ char ∈ group, char.isDigit = true

instance (group : List Char) : Decidable (Component group) :=
  inferInstanceAs (Decidable (group ≠ [] ∧ ∀ char ∈ group, char.isDigit = true))

/-- A version's components: the digits between its dots. -/
def components (text : List Char) : Option (List Nat) :=
  if ∀ group ∈ text.splitOn '.', Component group then some ((text.splitOn '.').map Decimal.read)
  else none

/-- Two versions' order by their components, missing ones zero; none unless both are versions. -/
noncomputable def versionOrder (a b : CString) : Option Int := do
  let first ← components a.text
  let second ← components b.text
  return orderSign (Padded.entries 0 first) (Padded.entries 0 second)

/-- One version is found to be no later than another. -/
def AtMost (a b : CString) : Prop :=
  ∃ order ≤ 0, compareVersions a b = some (some order)

/-! ## Strings laid out by their components -/

/-- A string with these components before each other, up to its end. -/
def laid : List (List Char) → List Char
  | [] => [nul]
  | [group] => group ++ [nul]
  | group :: later => group ++ '.' :: laid later

/-- What follows the first component. -/
def ending : List (List Char) → List Char
  | [] | [_] => [nul]
  | _ :: later => '.' :: laid later

theorem nul_not_digit : nul.isDigit = false := rfl

theorem nul_ne_dot : nul ≠ '.' := by decide

theorem dot_not_digit : ('.' : Char).isDigit = false := rfl

theorem laid_eq (groups : List (List Char)) : laid groups = groups.headD [] ++ ending groups := by
  rcases groups with _ | ⟨group, _ | ⟨next, later⟩⟩ <;> rfl

theorem pastDot_ending (groups : List (List Char)) :
    pastDot (ending groups) = some (laid groups.tail) := by
  rcases groups with _ | ⟨group, _ | ⟨next, later⟩⟩
  · rfl
  · rfl
  · change pastDot ('.' :: laid (next :: later)) = _
    rw [pastDot, if_pos rfl]
    rfl

theorem ending_head (groups : List (List Char)) :
    ∃ char rest, ending groups = char :: rest ∧ (char = nul ∨ char = '.') := by
  rcases groups with _ | ⟨group, _ | ⟨next, later⟩⟩
  · exact ⟨nul, [], rfl, Or.inl rfl⟩
  · exact ⟨nul, [], rfl, Or.inl rfl⟩
  · exact ⟨'.', laid (next :: later), rfl, Or.inr rfl⟩

theorem laid_splitOn (text : List Char) : laid (text.splitOn '.') = text ++ [nul] := by
  induction text with
  | nil => rfl
  | cons char text ih =>
      rw [List.splitOn_cons_eq_if_modifyHead]
      have some : text.splitOn '.' ≠ [] := List.splitOn_ne_nil '.' text
      cases groups : text.splitOn '.' with
      | nil => exact absurd groups some
      | cons group later =>
          rw [groups] at ih
          by_cases dot : (char == '.') = true
          · rw [if_pos dot, eq_of_beq dot]
            exact congrArg (List.cons '.') ih
          · rw [if_neg dot, List.modifyHead_cons]
            cases later with
            | nil => exact congrArg (List.cons char) ih
            | cons next later => exact congrArg (List.cons char) ih

/-! ## What is a version -/

/-- The loop asks for the rest of a component, and for components after it. -/
theorem numericLoop_memory {text group : List Char} {later : List (List Char)}
    (unended : nul ∉ text) (groups : text.splitOn '.' = group :: later) (expectingDigit : Bool) :
    numericLoop expectingDigit (text ++ [nul]) =
      some (decide ((expectingDigit = true → group ≠ []) ∧ (∀ char ∈ group, char.isDigit = true) ∧
        ∀ group ∈ later, Component group)) := by
  induction text generalizing group later expectingDigit with
  | nil =>
      obtain ⟨rfl, rfl⟩ := List.cons.inj groups
      rw [List.nil_append, numericLoop, if_pos rfl]
      cases expectingDigit
      · simp
      · simp
  | cons char text ih =>
      obtain ⟨other, unended⟩ := not_or.mp (mt List.mem_cons.mpr unended)
      rw [List.splitOn_cons_eq_if_modifyHead] at groups
      rw [List.cons_append, numericLoop, if_neg (Ne.symm other)]
      obtain ⟨next, rest, split⟩ := List.exists_cons_of_ne_nil (List.splitOn_ne_nil '.' text)
      rw [split] at groups
      by_cases dot : char = '.'
      · rw [if_pos (beq_iff_eq.mpr dot)] at groups
        obtain ⟨rfl, rfl⟩ := List.cons.inj groups
        rw [if_pos dot]
        cases expectingDigit with
        | true => simp
        | false =>
            rw [if_neg Bool.false_ne_true, ih unended split true]
            simp [Component, and_assoc]
      · rw [if_neg (mt beq_iff_eq.mp dot), List.modifyHead_cons] at groups
        obtain ⟨rfl, rfl⟩ := List.cons.inj groups
        rw [if_neg dot]
        by_cases digit : char.isDigit = true
        · rw [if_pos digit, ih unended split false]
          simp [digit]
        · rw [if_neg digit]
          simp [digit]

theorem numericVersion_memory (string : CString) :
    numericVersion string.memory = some (components string.text).isSome := by
  obtain ⟨group, later, groups⟩ := List.exists_cons_of_ne_nil (List.splitOn_ne_nil '.' string.text)
  have loop := numericLoop_memory string.unended groups true
  have whole : numericVersion string.memory = numericLoop true string.memory := by
    unfold numericVersion CString.memory
    cases text : string.text with
    | nil => rfl
    | cons char rest =>
        have other : char ≠ nul := by
          rintro rfl
          exact string.unended (text ▸ List.mem_cons_self)
        exact if_neg other
  rw [whole, CString.memory, loop, components, groups]
  by_cases version : ∀ each ∈ group :: later, Component each
  · obtain ⟨here, after⟩ := List.forall_mem_cons.mp version
    rw [if_pos version, decide_eq_true ⟨fun _ => here.1, here.2, after⟩]
    rfl
  · rw [if_neg version]
    refine congrArg some (decide_eq_false fun parts => version ?_)
    exact List.forall_mem_cons.mpr ⟨⟨parts.1 rfl, parts.2.1⟩, parts.2.2⟩

/-! ## One component against another -/

section

variable {group rest a b : List Char}

theorem strcspnDot_append (digits : ∀ char ∈ group, char.isDigit = true) {char : Char}
    (ends : char = nul ∨ char = '.') :
    strcspnDot (group ++ char :: rest) = some group.length := by
  induction group with
  | nil => exact if_pos ends
  | cons first group ih =>
      obtain ⟨here, later⟩ := List.forall_mem_cons.mp digits
      have other : ¬(first = nul ∨ first = '.') := by
        rintro (rfl | rfl)
        · exact absurd here (by decide)
        · exact absurd here (by decide)
      rw [List.cons_append, strcspnDot, if_neg other, ih later]
      rfl

theorem skipZeros_append (group rest : List Char) :
    skipZeros group.length (group ++ rest) =
      some ((group.dropWhile (· == '0')).length, group.dropWhile (· == '0') ++ rest) := by
  induction group with
  | nil => rfl
  | cons first group ih =>
      rw [List.length_cons, List.cons_append, skipZeros, List.dropWhile_cons]
      by_cases zero : first = '0'
      · rw [if_pos zero, if_pos (beq_iff_eq.mpr zero)]
        exact ih
      · rw [if_neg zero, if_neg (mt beq_iff_eq.mp zero)]
        rfl

theorem read_dropWhile (group : List Char) :
    Decimal.read (group.dropWhile (· == '0')) = Decimal.read group := by
  induction group with
  | nil => rfl
  | cons first group ih =>
      rw [List.dropWhile_cons]
      by_cases zero : first = '0'
      · rw [if_pos (beq_iff_eq.mpr zero), ih, Decimal.read_cons, zero, Nat.sub_self, Nat.mul_zero,
          Nat.zero_add]
      · rw [if_neg (mt beq_iff_eq.mp zero)]

/-- Digits none of which are leading zeros. -/
structure Significant (text : List Char) : Prop where
  digits : ∀ char ∈ text, char.isDigit = true
  leading : text.head? ≠ some '0'

theorem significant_dropWhile (digits : ∀ char ∈ group, char.isDigit = true) :
    Significant (group.dropWhile (· == '0')) where
  digits := fun char member => digits char ((List.dropWhile_sublist _).subset member)
  leading := by
    induction group with
    | nil => exact Option.some_ne_none _ ∘ Eq.symm
    | cons first group ih =>
        rw [List.dropWhile_cons]
        by_cases zero : first = '0'
        · rw [if_pos (beq_iff_eq.mpr zero)]
          exact ih fun char member => digits char (List.mem_cons_of_mem _ member)
        · rw [if_neg (mt beq_iff_eq.mp zero)]
          exact fun same => zero (Option.some.inj same)

/-- Of two numbers in their significant digits the longer is the greater. -/
theorem Significant.read_lt (first : Significant a) (second : Significant b)
    (shorter : a.length < b.length) : Decimal.read a < Decimal.read b := by
  cases b with
  | nil => exact absurd shorter (Nat.not_lt_zero _)
  | cons char b =>
      have nonzero : char ≠ '0' := fun zero => second.leading (congrArg some zero)
      have digit : char.isDigit = true := second.digits char List.mem_cons_self
      calc Decimal.read a < 10 ^ a.length := Decimal.read_lt first.digits
        _ ≤ 10 ^ b.length := Nat.pow_le_pow_right (by decide) (Nat.le_of_lt_succ shorter)
        _ ≤ Decimal.read (char :: b) := Decimal.le_read digit nonzero

/-- As many digits compare as their numbers do. -/
theorem strncmp_append (first : ∀ char ∈ a, char.isDigit = true)
    (second : ∀ char ∈ b, char.isDigit = true) (same : a.length = b.length) (rest other : List Char) :
    strncmp a.length (a ++ rest) (b ++ other) =
      some (orderSign (Decimal.read a) (Decimal.read b)) := by
  induction a generalizing b with
  | nil =>
      obtain rfl : b = [] := List.length_eq_zero_iff.mp same.symm
      exact congrArg some (Padded.sign_self _).symm
  | cons x a ih =>
      cases b with
      | nil => cases same
      | cons y b =>
          have same : a.length = b.length := Nat.succ.inj same
          obtain ⟨xDigit, aDigits⟩ := List.forall_mem_cons.mp first
          obtain ⟨yDigit, bDigits⟩ := List.forall_mem_cons.mp second
          rw [List.length_cons, List.cons_append, List.cons_append, strncmp]
          by_cases equal : x = y
          · have other : ¬x = nul := by
              rintro rfl
              cases xDigit
            rw [if_neg (not_not.mpr equal), if_neg other, ih aDigits bDigits same]
            refine congrArg some (Padded.sign_congr ?_ ?_)
            · rw [Decimal.read_cons, Decimal.read_cons, equal, same]
              exact (Nat.add_lt_add_iff_left).symm
            · rw [Decimal.read_cons, Decimal.read_cons, equal, same]
              exact (Nat.add_lt_add_iff_left).symm
          · rw [if_pos equal]
            refine congrArg some ?_
            rcases Nat.lt_trichotomy x.toNat y.toNat with lower | level | higher
            · have below := Decimal.read_lt_of_head same aDigits xDigit lower
              rw [if_neg (Nat.lt_asymm lower), orderSign, if_pos below]
            · exact absurd (Char.toNat_inj.mp level) equal
            · have above := Decimal.read_lt_of_head same.symm bDigits yDigit higher
              rw [if_pos higher, orderSign, if_neg (Nat.lt_asymm above), if_pos above]

end

/-! ## A version against another -/

section

variable {groups : List (List Char)}

theorem headD_digits (all : ∀ group ∈ groups, Component group) :
    ∀ char ∈ groups.headD [], char.isDigit = true := by
  cases groups with
  | nil => exact fun char member => absurd member List.not_mem_nil
  | cons group later => exact (all group List.mem_cons_self).2

/-- A string is at its end once its components have been passed. -/
theorem laid_head (all : ∀ group ∈ groups, Component group) :
    ∃ char, (laid groups).head? = some char ∧ (char = nul ↔ groups = []) := by
  cases groups with
  | nil => exact ⟨nul, rfl, Iff.intro (fun _ => rfl) (fun _ => rfl)⟩
  | cons group later =>
      obtain ⟨some, digits⟩ := all group List.mem_cons_self
      obtain ⟨char, rest, rfl⟩ := List.exists_cons_of_ne_nil some
      refine ⟨char, ?_, ?_⟩
      · rw [laid_eq]
        rfl
      · refine ⟨?_, fun wrong => absurd wrong (List.cons_ne_nil _ _)⟩
        rintro rfl
        cases digits nul List.mem_cons_self

theorem strcspnDot_laid (all : ∀ group ∈ groups, Component group) :
    strcspnDot (laid groups) = some (groups.headD []).length := by
  obtain ⟨char, rest, follows, ends⟩ := ending_head groups
  rw [laid_eq, follows]
  exact strcspnDot_append (headD_digits all) ends

theorem skipZeros_laid (groups : List (List Char)) :
    skipZeros (groups.headD []).length (laid groups) =
      some (((groups.headD []).dropWhile (· == '0')).length,
        (groups.headD []).dropWhile (· == '0') ++ ending groups) := by
  rw [laid_eq]
  exact skipZeros_append _ _

theorem drop_laid (groups : List (List Char)) :
    (laid groups).drop (groups.headD []).length = ending groups := by
  rw [laid_eq]
  exact List.drop_left

end

/-- One turn: the first components decide, unless they are the same. -/
theorem compareLoop_turn {a b : List (List Char)} (first : ∀ group ∈ a, Component group)
    (second : ∀ group ∈ b, Component group) (turns : Nat) :
    compareLoop (turns + 1) (laid a) (laid b) =
      if a = [] ∧ b = [] then some 0
      else if Decimal.read (a.headD []) = Decimal.read (b.headD []) then
        compareLoop turns (laid a.tail) (laid b.tail)
      else some (orderSign (Decimal.read (a.headD [])) (Decimal.read (b.headD []))) := by
  obtain ⟨aChar, aHead, aEnd⟩ := laid_head first
  obtain ⟨bChar, bHead, bEnd⟩ := laid_head second
  have aDigits := significant_dropWhile (headD_digits first)
  have bDigits := significant_dropWhile (headD_digits second)
  rw [compareLoop, ← read_dropWhile (a.headD []), ← read_dropWhile (b.headD [])]
  simp only [aHead, bHead, aEnd, bEnd, strcspnDot_laid first, strcspnDot_laid second,
    skipZeros_laid, drop_laid, pastDot_ending, Option.bind_eq_bind, Option.bind_some]
  generalize (a.headD []).dropWhile (· == '0') = x at aDigits ⊢
  generalize (b.headD []).dropWhile (· == '0') = y at bDigits ⊢
  by_cases ended : a = [] ∧ b = []
  · rw [if_pos ended, if_pos ended]
    rfl
  · rw [if_neg ended, if_neg ended]
    rcases Nat.lt_trichotomy x.length y.length with shorter | same | longer
    · have below := aDigits.read_lt bDigits shorter
      rw [if_pos (Nat.ne_of_lt shorter), if_neg (Nat.lt_asymm shorter), if_neg (Nat.ne_of_lt below),
        orderSign, if_pos below]
      rfl
    · rw [if_neg (not_not.mpr same), strncmp_append aDigits.digits bDigits.digits same, Option.bind_some]
      rcases Nat.lt_trichotomy (Decimal.read x) (Decimal.read y) with below | equal | above
      · rw [if_neg (Nat.ne_of_lt below), orderSign, if_pos below]
        rfl
      · rw [if_pos equal, equal, Padded.sign_self]
        rfl
      · rw [if_neg (Nat.ne_of_gt above), orderSign, if_neg (Nat.lt_asymm above), if_pos above]
        rfl
    · have above := bDigits.read_lt aDigits longer
      rw [if_pos (Nat.ne_of_gt longer), if_pos longer, if_neg (Nat.ne_of_gt above), orderSign,
        if_neg (Nat.lt_asymm above), if_pos above]
      rfl

/-- The loop ends with the order of the components. -/
theorem compareLoop_laid {a b : List (List Char)} {turns : Nat}
    (first : ∀ group ∈ a, Component group) (second : ∀ group ∈ b, Component group)
    (enough : a.length + b.length < turns) :
    compareLoop turns (laid a) (laid b) =
      some (orderSign (Padded.entries 0 (a.map Decimal.read))
        (Padded.entries 0 (b.map Decimal.read))) := by
  induction turns generalizing a b with
  | zero => exact absurd enough (Nat.not_lt_zero _)
  | succ turns ih =>
      have heads : ∀ groups : List (List Char),
          (groups.map Decimal.read).headD 0 = Decimal.read (groups.headD []) := by
        intro groups
        cases groups <;> rfl
      rw [compareLoop_turn first second, Padded.sign_entries, heads, heads]
      by_cases ended : a = [] ∧ b = []
      · obtain ⟨rfl, rfl⟩ := ended
        rw [if_pos ⟨rfl, rfl⟩, if_pos rfl]
        exact congrArg some (Padded.sign_self _).symm
      · rw [if_neg ended]
        by_cases same : Decimal.read (a.headD []) = Decimal.read (b.headD [])
        · have fewer : a.tail.length + b.tail.length < turns := by
            have some : 0 < a.length + b.length := by
              rcases not_and_or.mp ended with some | some
              · exact Nat.add_pos_left (List.length_pos_iff.mpr some) _
              · exact Nat.add_pos_right _ (List.length_pos_iff.mpr some)
            rw [List.length_tail, List.length_tail]
            omega
          rw [if_pos same, if_pos same, ← List.map_tail, ← List.map_tail]
          exact ih (fun group member => first group (List.mem_of_mem_tail member))
            (fun group member => second group (List.mem_of_mem_tail member)) fewer
        · rw [if_neg same, if_neg same]

theorem length_le_laid (groups : List (List Char)) (all : ∀ group ∈ groups, Component group) :
    groups.length < (laid groups).length := by
  induction groups with
  | nil => exact Nat.one_pos
  | cons group later ih =>
      obtain ⟨here, after⟩ := List.forall_mem_cons.mp all
      have some : 0 < group.length := List.length_pos_iff.mpr here.1
      cases later with
      | nil =>
          change 1 < (group ++ [nul]).length
          rw [List.length_append]
          exact Nat.succ_lt_succ_iff.mpr some
      | cons next later =>
          have shorter := ih after
          change (next :: later).length + 1 < (group ++ '.' :: laid (next :: later)).length
          rw [List.length_append]
          change _ < group.length + ((laid (next :: later)).length + 1)
          omega

/-- The comparison of two versions, without reading past either. -/
theorem compareVersions_eq (a b : CString) : compareVersions a b = some (versionOrder a b) := by
  unfold compareVersions versionOrder
  rw [numericVersion_memory, numericVersion_memory]
  by_cases first : ∀ group ∈ a.text.splitOn '.', Component group
  · have aComponents : components a.text = some ((a.text.splitOn '.').map Decimal.read) := if_pos first
    by_cases second : ∀ group ∈ b.text.splitOn '.', Component group
    · have bComponents : components b.text = some ((b.text.splitOn '.').map Decimal.read) :=
        if_pos second
      have aMemory : a.memory = laid (a.text.splitOn '.') := (laid_splitOn a.text).symm
      have bMemory : b.memory = laid (b.text.splitOn '.') := (laid_splitOn b.text).symm
      have enough := Nat.add_lt_add (length_le_laid _ first) (length_le_laid _ second)
      rw [aComponents, bComponents, aMemory, bMemory]
      change (compareLoop _ _ _).bind _ = _
      rw [compareLoop_laid first second enough]
      rfl
    · have none : components b.text = none := if_neg second
      rw [aComponents, none]
      rfl
  · have none : components a.text = none := if_neg first
    rw [none]
    cases components b.text <;> rfl

theorem atMost_iff (a b : CString) :
    AtMost a b ↔ ∃ first second, components a.text = some first ∧ components b.text = some second ∧
      Padded.entries 0 first ≤ Padded.entries 0 second := by
  unfold AtMost
  rw [compareVersions_eq, versionOrder]
  cases components a.text with
  | none => simp
  | some first =>
      cases components b.text with
      | none => simp
      | some second =>
          constructor
          · rintro ⟨order, low, same⟩
            obtain rfl : orderSign (Padded.entries 0 first) (Padded.entries 0 second) = order :=
              Option.some.inj (Option.some.inj same)
            exact ⟨first, second, rfl, rfl, (Padded.sign_nonpos_iff _ _).mp low⟩
          · rintro ⟨_, _, isFirst, isSecond, le⟩
            obtain rfl := Option.some.inj isFirst
            obtain rfl := Option.some.inj isSecond
            exact ⟨_, (Padded.sign_nonpos_iff _ _).mpr le, rfl⟩

/-- Any two strings compare, without reading past either, as the numbers between their dots do, one
after another and missing ones zero, where both are versions, and fail to compare where one is not. It
is a total and transitive order of the versions. -/
theorem versions_ordered :
    (∀ a b, compareVersions a b = some (versionOrder a b)) ∧
      (∀ a b, AtMost a b ∨ AtMost b a ↔
        (components a.text).isSome = true ∧ (components b.text).isSome = true) ∧
      IsTrans CString AtMost := by
  refine ⟨compareVersions_eq, fun a b => ?_, ⟨?_⟩⟩
  · rw [atMost_iff, atMost_iff]
    constructor
    · rintro (⟨first, second, isFirst, isSecond, _⟩ | ⟨second, first, isSecond, isFirst, _⟩)
      · rw [isFirst, isSecond]
        exact ⟨rfl, rfl⟩
      · rw [isFirst, isSecond]
        exact ⟨rfl, rfl⟩
    · rintro ⟨isFirst, isSecond⟩
      obtain ⟨first, isFirst⟩ := Option.isSome_iff_exists.mp isFirst
      obtain ⟨second, isSecond⟩ := Option.isSome_iff_exists.mp isSecond
      rcases le_total (Padded.entries 0 first) (Padded.entries 0 second) with le | le
      · exact Or.inl ⟨first, second, isFirst, isSecond, le⟩
      · exact Or.inr ⟨second, first, isSecond, isFirst, le⟩
  · intro a b c
    rw [atMost_iff, atMost_iff, atMost_iff]
    rintro ⟨first, middle, isFirst, isMiddle, low⟩ ⟨again, last, isAgain, isLast, high⟩
    obtain rfl : middle = again := Option.some.inj (isMiddle.symm.trans isAgain)
    exact ⟨first, last, isFirst, isLast, low.trans high⟩

end GpsClock.Net
