import GpsClock.Platform.Utc

/-! # Seconds on one line

A label that can happen has a place on the line of elapsed seconds, and a place has no
other label. Counting on from a label moves its place by the count
(`GpsClock.Platform.place_advance`), so counting in parts, in one go and across a leap
second all agree (`GpsClock.Platform.advance_composes`).
-/

namespace GpsClock.Platform

/-- A second as it is labelled: the Unix second, and whether it is an inserted 23:59:60. -/
abbrev Label : Type := BitVec 32 × Bool

/-- `utc_advance` on a label with its flag. -/
abbrev advance (leap : Option UtcLeap) (label : Label) (seconds : BitVec 32) : Label :=
  utcAdvance label.1 label.2 seconds leap

/-- A leap second at the end of a day: its midnight is not one of the first two seconds. -/
def Scheduled (leap : Option UtcLeap) : Prop :=
  ∀ known, leap = some known → 2 ≤ known.eventUtc

/-- A label that can happen: flagged only as the inserted second, never the deleted one. -/
structure Happens (leap : Option UtcLeap) (label : Label) : Prop where
  flagged : label.2 = true →
    ∃ known, leap = some known ∧ 0 < known.change ∧ label.1 = known.eventUtc - 1
  kept : ∀ known, leap = some known → known.change < 0 → label.1 ≠ known.eventUtc - 1

/-- No sum of the count wraps, the second made up for a deleted one included. -/
structure NoWrap (leap : Option UtcLeap) (label : Label) (seconds : Nat) : Prop where
  fits : label.1.toNat + seconds < 2 ^ 32
  deleted : ∀ known, leap = some known → known.change < 0 → label.1 < known.eventUtc - 1 →
    known.eventUtc.toNat - 1 ≤ label.1.toNat + seconds → label.1.toNat + seconds + 1 < 2 ^ 32

/-- How many seconds have happened before a label's. -/
def place (leap : Option UtcLeap) (label : Label) : Nat :=
  match leap with
  | none => label.1.toNat
  | some known =>
      if 0 < known.change ∧ (label.2 = true ∨ known.eventUtc ≤ label.1) then label.1.toNat + 1
      else if known.change < 0 ∧ known.eventUtc ≤ label.1 then label.1.toNat - 1
      else label.1.toNat

variable {leap : Option UtcLeap} {known : UtcLeap} {label other : Label} {seconds : BitVec 32}

/-- The event, and the second before it. -/
theorem Scheduled.event (scheduled : Scheduled (some known)) :
    2 ≤ known.eventUtc.toNat ∧ (known.eventUtc - 1).toNat = known.eventUtc.toNat - 1 := by
  have late := scheduled known rfl
  constructor <;> bv_omega

theorem place_quiet (quiet : ∀ known, leap = some known → known.change = 0) :
    place leap label = label.1.toNat := by
  cases leap with
  | none => rfl
  | some known => simp [place, quiet known rfl]

theorem place_inserted (inserted : 0 < known.change) :
    place (some known) label =
      if label.2 = true ∨ known.eventUtc ≤ label.1 then label.1.toNat + 1 else label.1.toNat := by
  simp [place, inserted, not_lt.mpr inserted.le]

theorem place_deleted (deleted : known.change < 0) :
    place (some known) label =
      if known.eventUtc ≤ label.1 then label.1.toNat - 1 else label.1.toNat := by
  simp [place, deleted, not_lt.mpr deleted.le]

namespace Happens

/-- Only an inserted second is flagged. -/
theorem unflagged (happens : Happens leap label)
    (none : ∀ known, leap = some known → ¬0 < known.change) : label.2 = false := by
  cases flag : label.2 with
  | false => rfl
  | true =>
      obtain ⟨known, announced, inserted, _⟩ := happens.flagged flag
      exact absurd inserted (none known announced)

/-- The flagged second repeats the one before the event. -/
theorem repeats (happens : Happens (some known) label) (flag : label.2 = true) :
    label.1 = known.eventUtc - 1 := by
  obtain ⟨_, announced, _, same⟩ := happens.flagged flag
  cases announced
  exact same

end Happens

/-- The order of places is the order of seconds, an inserted one after the one it repeats. -/
theorem place_lt_iff (scheduled : Scheduled leap) (happens : Happens leap label)
    (otherHappens : Happens leap other) :
    place leap label < place leap other ↔ toLex label < toLex other := by
  rw [Prod.Lex.toLex_lt_toLex, BitVec.lt_def]
  have unflagged (none : ∀ known, leap = some known → ¬0 < known.change) :
      label.1.toNat < other.1.toNat ∨ label.1 = other.1 ∧ label.2 < other.2 ↔
        label.1.toNat < other.1.toNat := by
    rw [happens.unflagged none, otherHappens.unflagged none]
    simp
  cases leap with
  | none =>
      rw [unflagged nofun]
      rfl
  | some known =>
      obtain ⟨late, before⟩ := scheduled.event
      rcases lt_trichotomy known.change 0 with deleted | quiet | inserted
      · rw [unflagged (by simp [deleted.le]), place_deleted deleted, place_deleted deleted]
        have kept := happens.kept known rfl deleted
        have otherKept := otherHappens.kept known rfl deleted
        simp only [BitVec.le_def, BitVec.toNat_eq, ne_eq, before] at kept otherKept ⊢
        split <;> split <;> omega
      · rw [unflagged (by simp [quiet]), place_quiet (by simp [quiet]), place_quiet (by simp [quiet])]
      · rw [place_inserted inserted, place_inserted inserted]
        cases flag : label.2 with
        | false =>
            cases otherFlag : other.2 with
            | false =>
                simp only [Bool.false_eq_true, false_or, lt_irrefl, and_false, or_false, BitVec.le_def]
                split <;> split <;> omega
            | true =>
                simp only [Bool.false_eq_true, false_or, true_or, if_true, Bool.false_lt_true,
                  and_true, BitVec.le_def, BitVec.toNat_eq, otherHappens.repeats otherFlag, before]
                split <;> omega
        | true =>
            cases otherFlag : other.2 with
            | false =>
                have never : ¬true < false := by decide
                simp only [Bool.false_eq_true, false_or, true_or, if_true, never, and_false,
                  or_false, BitVec.le_def, happens.repeats flag, before]
                split <;> omega
            | true =>
                simp only [true_or, if_true, lt_irrefl, and_false, or_false, Nat.add_lt_add_iff_right]

@[simp] theorem advance_zero : advance leap label 0 = label := by
  cases leap <;> simp [utcAdvance]

/-- Where a count of at least one second comes to. -/
theorem advance_cases (leap : Option UtcLeap) (label : Label) (counted : seconds ≠ 0) :
    (∃ known, leap = some known ∧ 0 < known.change ∧ label.2 = false ∧
      label.1 < known.eventUtc ∧ known.eventUtc ≤ label.1 + seconds ∧
      advance leap label seconds =
        (label.1 + seconds - 1, label.1 + seconds == known.eventUtc)) ∨
    (∃ known, leap = some known ∧ known.change < 0 ∧
      label.1 < known.eventUtc - 1 ∧ known.eventUtc - 1 ≤ label.1 + seconds ∧
      advance leap label seconds = (label.1 + seconds + 1, false)) ∨
    (advance leap label seconds = (label.1 + seconds, false) ∧
      ∀ known, leap = some known →
        (0 < known.change → label.2 = false → label.1 < known.eventUtc →
          ¬known.eventUtc ≤ label.1 + seconds) ∧
        (known.change < 0 → label.1 < known.eventUtc - 1 →
          ¬known.eventUtc - 1 ≤ label.1 + seconds)) := by
  have flag : (label.2 && seconds == 0) = false := by
    rw [beq_false_of_ne counted, Bool.and_false]
  cases leap with
  | none => exact .inr (.inr ⟨by rw [advance, utcAdvance, flag], nofun⟩)
  | some known =>
      simp only [advance, utcAdvance, if_neg counted, flag, Bool.not_eq_true', Option.some.injEq,
        exists_eq_left', forall_eq']
      by_cases inserted : 0 < known.change ∧ label.2 = false ∧ label.1 < known.eventUtc ∧
          known.eventUtc ≤ label.1 + seconds
      · rw [if_pos inserted]
        exact .inl ⟨inserted.1, inserted.2.1, inserted.2.2.1, inserted.2.2.2, rfl⟩
      · rw [if_neg inserted]
        by_cases deleted : known.change < 0 ∧ label.1 < known.eventUtc - 1 ∧
            known.eventUtc - 1 ≤ label.1 + seconds
        · rw [if_pos deleted]
          exact .inr (.inl ⟨deleted.1, deleted.2.1, deleted.2.2, rfl⟩)
        · rw [if_neg deleted]
          exact .inr (.inr ⟨rfl,
            fun change unflagged before reached => inserted ⟨change, unflagged, before, reached⟩,
            fun change before reached => deleted ⟨change, before, reached⟩⟩)

/-- The second after a label is not simply the next number: it is an inserted one, or it
comes after a deleted one. -/
def LeapFollows (leap : Option UtcLeap) (label : Label) : Prop :=
  ∃ known, leap = some known ∧
    (0 < known.change ∧ label.2 = false ∧ label.1 + 1 = known.eventUtc ∨
      known.change < 0 ∧ label.1 + 2 = known.eventUtc)

theorem advance_one (none : ¬LeapFollows leap label) :
    advance leap label 1 = (label.1 + 1, false) := by
  have one : (1 : BitVec 32) ≠ 0 := by decide
  rcases advance_cases leap label one with
    ⟨known, announced, inserted, unflagged, before, reached, _⟩ |
      ⟨known, announced, deleted, before, reached, _⟩ | ⟨result, _⟩
  · have next : label.1 + 1 = known.eventUtc := by bv_omega
    exact absurd ⟨known, announced, .inl ⟨inserted, unflagged, next⟩⟩ none
  · have next : label.1 + 2 = known.eventUtc := by bv_omega
    exact absurd ⟨known, announced, .inr ⟨deleted, next⟩⟩ none
  · exact result

/-- Past its event a leap second no longer counts. -/
theorem advance_past (scheduled : Scheduled (some known)) (label : Label)
    (past : known.eventUtc ≤ label.1) :
    advance none label seconds = advance (some known) label seconds := by
  obtain ⟨late, pred⟩ := scheduled.event
  rw [BitVec.le_def] at past
  by_cases counted : seconds = 0
  · subst counted
    rw [advance_zero, advance_zero]
  have flag : (label.2 && seconds == 0) = false := by
    rw [beq_false_of_ne counted, Bool.and_false]
  rcases advance_cases (some known) label counted with
    ⟨_, same, _, _, before, _⟩ | ⟨_, same, _, before, _⟩ | ⟨result, _⟩
  · cases same
    exact absurd (BitVec.lt_def.mp before) (by omega)
  · cases same
    rw [BitVec.lt_def, pred] at before
    omega
  · rw [result, advance, utcAdvance, flag]

/-- A count leads to a label that can happen, that many places on. -/
theorem place_advance (scheduled : Scheduled leap) (happens : Happens leap label)
    (noWrap : NoWrap leap label seconds.toNat) :
    Happens leap (advance leap label seconds) ∧
      place leap (advance leap label seconds) = place leap label + seconds.toNat := by
  have sum : (label.1 + seconds).toNat = label.1.toNat + seconds.toNat := by
    rw [BitVec.toNat_add, Nat.mod_eq_of_lt noWrap.fits]
  by_cases counted : seconds = 0
  · subst counted
    rw [advance_zero]
    exact ⟨happens, rfl⟩
  have some_ : 0 < seconds.toNat := by bv_omega
  rcases advance_cases leap label counted with
    ⟨known, rfl, inserted, unflagged, before, reached, result⟩ |
      ⟨known, rfl, deleted, before, reached, result⟩ | ⟨result, away⟩
  · obtain ⟨late, pred⟩ := scheduled.event
    rw [result]
    simp only [BitVec.lt_def, BitVec.le_def, sum] at before reached
    have back : (label.1 + seconds - 1).toNat = label.1.toNat + seconds.toNat - 1 := by
      bv_omega
    refine ⟨⟨fun flag => ⟨known, rfl, inserted, ?_⟩, ?_⟩, ?_⟩
    · rw [eq_of_beq flag]
    · intro _ announced deleted
      cases announced
      omega
    · rw [place_inserted inserted, place_inserted inserted, unflagged]
      simp only [BitVec.le_def, Bool.false_eq_true, false_or, back, beq_iff_eq, BitVec.toNat_eq, sum]
      rw [if_pos (by omega), if_neg (by omega)]
      omega
  · obtain ⟨late, pred⟩ := scheduled.event
    have room := noWrap.deleted known rfl deleted before
    rw [result]
    simp only [BitVec.lt_def, BitVec.le_def, sum, pred] at before reached
    have ahead : (label.1 + seconds + 1).toNat = label.1.toNat + seconds.toNat + 1 := by
      bv_omega
    refine ⟨⟨nofun, ?_⟩, ?_⟩
    · intro _ announced _ same
      cases announced
      have same := congrArg BitVec.toNat same
      dsimp only at same
      omega
    · rw [place_deleted deleted, place_deleted deleted]
      simp only [BitVec.le_def, ahead]
      rw [if_pos (by omega), if_neg (by omega)]
      omega
  · rw [result]
    cases leap with
    | none => exact ⟨⟨nofun, nofun⟩, sum⟩
    | some known =>
        obtain ⟨late, pred⟩ := scheduled.event
        obtain ⟨insertedAway, deletedAway⟩ := away known rfl
        simp only [BitVec.lt_def, BitVec.le_def, sum, pred] at insertedAway deletedAway
        rcases lt_trichotomy known.change 0 with deleted | quiet | inserted
        · have kept := happens.kept known rfl deleted
          rw [ne_eq, BitVec.toNat_eq, pred] at kept
          refine ⟨⟨nofun, ?_⟩, ?_⟩
          · intro _ announced _ same
            cases announced
            have same := congrArg BitVec.toNat same
            dsimp only at same
            omega
          · rw [place_deleted deleted, place_deleted deleted]
            simp only [BitVec.le_def, sum]
            split <;> split <;> omega
        · rw [place_quiet (by simp [quiet]), place_quiet (by simp [quiet])]
          exact ⟨⟨nofun, by simp [quiet]⟩, sum⟩
        · refine ⟨⟨nofun, fun _ announced deleted => ?_⟩, ?_⟩
          · cases announced
            omega
          · rw [place_inserted inserted, place_inserted inserted]
            simp only [Bool.false_eq_true, false_or, BitVec.le_def, sum]
            cases flag : label.2 with
            | false =>
                have near := insertedAway inserted flag
                simp only [Bool.false_eq_true, false_or]
                split <;> split <;> omega
            | true =>
                have repeats : label.1.toNat = known.eventUtc.toNat - 1 := by
                  rw [happens.repeats flag, pred]
                have far : known.eventUtc.toNat ≤ label.1.toNat + seconds.toNat := by omega
                rw [if_pos far, if_pos (.inl rfl)]
                omega

/-- Labels in one place are one label. -/
theorem place_injective (scheduled : Scheduled leap) (happens : Happens leap label)
    (otherHappens : Happens leap other) (same : place leap label = place leap other) :
    label = other := by
  have notBefore := same.not_lt
  have notAfter := same.not_gt
  rw [place_lt_iff scheduled happens otherHappens, Prod.Lex.toLex_lt_toLex, not_or, not_and] at notBefore
  rw [place_lt_iff scheduled otherHappens happens, Prod.Lex.toLex_lt_toLex, not_or, not_and] at notAfter
  have seconds : label.1 = other.1 :=
    BitVec.le_antisymm (BitVec.not_lt.mp notAfter.1) (BitVec.not_lt.mp notBefore.1)
  have flags : label.2 = other.2 :=
    le_antisymm (not_lt.mp (notAfter.2 seconds.symm)) (not_lt.mp (notBefore.2 seconds))
  exact Prod.ext seconds flags

/-- The next number is the next second just where no leap second follows. -/
theorem next_iff (scheduled : Scheduled leap) (happens : Happens leap label)
    (room : label.1.toNat + 2 < 2 ^ 32) :
    Happens leap (label.1 + 1, label.2) ∧
        place leap (label.1 + 1, label.2) = place leap label + 1 ↔
      label.2 = false ∧ ¬LeapFollows leap label := by
  have noWrap : NoWrap leap label (1 : BitVec 32).toNat :=
    ⟨Nat.lt_of_succ_lt room, fun _ _ _ _ _ => room⟩
  obtain ⟨nextHappens, nextPlace⟩ := place_advance scheduled happens noWrap
  constructor
  · intro ⟨numberHappens, numberPlace⟩
    have unflagged : label.2 = false := by
      refine Bool.eq_false_iff.mpr fun flag => ?_
      obtain ⟨known, rfl, _, here⟩ := happens.flagged flag
      have there : label.1 + 1 = known.eventUtc - 1 := numberHappens.repeats flag
      bv_omega
    refine ⟨unflagged, ?_⟩
    rw [unflagged] at numberHappens numberPlace
    -- in the place of the next second, the next number would be that second
    have same := place_injective scheduled nextHappens numberHappens
      (nextPlace.trans numberPlace.symm)
    rintro ⟨known, announced, follows⟩
    rcases advance_cases leap label (by decide : (1 : BitVec 32) ≠ 0) with
      ⟨_, _, _, _, _, _, result⟩ | ⟨_, _, _, _, _, result⟩ | ⟨_, away⟩
    · have back := congrArg Prod.fst (result.symm.trans same)
      dsimp only at back
      bv_omega
    · have ahead := congrArg Prod.fst (result.symm.trans same)
      dsimp only at ahead
      bv_omega
    · obtain ⟨notInserted, notDeleted⟩ := away known announced
      rcases follows with ⟨inserted, _, event⟩ | ⟨deleted, event⟩
      · exact notInserted inserted unflagged (by bv_omega) (by bv_omega)
      · exact notDeleted deleted (by bv_omega) (by bv_omega)
  · intro ⟨unflagged, quiet⟩
    rw [advance_one quiet] at nextHappens nextPlace
    rw [unflagged]
    exact ⟨nextHappens, nextPlace⟩

/-- Between a label and the one before lies a leap second. -/
def LeapPrecedes (leap : Option UtcLeap) (label : Label) : Prop :=
  ∃ known, leap = some known ∧ known.change ≠ 0 ∧ label.1 = known.eventUtc

/-- The last number is the last second just where no leap second precedes. -/
theorem last_iff (scheduled : Scheduled leap) (happens : Happens leap label)
    (some_ : 1 ≤ label.1.toNat) (room : label.1.toNat + 2 < 2 ^ 32) :
    Happens leap (label.1 - 1, label.2) ∧
        place leap (label.1 - 1, label.2) + 1 = place leap label ↔
      label.2 = false ∧ ¬LeapPrecedes leap label := by
  have before : (label.1 - 1).toNat + 2 < 2 ^ 32 := by bv_omega
  have onward : label.1 - 1 + 1 = label.1 := by grind
  constructor
  · intro ⟨lastHappens, lastPlace⟩
    have unflagged : label.2 = false := by
      refine Bool.eq_false_iff.mpr fun flag => ?_
      obtain ⟨known, rfl, _, here⟩ := happens.flagged flag
      have there : label.1 - 1 = known.eventUtc - 1 := lastHappens.repeats flag
      bv_omega
    refine ⟨unflagged, ?_⟩
    rw [unflagged] at lastHappens lastPlace
    have self : label = (label.1, false) := Prod.ext rfl unflagged
    have next := (next_iff scheduled lastHappens before).mp
      (by rw [onward, ← self]; exact ⟨happens, lastPlace.symm⟩)
    rintro ⟨known, announced, change, event⟩
    rcases lt_or_gt_of_ne change with deleted | inserted
    · exact lastHappens.kept known announced deleted (by rw [event])
    · exact next.2 ⟨known, announced, .inl ⟨inserted, rfl, onward.trans event⟩⟩
  · intro ⟨unflagged, quiet⟩
    rw [unflagged]
    have self : label = (label.1, false) := Prod.ext rfl unflagged
    have lastHappens : Happens leap (label.1 - 1, false) := by
      refine ⟨nofun, fun known announced deleted same => quiet ⟨known, announced, deleted.ne, ?_⟩⟩
      have same : label.1 - 1 = known.eventUtc - 1 := same
      bv_omega
    have next := (next_iff scheduled lastHappens before).mpr ⟨rfl, ?_⟩
    · rw [onward, ← self] at next
      exact ⟨lastHappens, next.2.symm⟩
    · rintro ⟨known, announced, ⟨inserted, _, event⟩ | ⟨deleted, event⟩⟩
      · exact quiet ⟨known, announced, inserted.ne', onward.symm.trans event⟩
      · have event : label.1 - 1 + 2 = known.eventUtc := event
        exact happens.kept known announced deleted (by bv_omega)

/-- Fewer seconds wrap no earlier. -/
theorem NoWrap.fewer {count fewer : Nat} (noWrap : NoWrap leap label count) (less : fewer ≤ count) :
    NoWrap leap label fewer where
  fits := lt_of_le_of_lt (Nat.add_le_add_left less _) noWrap.fits
  deleted known announced change before reached := by
    have room := noWrap.deleted known announced change before (by omega)
    omega

/-- What is left of a count wraps no earlier either. -/
theorem NoWrap.rest {count : Nat} (scheduled : Scheduled leap)
    (noWrap : NoWrap leap label (seconds.toNat + count)) :
    NoWrap leap (advance leap label seconds) count := by
  have first := noWrap.fewer (Nat.le_add_right seconds.toNat count)
  have sum : (label.1 + seconds).toNat = label.1.toNat + seconds.toNat := by
    rw [BitVec.toNat_add, Nat.mod_eq_of_lt first.fits]
  have fits := noWrap.fits
  by_cases counted : seconds = 0
  · subst counted
    rw [advance_zero]
    exact noWrap.fewer (Nat.le_add_left _ _)
  rcases advance_cases leap label counted with
    ⟨known, rfl, inserted, _, before, reached, result⟩ |
      ⟨known, rfl, deleted, before, reached, result⟩ | ⟨result, _⟩
  · have back : (label.1 + seconds - 1).toNat = label.1.toNat + seconds.toNat - 1 := by
      bv_omega
    rw [result]
    refine ⟨?_, fun _ announced deleted => ?_⟩
    · dsimp only
      omega
    · cases announced
      omega
  · obtain ⟨late, pred⟩ := scheduled.event
    have room := noWrap.deleted known rfl deleted before
    simp only [BitVec.le_def, sum, pred] at reached
    have ahead : (label.1 + seconds + 1).toNat = label.1.toNat + seconds.toNat + 1 := by
      bv_omega
    rw [result]
    refine ⟨?_, fun _ announced _ early => ?_⟩
    · dsimp only
      omega
    · cases announced
      simp only [BitVec.lt_def, ahead, pred] at early
      omega
  · rw [result]
    refine ⟨?_, fun known announced deleted early reached => ?_⟩
    · dsimp only
      omega
    · subst announced
      simp only [sum, BitVec.lt_def] at early reached ⊢
      have room := noWrap.deleted known rfl deleted
        (BitVec.lt_def.mpr (lt_of_le_of_lt (Nat.le_add_right _ _) early)) (by omega)
      omega

/-- **Counting composes.** Counting in two parts is counting in one; more seconds lead to
a later label, an inserted second coming after the one it repeats; across an inserted
second exactly one count leads to it; and none leads to a deleted one. -/
theorem advance_composes (scheduled : Scheduled leap) (happens : Happens leap label) :
    (∀ first rest : BitVec 32, NoWrap leap label (first.toNat + rest.toNat) →
        advance leap (advance leap label first) rest = advance leap label (first + rest)) ∧
      (∀ fewer more : BitVec 32, fewer < more → NoWrap leap label more.toNat →
        toLex (advance leap label fewer) < toLex (advance leap label more)) ∧
      (∀ known, leap = some known → 0 < known.change → label.1 < known.eventUtc →
        ∃! count : BitVec 32, NoWrap leap label count.toNat ∧
          (advance leap label count).2 = true) ∧
      (∀ known, leap = some known → known.change < 0 → ∀ count : BitVec 32,
        NoWrap leap label count.toNat → (advance leap label count).1 ≠ known.eventUtc - 1) := by
  refine ⟨fun first rest noWrap => ?_, fun fewer more less noWrap => ?_,
    fun known announced inserted before => ?_, fun known announced deleted count noWrap => ?_⟩
  · obtain ⟨firstHappens, firstPlace⟩ :=
      place_advance scheduled happens (noWrap.fewer (Nat.le_add_right _ _))
    obtain ⟨restHappens, restPlace⟩ := place_advance scheduled firstHappens (noWrap.rest scheduled)
    have sum : (first + rest).toNat = first.toNat + rest.toNat := by
      have fits := noWrap.fits
      rw [BitVec.toNat_add, Nat.mod_eq_of_lt (by omega)]
    obtain ⟨bothHappens, bothPlace⟩ := place_advance scheduled happens (sum ▸ noWrap)
    refine place_injective scheduled restHappens bothHappens ?_
    rw [restPlace, firstPlace, bothPlace, sum, Nat.add_assoc]
  · obtain ⟨fewerHappens, fewerPlace⟩ :=
      place_advance scheduled happens (noWrap.fewer (BitVec.lt_def.mp less).le)
    obtain ⟨moreHappens, morePlace⟩ := place_advance scheduled happens noWrap
    rw [← place_lt_iff scheduled fewerHappens moreHappens, fewerPlace, morePlace]
    exact Nat.add_lt_add_left (BitVec.lt_def.mp less) _
  · subst announced
    obtain ⟨late, pred⟩ := scheduled.event
    have few := BitVec.lt_def.mp before
    -- the inserted second is where the event itself would have been
    have inPlace (other : Label) (otherHappens : Happens (some known) other) :
        other.2 = true ↔ place (some known) other = known.eventUtc.toNat := by
      rw [place_inserted inserted]
      simp only [BitVec.le_def]
      cases flag : other.2 with
      | false =>
          simp only [Bool.false_eq_true, false_or, false_iff]
          split <;> omega
      | true =>
          rw [if_pos (.inl rfl), otherHappens.repeats flag, pred]
          simp only [true_iff]
          omega
    have here : place (some known) label ≤ known.eventUtc.toNat := by
      rw [place_inserted inserted]
      split
      · exact few
      · exact few.le
    have counts (count : BitVec 32) (noWrap : NoWrap (some known) label count.toNat) :
        (advance (some known) label count).2 = true ↔
          count.toNat = known.eventUtc.toNat - place (some known) label := by
      obtain ⟨countHappens, countPlace⟩ := place_advance scheduled happens noWrap
      rw [inPlace _ countHappens, countPlace]
      omega
    have small : known.eventUtc.toNat - place (some known) label < 2 ^ 32 :=
      lt_of_le_of_lt (Nat.sub_le _ _) known.eventUtc.isLt
    have exactly : (BitVec.ofNat 32 (known.eventUtc.toNat - place (some known) label)).toNat =
        known.eventUtc.toNat - place (some known) label := by
      rw [BitVec.toNat_ofNat, Nat.mod_eq_of_lt small]
    have noWrap : NoWrap (some known) label
        (BitVec.ofNat 32 (known.eventUtc.toNat - place (some known) label)).toNat := by
      refine ⟨?_, fun _ announced deleted => ?_⟩
      · rw [exactly, place_inserted inserted]
        have bound := known.eventUtc.isLt
        simp only [BitVec.le_def]
        split <;> omega
      · cases announced
        omega
    refine ⟨_, ⟨noWrap, (counts _ noWrap).mpr exactly⟩, fun count found => ?_⟩
    exact BitVec.eq_of_toNat_eq (((counts count found.1).mp found.2).trans exactly.symm)
  · obtain ⟨countHappens, _⟩ := place_advance scheduled happens noWrap
    exact countHappens.kept known announced deleted

/-- The leap second at the end of 2016. -/
def leap2016 : UtcLeap where
  eventUtc := 1483228800
  change := 1

theorem scheduled_2016 : Scheduled (some leap2016) := by
  intro known announced
  cases announced
  decide

/-- No second of 2016 is deleted. -/
theorem kept_2016 {claim : UtcLeap → Prop} :
    ∀ known, some leap2016 = some known → known.change < 0 → claim known := by
  intro known announced deleted
  cases announced
  exact absurd deleted (by decide)

theorem happens_2016 : Happens (some leap2016) (1483228798, false) where
  flagged := nofun
  kept := kept_2016

/-- 23:59:58 to 00:00:00 by way of 23:59:60. -/
theorem advance_composes_2016 :
    advance (some leap2016) (advance (some leap2016) (1483228798, false) 2) 1 =
      advance (some leap2016) (1483228798, false) 3 :=
  (advance_composes scheduled_2016 happens_2016).1 2 1 ⟨by decide, kept_2016⟩

example : advance (some leap2016) (1483228798, false) 2 = (1483228799, true) := by decide

end GpsClock.Platform
