import GpsClock.Store.Scan

/-! # Writing records

A record is appended to the page in use, a double word at a time, and read back.
Where it does not fit, or something went wrong there, the other page is erased, the
latest record of each other type and the new one are written to it, and last its
header. Nothing but the words written changes (`GpsClock.Store.writeWords_untouched`), and
what was written without error is there to read (`GpsClock.Store.writeWords_ok`).
-/

namespace GpsClock.Store

open Journal

/-- The loop of `write_words` that writes. -/
def writeDoubles (page : Fin 2) : Chip → Nat → List Word → Option StoreResult × Chip
  | chip, word, first :: second :: rest =>
      match flashWriteDoubleWord chip page word first second with
      | (some .ok, chip) => writeDoubles page chip (word + 2) rest
      | (some .failed, chip) => (some .flashFailed, chip)
      | (none, chip) => (none, chip)
  | chip, _, _ => (some .ok, chip)

/-- `write_words`: nothing is returned where power is lost. -/
def writeWords (chip : Chip) (page : Fin 2) (word : Nat) (words : List Word) :
    Option StoreResult × Chip :=
  match writeDoubles page chip word words with
  | (some .ok, chip) =>
      if readWords (chip.flash page) word words.length = words then (some .ok, chip)
      else (some .verify, chip)
  | stopped => stopped

/-- Where the records copied to the new page stand, and where the next goes. -/
structure Copy where
  newWord : Nat → Nat := fun _ => 0
  word : Nat := storeHeaderWords

/-- The loop of `change_page` over the other types. -/
def copyRecords (store : StoreStatus) (type : Nat) (target : Fin 2) :
    List Nat → Copy → Chip → Option StoreResult × Copy × Chip
  | [], copy, chip => (some .ok, copy, chip)
  | other :: rest, copy, chip =>
      if other = type ∨ store.recordWord other = 0 then
        copyRecords store type target rest copy chip
      else
        match writeWords chip target copy.word
            (readWords (chip.flash store.page) (store.recordWord other)
              (recordWords (store.recordLength other))) with
        | (some .ok, chip) =>
            copyRecords store type target rest
              { newWord := Function.update copy.newWord other copy.word
                word := copy.word + recordWords (store.recordLength other) } chip
        | (result, chip) => (result, copy, chip)

/-- The page `change_page` changes to. -/
def StoreStatus.target (store : StoreStatus) : Fin 2 :=
  if store.active then 1 - store.page else 0

/-- The generation of the page `change_page` writes. -/
def StoreStatus.nextGeneration (store : StoreStatus) : Word :=
  if store.active then store.generation + 1 else 1

/-- The types `change_page` goes through. -/
def otherTypes : List Nat := [1, 2, 3, 4]

/-- The end of `change_page`: the new page is the one in use. -/
def StoreStatus.changed (store : StoreStatus) (type length : Nat) (copy : Copy) : StoreStatus :=
  { store with
    recordWord := Function.update copy.newWord type copy.word
    recordLength := Function.update store.recordLength type length
    active := true
    page := store.target
    generation := store.nextGeneration
    usedWords := copy.word + recordWords length
    full := false
    pageChanges := store.pageChanges + 1 }

/-- The end of `change_page`: the new record, and last the header. -/
def finishPage (store : StoreStatus) (copy : Copy) (chip : Chip) (type : Nat) (data : List Byte) :
    Option StoreResult × StoreStatus × Chip :=
  match writeWords chip store.target copy.word (buildRecord type data) with
  | (some .ok, chip) =>
      match writeWords chip store.target 0 (headerWords store.nextGeneration) with
      | (some .ok, chip) => (some .ok, store.changed type data.length copy, chip)
      | (result, chip) => (result, store, chip)
  | (result, chip) => (result, store, chip)

/-- `change_page`. -/
def changePage (store : StoreStatus) (chip : Chip) (type : Nat) (data : List Byte) :
    Option StoreResult × StoreStatus × Chip :=
  match flashErasePage chip store.target with
  | (none, chip) => (none, store, chip)
  | (some .failed, chip) => (some .flashFailed, store, chip)
  | (some .ok, chip) =>
      if ¬blank (chip.flash store.target) 0 flashPageWords then (some .verify, store, chip)
      else
        match copyRecords store type store.target otherTypes {} chip with
        | (some .ok, copy, chip) => finishPage store copy chip type data
        | (result, _, chip) => (result, store, chip)

/-- `store_write_erases`. -/
def storeWriteErases (store : StoreStatus) (length : Nat) : Bool :=
  !store.active || store.full || flashPageWords < store.usedWords + recordWords length

/-- The end of an append that was read back. -/
def StoreStatus.appended (store : StoreStatus) (type length : Nat) : StoreStatus :=
  { store with
    recordWord := Function.update store.recordWord type store.usedWords
    recordLength := Function.update store.recordLength type length
    usedWords := store.usedWords + recordWords length
    appends := store.appends + 1
    lastResult := .ok }

/-- The end of `store_write`: a change of page. -/
def writeByChange (store : StoreStatus) (chip : Chip) (type : Nat) (data : List Byte) :
    Option StoreResult × StoreStatus × Chip :=
  match changePage store chip type data with
  | (none, store, chip) => (none, store, chip)
  | (some .ok, store, chip) => (some .ok, { store with lastResult := .ok }, chip)
  | (some result, store, chip) =>
      (some result, { store with failures := store.failures + 1, lastResult := result }, chip)

/-- Whether `store_write` appends to the page in use. -/
def appends (store : StoreStatus) (flash : Flash) (length : Nat) : Bool :=
  !storeWriteErases store length &&
    blank (flash store.page) store.usedWords (recordWords length)

/-- `store_write`. -/
def storeWrite (store : StoreStatus) (chip : Chip) (type : Nat) (data : List Byte) :
    Option StoreResult × StoreStatus × Chip :=
  if type = 0 ∨ storeTypes ≤ type ∨ storeRecordMaxBytes < data.length then
    (some .badArgument, { store with lastResult := .badArgument }, chip)
  else if storeWriteErases store data.length then
    writeByChange store chip type data
  else if blank (chip.flash store.page) store.usedWords (recordWords data.length) then
    match writeWords chip store.page store.usedWords (buildRecord type data) with
    | (none, chip) => (none, store, chip)
    | (some .ok, chip) => (some .ok, store.appended type data.length, chip)
    | (some _, chip) =>
        writeByChange { store with failures := store.failures + 1, full := true } chip type data
  else writeByChange { store with full := true } chip type data

/-! ## What writing words does -/

theorem writeDoubles_untouched (page : Fin 2) (chip : Chip) (word : Nat) (words : List Word) :
    Untouched chip.flash (writeDoubles page chip word words).2.flash page word words.length := by
  induction chip, word, words using writeDoubles.induct page with
  | case1 chip word first second rest next written ih =>
      have here := flashWriteDoubleWord_untouched chip page word first second
      rw [written] at here
      rw [writeDoubles, written]
      exact (here.mono (Nat.le_refl _) (by simp only [List.length_cons]; omega)).trans
        (ih.mono (Nat.le_add_right _ _) (by simp only [List.length_cons]; omega))
  | case2 chip word first second rest next written =>
      have here := flashWriteDoubleWord_untouched chip page word first second
      rw [written] at here
      rw [writeDoubles, written]
      exact here.mono (Nat.le_refl _) (by simp only [List.length_cons]; omega)
  | case3 chip word first second rest next written =>
      have here := flashWriteDoubleWord_untouched chip page word first second
      rw [written] at here
      rw [writeDoubles, written]
      exact here.mono (Nat.le_refl _) (by simp only [List.length_cons]; omega)
  | case4 chip word words short =>
      rw [writeDoubles]
      · exact .rfl
      · exact short

/-- Nothing changes but the words written. -/
theorem writeWords_untouched (chip : Chip) (page : Fin 2) (word : Nat) (words : List Word) :
    Untouched chip.flash (writeWords chip page word words).2.flash page word words.length := by
  have doubles := writeDoubles_untouched page chip word words
  unfold writeWords
  split
  · rename_i next written
    rw [written] at doubles
    split <;> exact doubles
  · exact doubles

/-- What was written without error is there to read. -/
theorem writeWords_ok {chip : Chip} {page : Fin 2} {word : Nat} {words : List Word}
    (written : (writeWords chip page word words).1 = some .ok) :
    readWords ((writeWords chip page word words).2.flash page) word words.length = words := by
  unfold writeWords at written ⊢
  split at written
  · split at written
    · rename_i same
      simp [same]
    · cases written
  · rename_i other
    exact (other _ (Prod.ext written rfl)).elim

/-! ## What a power cut leaves of them -/

/-- Where only power may be lost, words are written whole, or a cut leaves some of the
double words written and the rest as they were. -/
theorem writeDoubles_powerOnly (page : Fin 2) (chip : Chip) (word : Nat) (words : List Word)
    (even : words.length % 2 = 0) (power : PowerOnly chip.outcomes) :
    PowerOnly (writeDoubles page chip word words).2.outcomes ∧
      (((writeDoubles page chip word words).1 = some .ok ∧
          readWords ((writeDoubles page chip word words).2.flash page) word words.length = words) ∨
        (writeDoubles page chip word words).1 = none ∧
          ∃ doubles, 2 * doubles < words.length ∧
            Untouched chip.flash (writeDoubles page chip word words).2.flash page word (2 * doubles) ∧
            readWords ((writeDoubles page chip word words).2.flash page) word (2 * doubles) =
              words.take (2 * doubles)) := by
  induction chip, word, words using writeDoubles.induct page with
  | case1 chip word first second rest next written ih =>
      rcases flashWriteDoubleWord_powerOnly power word first second with
        ⟨_, done, still, atFirst, atSecond⟩ | cut
      · rw [written] at done
        cases done
        have grown : (first :: second :: rest).length = 2 + rest.length := Nat.add_comm _ 2
        obtain ⟨still, whole | ⟨cut, doubles, fewer, untouched, begun⟩⟩ := ih (by omega) still
        · have kept := writeDoubles_untouched page next (word + 2) rest
          rw [writeDoubles, written]
          refine ⟨still, Or.inl ⟨whole.1, ?_⟩⟩
          rw [grown, readWords_double, whole.2, kept.below page (by omega),
            kept.below page (by omega), atFirst, atSecond]
        · have here := flashWriteDoubleWord_untouched chip page word first second
          rw [written] at here
          have further : 2 * (doubles + 1) = 2 + 2 * doubles := by omega
          rw [writeDoubles, written]
          refine ⟨still, Or.inr ⟨cut, doubles + 1, by omega, ?_, ?_⟩⟩
          · exact (here.mono (Nat.le_refl _) (by omega)).trans
              (untouched.mono (Nat.le_add_right _ _) (by omega))
          · rw [further, readWords_double, begun, untouched.below page (by omega),
              untouched.below page (by omega), atFirst, atSecond, Nat.add_comm 2]
            rfl
      · rw [written] at cut
        cases cut
  | case2 chip word first second rest next written =>
      rcases flashWriteDoubleWord_powerOnly power word first second with
        ⟨_, done, _⟩ | cut
      · rw [written] at done
        cases done
      · rw [written] at cut
        cases cut
  | case3 chip word first second rest next written =>
      rcases flashWriteDoubleWord_powerOnly power word first second with
        ⟨_, done, _⟩ | cut
      · rw [written] at done
        cases done
      · rw [written] at cut
        cases cut
        rw [writeDoubles, written]
        exact ⟨power, Or.inr ⟨rfl, 0, by simp, .rfl, rfl⟩⟩
  | case4 words chip word short =>
      have empty : words = [] := by
        rcases words with _ | ⟨first, _ | ⟨second, rest⟩⟩
        · rfl
        · simp at even
        · exact absurd rfl (short first second rest)
      subst empty
      exact ⟨power, Or.inl ⟨rfl, rfl⟩⟩

/-- Where only power may be lost, what is written is written without error, or a cut leaves
some of its double words written and the rest as they were. -/
theorem writeWords_powerOnly {chip : Chip} {page : Fin 2} {word : Nat} {words : List Word}
    (even : words.length % 2 = 0) (power : PowerOnly chip.outcomes) :
    PowerOnly (writeWords chip page word words).2.outcomes ∧
      ((writeWords chip page word words).1 = some .ok ∨
        (writeWords chip page word words).1 = none ∧
          ∃ doubles, 2 * doubles < words.length ∧
            Untouched chip.flash (writeWords chip page word words).2.flash page word (2 * doubles) ∧
            readWords ((writeWords chip page word words).2.flash page) word (2 * doubles) =
              words.take (2 * doubles)) := by
  obtain ⟨still, ⟨done, whole⟩ | ⟨cut, begun⟩⟩ := writeDoubles_powerOnly page chip word words even power
  · have result : writeWords chip page word words =
        (some .ok, (writeDoubles page chip word words).2) := by
      rw [writeWords, show writeDoubles page chip word words =
        (some .ok, (writeDoubles page chip word words).2) from Prod.ext done rfl]
      exact if_pos whole
    rw [result]
    exact ⟨still, Or.inl rfl⟩
  · have result : writeWords chip page word words =
        (none, (writeDoubles page chip word words).2) := by
      rw [writeWords, show writeDoubles page chip word words =
        (none, (writeDoubles page chip word words).2) from Prod.ext cut rfl]
    rw [result]
    exact ⟨still, Or.inr ⟨rfl, begun⟩⟩

end GpsClock.Store
