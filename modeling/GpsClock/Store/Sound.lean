import GpsClock.Store.Write

/-! # The store's index is the journal of its page

In every run, whatever becomes of the flash's operations, the store's index holds the
latest intact record of each type as far as its page is used
(`GpsClock.Store.Sound`). A reset establishes it (`GpsClock.Store.Sound.storeInit`), a
change of page that came to nothing keeps it, and one that returned no error makes the
new page a journal of the same records with the new one last
(`GpsClock.Store.changePage_spec`).
-/

namespace GpsClock.Store

open Journal

/-- The record the index says is held of a type. -/
def StoreStatus.heldRecord (store : StoreStatus) (type : Nat) : Record :=
  { type, length := store.recordLength type, words := recordWords (store.recordLength type)
    intact := true }

/-- The journal of a page, as far as it is used, holds what the index says. -/
structure Journalled (page : Page) (store : StoreStatus) (entries : List (Nat × Record)) : Prop where
  walk : Walk (found page) storeHeaderWords entries store.usedWords
  index : ∀ type, 0 < type → type < storeTypes → latest recordKey entries type =
    if store.recordWord type = 0 then none
    else some (store.recordWord type, store.heldRecord type)

/-- The store agrees with the flash about the page in use. -/
structure Sound (store : StoreStatus) (flash : Flash) : Prop where
  live : store.active = true → headerValid (flash store.page) = some store.generation
  idle : store.active = false → headerValid (flash 1) = none ∧ ∀ type, store.recordWord type = 0
  journal : store.active = true → ∃ entries, Journalled (flash store.page) store entries

theorem Journalled.reading {flash : Flash} {store : StoreStatus} {entries : List (Nat × Record)}
    (journal : Journalled (flash store.page) store entries) (active : store.active = true)
    {type : Nat} (known : 0 < type ∧ type < storeTypes) :
    reading store flash type = entriesReading (flash store.page) entries type := by
  have index := journal.index type known.1 known.2
  rw [Store.reading, storeRead, active, entriesReading]
  by_cases absent : store.recordWord type = 0
  · rw [if_pos absent] at index
    rw [index, if_pos (Or.inr (Or.inr (Or.inr (Or.inl absent))))]
    rfl
  · rw [if_neg absent] at index
    obtain ⟨span, stands, _⟩ := journal.walk.stands (mem_of_latest index).1
    have short := (checkRecord_spec (checkRecord_of_found stands).1).2.1
    rw [index, if_neg]
    · rfl
    · have types : storeTypes = 5 := rfl
      simp only [StoreStatus.heldRecord] at short
      simp only [not_true_eq_false, false_or]
      omega

/-- The record of a type stands where the index says. -/
theorem Journalled.held {page : Page} {store : StoreStatus} {entries : List (Nat × Record)}
    (journal : Journalled page store entries) {type : Nat} (known : 0 < type ∧ type < storeTypes)
    (present : store.recordWord type ≠ 0) :
    checkRecord page (store.recordWord type) = some (store.heldRecord type) := by
  have index := journal.index type known.1 known.2
  rw [if_neg present] at index
  obtain ⟨span, stands, _⟩ := journal.walk.stands (mem_of_latest index).1
  exact (checkRecord_of_found stands).1

/-- The journal depends on the words used. -/
theorem Journalled.congr {page other : Page} {store : StoreStatus} {entries : List (Nat × Record)}
    (journal : Journalled page store entries)
    (same : ∀ word, storeHeaderWords ≤ word → word < store.usedWords → other word = page word) :
    Journalled other store entries :=
  ⟨walk_below journal.walk same, journal.index⟩

theorem checkRecord_record {page : Page} {word : Nat} {record : Record}
    (stands : checkRecord page word = some record) (intact : record.intact = true) :
    record = { type := record.type, length := record.length
               words := recordWords record.length, intact := true } := by
  obtain ⟨type, length, words, mark⟩ := record
  have spans := (checkRecord_spec stands).2.2.1
  simp only at spans intact
  rw [spans, intact]

theorem scan_kept (flash : Flash) (store : StoreStatus) :
    (scan flash store).active = store.active ∧ (scan flash store).page = store.page ∧
      (scan flash store).generation = store.generation := by
  obtain ⟨entries, stop, walk, stops⟩ := exists_walk (flash store.page)
  rw [scan_eq walk stops]
  obtain ⟨active, page, generation, _⟩ := stopped_kept
    ({ store with
       recordWord := fun _ => 0, recordLength := fun _ => 0, full := false }.noteAll entries)
    (flash store.page) stop
  obtain ⟨active', page', generation', _⟩ := noteAll_kept
    { store with recordWord := fun _ => 0, recordLength := fun _ => 0, full := false } entries
  exact ⟨active.trans active', page.trans page', generation.trans generation'⟩

/-- A scan's index is the journal it walked. -/
theorem scan_journalled {flash : Flash} (store : StoreStatus) {entries : List (Nat × Record)}
    {stop : Nat} (walk : Walk (found (flash store.page)) storeHeaderWords entries stop)
    (stops : Stops (found (flash store.page)) stop) :
    Journalled (flash store.page) (scan flash store) entries := by
  rw [scan_eq walk stops]
  obtain ⟨_, _, _, word, length, used⟩ := stopped_kept
    ({ store with
       recordWord := fun _ => 0, recordLength := fun _ => 0, full := false }.noteAll entries)
    (flash store.page) stop
  refine ⟨by rw [used]; exact walk, fun type low high => ?_⟩
  have index := noteAll_index
    { store with recordWord := fun _ => 0, recordLength := fun _ => 0, full := false } entries high
  rw [StoreStatus.heldRecord, word, length]
  cases held : latest recordKey entries type with
  | none =>
      rw [held, Prod.mk.injEq] at index
      rw [if_pos index.1]
  | some passed =>
      rw [held, Prod.mk.injEq] at index
      obtain ⟨member, counts⟩ := mem_of_latest held
      obtain ⟨intact, rfl, _⟩ := recordKey_eq_some counts
      obtain ⟨span, stands, after, _⟩ := walk.stands member
      have first : storeHeaderWords = 4 := rfl
      rw [index.1, index.2, if_neg (by omega),
        ← checkRecord_record (checkRecord_of_found stands).1 intact]

/-- A scan that does not give the page up as full stopped where nothing stands yet. -/
theorem scan_open {flash : Flash} {store : StoreStatus} (room : (scan flash store).full = false) :
    found (flash store.page) (scan flash store).usedWords = .free ∧
      ∃ entries, Walk (found (flash store.page)) storeHeaderWords entries
        (scan flash store).usedWords := by
  obtain ⟨entries, stop, walk, stops⟩ := exists_walk (flash store.page)
  rw [scan_eq walk stops] at room ⊢
  rw [(stopped_kept _ _ _).2.2.2.2.2]
  refine ⟨?_, entries, walk⟩
  cases stands : found (flash store.page) stop with
  | free => rfl
  | bad => simp [StoreStatus.stopped, stands] at room
  | entry record span => exact absurd stands (stops record span)

/-! ## What can still be come to -/

/-- No intact record of a type can be come to from a place on. -/
def Unread (page : Page) (word type : Nat) : Prop :=
  Clear (found page) (room page) (fun _ record => recordKey record = some type) word

/-- Where a scan of a page finds nothing yet, nothing is hidden further on. -/
def Orderly (page : Page) : Prop :=
  ∀ entries stop, Walk (found page) storeHeaderWords entries stop → found page stop = .free →
    ∀ type, Unread page stop type

theorem orderly_of_unread {page : Page} {entries : List (Nat × Record)} {word : Nat}
    (walk : Walk (found page) storeHeaderWords entries word)
    (unread : ∀ type, Unread page word type) : Orderly page := by
  intro passed stop taken free type
  obtain ⟨rest, _, onward⟩ := taken.split (.of_free free) walk
  exact (unread type).onward onward.reaches

/-- A page is read as far as its journal goes, where nothing is hidden further on. -/
theorem Journalled.pageReading {page : Page} {store : StoreStatus} {entries : List (Nat × Record)}
    (journal : Journalled page store entries) {type : Nat} (known : 0 < type ∧ type < storeTypes)
    (unread : Unread page store.usedWords type) :
    pageReading page type = entriesReading page entries type := by
  obtain ⟨passed, stop, walk, stops⟩ := exists_walk page
  obtain ⟨rest, rfl, onward⟩ := walk.split stops journal.walk
  rw [pageReading_eq walk stops known, entriesReading_append, entriesReading_eq_none]
  · rfl
  · exact fun later member => unread.walk onward member

/-- Past a record written where nothing stood, nothing more can be come to than before. -/
theorem Unread.past {page other : Page} {word type length : Nat} (unread : Unread page word type)
    (short : length ≤ storeRecordMaxBytes) (fits : word + recordWords length ≤ flashPageWords)
    (clean : blank page word (recordWords length) = true)
    (same : ∀ place, word + recordWords length ≤ place → other place = page place) :
    Unread other (word + recordWords length) type := by
  have four := recordWords_ge_four length
  have free : found page word = .free := by
    rw [blank_iff] at clean
    exact found_free ⟨clean 0 (by omega), clean 1 (by omega)⟩
  have onward := Clear.onward unread
    (.write free ⟨⟨length, short, rfl⟩, fits, clean⟩ (.here _))
  exact onward.congr (fun place after => (found_onward fun later past => same later (by omega)).symm)
    (fun place span after => room_onward fun later past => (same later (by omega)).symm)

/-! ## Resets -/

theorem choosePage_some {flash : Flash} {page : Fin 2} {generation : Word}
    (chosen : choosePage flash = some (page, generation)) :
    headerValid (flash page) = some generation := by
  unfold choosePage at chosen
  split at chosen
  · cases chosen
  · cases chosen
    assumption
  · cases chosen
    assumption
  · split at chosen <;> (cases chosen; assumption)

theorem choosePage_none {flash : Flash} (chosen : choosePage flash = none) :
    headerValid (flash 1) = none := by
  unfold choosePage at chosen
  split at chosen
  · assumption
  · cases chosen
  · cases chosen
  · split at chosen <;> cases chosen

/-- **A reset makes the store agree with the flash.** -/
theorem Sound.storeInit (flash : Flash) : Sound (storeInit flash) flash := by
  unfold Store.storeInit
  cases chosen : choosePage flash with
  | none => exact ⟨nofun, fun _ => ⟨choosePage_none chosen, fun _ => rfl⟩, nofun⟩
  | some pair =>
      obtain ⟨page, generation⟩ := pair
      obtain ⟨active, samePage, sameGeneration⟩ :=
        scan_kept flash { page, generation, active := true }
      obtain ⟨entries, stop, walk, stops⟩ := exists_walk (flash page)
      refine ⟨fun _ => ?_, fun idle => ?_, fun _ => ⟨entries, ?_⟩⟩
      · simp only [samePage, sameGeneration, choosePage_some chosen]
      · rw [active] at idle
        cases idle
      · simp only [samePage]
        exact scan_journalled { page, generation, active := true } walk stops

/-! ## Which page a reset chooses -/

theorem target_ne {store : StoreStatus} (active : store.active = true) :
    store.target ≠ store.page := by
  rw [StoreStatus.target, if_pos active]
  generalize store.page = page
  revert page
  decide

theorem target_idle {store : StoreStatus} (idle : store.active = false) : store.target = 0 := by
  rw [StoreStatus.target, if_neg (by simp [idle])]

/-- A page with a header between two pages, the other headerless, is chosen. -/
theorem choosePage_only {flash : Flash} {page other : Fin 2} {generation : Word}
    (different : other ≠ page) (valid : headerValid (flash page) = some generation)
    (invalid : headerValid (flash other) = none) : choosePage flash = some (page, generation) := by
  have whole : ∀ page other : Fin 2, other ≠ page → page = 0 ∧ other = 1 ∨ page = 1 ∧ other = 0 := by
    decide
  rcases whole page other different with ⟨rfl, rfl⟩ | ⟨rfl, rfl⟩
  · rw [choosePage, valid, invalid]
  · rw [choosePage, valid, invalid]

/-- Of two pages with headers the one a generation later is chosen, across the wrap. -/
theorem choosePage_later {flash : Flash} {page other : Fin 2} {generation : Word}
    (different : other ≠ page) (valid : headerValid (flash page) = some (generation + 1))
    (earlier : headerValid (flash other) = some generation) :
    choosePage flash = some (page, generation + 1) := by
  have ahead : (generation + 1 - generation).toInt = 1 := by
    rw [add_sub_cancel_left]
    decide
  have behind : (generation - (generation + 1)).toInt = -1 := by
    rw [sub_add_cancel_left]
    decide
  have whole : ∀ page other : Fin 2, other ≠ page → page = 0 ∧ other = 1 ∨ page = 1 ∧ other = 0 := by
    decide
  rcases whole page other different with ⟨rfl, rfl⟩ | ⟨rfl, rfl⟩
  · rw [choosePage, valid, earlier]
    simp only
    rw [if_pos (by omega)]
  · rw [choosePage, valid, earlier]
    simp only
    rw [if_neg (by omega)]

/-- The page just changed to is the one a reset would choose. -/
theorem Sound.choosePage_changed {store : StoreStatus} {flash after : Flash}
    (sound : Sound store flash)
    (written : headerValid (after store.target) = some store.nextGeneration)
    (elsewhere : ∀ page, page ≠ store.target → after page = flash page) :
    choosePage after = some (store.target, store.nextGeneration) := by
  cases active : store.active with
  | true =>
      have different := target_ne active
      rw [StoreStatus.nextGeneration, if_pos active] at written ⊢
      refine choosePage_later different.symm written ?_
      rw [elsewhere _ different.symm]
      exact sound.live active
  | false =>
      have first := target_idle active
      rw [first] at written elsewhere ⊢
      refine choosePage_only (show (1 : Fin 2) ≠ 0 by decide) written ?_
      rw [elsewhere 1 (by decide)]
      exact (sound.idle active).1

/-- The page a reset would choose where the page in use is the only one with a header. -/
theorem Sound.choosePage_kept {store : StoreStatus} {flash after : Flash}
    (sound : Sound store flash) (headerless : headerValid (after store.target) = none)
    (elsewhere : ∀ page, page ≠ store.target → after page = flash page) :
    choosePage after = if store.active then some (store.page, store.generation) else none := by
  cases active : store.active with
  | true =>
      have different := target_ne active
      rw [if_pos rfl]
      refine choosePage_only different ?_ headerless
      rw [elsewhere _ different.symm]
      exact sound.live active
  | false =>
      have first := target_idle active
      rw [first] at headerless elsewhere
      have other := (sound.idle active).1
      rw [← elsewhere 1 (by decide)] at other
      rw [choosePage, headerless, other]
      rfl

/-- The choice depends on the headers. -/
theorem choosePage_congr {flash after : Flash}
    (same : ∀ page, ∀ word < storeHeaderWords, after page word = flash page word) :
    choosePage after = choosePage flash := by
  rw [choosePage, choosePage, headerValid_congr (same 0), headerValid_congr (same 1)]

/-! ## Copying the other records -/

/-- A type whose record is to be copied. -/
def Wanted (store : StoreStatus) (type other : Nat) : Prop :=
  other ≠ type ∧ store.recordWord other ≠ 0

instance (store : StoreStatus) (type other : Nat) : Decidable (Wanted store type other) :=
  inferInstanceAs (Decidable (_ ∧ _))

/-- The new page once some of the types have been gone through. -/
structure Copied (store : StoreStatus) (type : Nat) (source page : Page) (done : List Nat)
    (copy : Copy) (entries : List (Nat × Record)) : Prop where
  walk : Walk (found page) storeHeaderWords entries copy.word
  rest : ∀ word, copy.word ≤ word → word < flashPageWords → page word = erased
  index : ∀ other, latest recordKey entries other =
    if other ∈ done ∧ Wanted store type other then
      some (copy.newWord other, store.heldRecord other)
    else none
  absent : ∀ other, ¬(other ∈ done ∧ Wanted store type other) → copy.newWord other = 0
  reads : ∀ other ∈ done, Wanted store type other → entriesReading page entries other =
    some (dataAt source (store.recordWord other + 2) (store.recordLength other))
  bound : copy.word ≤ storeHeaderWords + 68 * done.length

/-- A blank page holds the copies of no types. -/
theorem Copied.blank {store : StoreStatus} {type : Nat} {source page : Page}
    (empty : ∀ word < flashPageWords, page word = erased) :
    Copied store type source page [] {} [] where
  walk := .stay _
  rest := fun word _ inside => empty word inside
  index := fun other => by simp [latest]
  absent := fun _ _ => rfl
  reads := nofun
  bound := Nat.le_refl _

variable {store : StoreStatus} {type : Nat} {source page after : Page} {done : List Nat}
  {copy : Copy} {entries : List (Nat × Record)}

/-- A type with nothing to copy. -/
theorem Copied.skip (copied : Copied store type source page done copy entries) (other : Nat)
    (unwanted : ¬Wanted store type other) :
    Copied store type source page (done ++ [other]) copy entries := by
  have same : ∀ sought, (sought ∈ done ++ [other] ∧ Wanted store type sought) ↔
      (sought ∈ done ∧ Wanted store type sought) := by
    intro sought
    constructor
    · rintro ⟨member, wanted⟩
      rcases List.mem_append.mp member with earlier | last
      · exact ⟨earlier, wanted⟩
      · cases List.mem_singleton.mp last
        exact absurd wanted unwanted
    · rintro ⟨member, wanted⟩
      exact ⟨List.mem_append_left _ member, wanted⟩
  refine ⟨copied.walk, copied.rest, ?_, ?_, ?_, ?_⟩
  · intro sought
    rw [copied.index sought]
    simp only [same]
  · intro sought excluded
    exact copied.absent sought (fun included => excluded ((same sought).mpr included))
  · intro sought member wanted
    exact copied.reads sought ((same sought).mp ⟨member, wanted⟩).1 wanted
  · rw [List.length_append, List.length_singleton]
    have bound := copied.bound
    omega

/-- A type whose record was copied and read back. -/
theorem Copied.written (copied : Copied store type source page done copy entries) {other : Nat}
    (wanted : Wanted store type other) (known : other < storeTypes)
    (held : checkRecord source (store.recordWord other) = some (store.heldRecord other))
    (same : ∀ word, ¬(copy.word ≤ word ∧
      word < copy.word + recordWords (store.recordLength other)) → after word = page word)
    (read : readWords after copy.word (recordWords (store.recordLength other)) =
      readWords source (store.recordWord other) (recordWords (store.recordLength other)))
    (fits : copy.word + recordWords (store.recordLength other) ≤ flashPageWords) :
    Copied store type source after (done ++ [other])
      { newWord := Function.update copy.newWord other copy.word
        word := copy.word + recordWords (store.recordLength other) }
      (entries ++ [(copy.word, store.heldRecord other)]) := by
  have stands : checkRecord after copy.word = some (store.heldRecord other) :=
    checkRecord_congr held read fits
  have below : ∀ word, storeHeaderWords ≤ word → word < copy.word → after word = page word :=
    fun word _ low => same word (by omega)
  have counts : recordKey (store.heldRecord other) = some other := by
    simp [recordKey, StoreStatus.heldRecord, known]
  have member : ∀ sought, sought ∈ done ++ [other] ∧ Wanted store type sought ↔
      sought = other ∨ sought ∈ done ∧ Wanted store type sought := by
    intro sought
    rw [List.mem_append, List.mem_singleton]
    constructor
    · rintro ⟨earlier | last, chosen⟩
      · exact Or.inr ⟨earlier, chosen⟩
      · exact Or.inl last
    · rintro (rfl | ⟨earlier, chosen⟩)
      · exact ⟨Or.inr rfl, wanted⟩
      · exact ⟨Or.inl earlier, chosen⟩
  refine ⟨walk_extend copied.walk below stands, ?_, ?_, ?_, ?_, ?_⟩
  · intro word past inside
    rw [same word (by simp only at past; omega)]
    exact copied.rest word (by simp only at past; omega) inside
  · intro sought
    rw [latest_concat, counts, copied.index]
    by_cases equal : sought = other
    · subst equal
      rw [if_pos rfl, if_pos ((member sought).mpr (Or.inl rfl))]
      simp only [Function.update_self]
    · rw [if_neg (fun same => equal (Option.some.inj same).symm)]
      simp only [member, equal, false_or, Function.update_of_ne, ne_eq, not_false_eq_true]
  · intro sought excluded
    rw [member, not_or] at excluded
    simp only [Function.update_of_ne excluded.1]
    exact copied.absent sought excluded.2
  · intro sought included chosen
    rw [entriesReading_extend copied.walk below counts]
    split
    · rename_i equal
      subst equal
      exact congrArg some (dataAt_congr read)
    · rename_i different
      exact copied.reads sought
        (((member sought).mp ⟨included, chosen⟩).resolve_left different).1 chosen
  · have bound := copied.bound
    have short := (checkRecord_spec held).2.1
    have words := recordWords_le short
    simp only [StoreStatus.heldRecord] at words
    simp only [List.length_append, List.length_singleton]
    omega

/-- Copying goes through the types in turn. -/
theorem copyRecords_spec {target : Fin 2} (rest done : List Nat) (copy : Copy) (chip : Chip)
    (entries : List (Nat × Record))
    (copied : Copied store type source (chip.flash target) done copy entries)
    (same : ∀ other ∈ rest, store.recordWord other ≠ 0 →
      store.page ≠ target ∧ chip.flash store.page = source)
    (held : ∀ other ∈ rest, store.recordWord other ≠ 0 → other < storeTypes ∧
      checkRecord source (store.recordWord other) = some (store.heldRecord other))
    (roomy : storeHeaderWords + 68 * (done.length + rest.length) ≤ flashPageWords) :
    Untouched chip.flash (copyRecords store type target rest copy chip).2.2.flash target
        storeHeaderWords (flashPageWords - storeHeaderWords) ∧
      (PowerOnly chip.outcomes →
        PowerOnly (copyRecords store type target rest copy chip).2.2.outcomes ∧
          ((copyRecords store type target rest copy chip).1 = some .ok ∨
            (copyRecords store type target rest copy chip).1 = none)) ∧
      ((copyRecords store type target rest copy chip).1 = some .ok →
        ∃ entries, Copied store type source
          ((copyRecords store type target rest copy chip).2.2.flash target) (done ++ rest)
          (copyRecords store type target rest copy chip).2.1 entries) := by
  induction rest generalizing done copy chip entries with
  | nil =>
      refine ⟨.rfl, fun power => ⟨power, Or.inl rfl⟩, fun _ => ⟨entries, ?_⟩⟩
      rw [List.append_nil]
      exact copied
  | cons other rest ih =>
      rw [List.length_cons] at roomy
      rw [copyRecords]
      split
      · rename_i unwanted
        have skipped := copied.skip other
          (fun wanted => unwanted.elim wanted.1 wanted.2)
        have onward := ih (done ++ [other]) copy chip entries skipped
          (fun later member => same later (List.mem_cons_of_mem _ member))
          (fun later member => held later (List.mem_cons_of_mem _ member))
          (by rw [List.length_append, List.length_singleton]; omega)
        rw [List.append_assoc, List.singleton_append] at onward
        exact onward
      · rename_i wanted
        rw [not_or] at wanted
        obtain ⟨apart, sourced⟩ := same other List.mem_cons_self wanted.2
        obtain ⟨known, stands⟩ := held other List.mem_cons_self wanted.2
        have short := recordWords_le (checkRecord_spec stands).2.1
        simp only [StoreStatus.heldRecord] at short
        have bound := copied.bound
        rw [sourced]
        generalize wordsRead : readWords source (store.recordWord other)
          (recordWords (store.recordLength other)) = words
        have count : words.length = recordWords (store.recordLength other) := by
          rw [← wordsRead, length_readWords]
        have untouched := writeWords_untouched chip target copy.word words
        rw [count] at untouched
        have within : Untouched chip.flash (writeWords chip target copy.word words).2.flash target
            storeHeaderWords (flashPageWords - storeHeaderWords) :=
          untouched.mono copied.walk.le (by omega)
        have powered := fun power => @writeWords_powerOnly chip target copy.word words
          (by rw [count]; exact recordWords_even _) power
        cases result : writeWords chip target copy.word words with
        | mk code next =>
          rw [result] at untouched within powered
          split
          · rename_i written
            cases written
            have read := @writeWords_ok chip target copy.word words (by rw [result])
            rw [result, count, ← wordsRead] at read
            have onward := ih (done ++ [other]) _ next _
              (copied.written wanted known stands
                (fun word outside => untouched target word (fun inside => outside inside.2)) read
                (by omega))
              (fun later member present => by
                obtain ⟨apart, sourced⟩ := same later (List.mem_cons_of_mem _ member) present
                exact ⟨apart, (untouched.elsewhere apart).trans sourced⟩)
              (fun later member => held later (List.mem_cons_of_mem _ member))
              (by rw [List.length_append, List.length_singleton]; omega)
            rw [List.append_assoc, List.singleton_append] at onward
            exact ⟨within.trans onward.1, fun power => onward.2.1 (powered power).1, onward.2.2⟩
          · rename_i failed pair
            cases pair
            refine ⟨within, fun power => ⟨(powered power).1, ?_⟩, fun written => ?_⟩
            · exact (powered power).2.imp id And.left
            · exact (failed written).elim

/-! ## The new page -/

theorem mem_otherTypes {type : Nat} : type ∈ otherTypes ↔ 0 < type ∧ type < storeTypes := by
  have types : storeTypes = 5 := rfl
  simp only [otherTypes, List.mem_cons, List.not_mem_nil, or_false]
  omega

theorem Sound.reading_held {flash : Flash} (sound : Sound store flash) {other : Nat}
    (known : 0 < other ∧ other < storeTypes) (present : store.recordWord other ≠ 0) :
    store.active = true ∧
      checkRecord (flash store.page) (store.recordWord other) = some (store.heldRecord other) ∧
      reading store flash other =
        some (dataAt (flash store.page) (store.recordWord other + 2) (store.recordLength other)) := by
  have active : store.active = true := by
    by_contra idle
    rw [Bool.not_eq_true] at idle
    exact present ((sound.idle idle).2 other)
  obtain ⟨entries, journal⟩ := sound.journal active
  refine ⟨active, journal.held known present, ?_⟩
  have index := journal.index other known.1 known.2
  rw [if_neg present] at index
  rw [journal.reading active known, entriesReading, index]
  rfl

theorem reading_absent {flash : Flash} {other : Nat}
    (absent : store.recordWord other = 0) : reading store flash other = none := by
  rw [reading, storeRead, if_pos (Or.inr (Or.inr (Or.inr (Or.inl absent))))]

/-- The record written after the copies makes the page a journal of the records of every
type, the new one with its data. -/
theorem Copied.complete {flash : Flash} {data : List Byte} (sound : Sound store flash)
    (copied : Copied store type (flash store.page) page otherTypes copy entries)
    (known : 0 < type ∧ type < storeTypes) (short : data.length ≤ storeRecordMaxBytes)
    (same : ∀ word, ¬(copy.word ≤ word ∧ word < copy.word + recordWords data.length) →
      after word = page word)
    (read : readWords after copy.word (recordWords data.length) = buildRecord type data) :
    ∃ entries, Journalled after (store.changed type data.length copy) entries ∧
      (∀ word, copy.word + recordWords data.length ≤ word → word < flashPageWords →
        after word = erased) ∧
      ∀ other, 0 < other → other < storeTypes → entriesReading after entries other =
        if other = type then some data else reading store flash other := by
  have bound := copied.bound
  have words := recordWords_le short
  have fits : copy.word + recordWords data.length ≤ flashPageWords := by
    have counts : otherTypes.length = 4 := rfl
    have first : storeHeaderWords = 4 := rfl
    have total : flashPageWords = 1024 := rfl
    omega
  have stands := checkRecord_buildRecord known short fits read
  have below : ∀ word, storeHeaderWords ≤ word → word < copy.word → after word = page word :=
    fun word _ low => same word (by omega)
  have counts : recordKey { type, length := data.length, words := recordWords data.length
                            intact := true } = some type := by
    simp [recordKey, known.2]
  have first : storeHeaderWords = 4 := rfl
  have start := copied.walk.le
  refine ⟨_, ⟨walk_extend copied.walk below stands, ?_⟩, ?_, ?_⟩
  · intro other low high
    rw [latest_concat, counts, copied.index]
    simp only [StoreStatus.changed, StoreStatus.heldRecord]
    by_cases equal : other = type
    · subst equal
      simp only [Function.update_self, if_true]
      rw [if_neg (by omega)]
    · have different : ¬some type = some other := fun same => equal (Option.some.inj same).symm
      rw [if_neg different]
      simp only [Function.update_of_ne equal]
      by_cases wanted : Wanted store type other
      · have included : other ∈ otherTypes ∧ Wanted store type other :=
          ⟨mem_otherTypes.mpr ⟨low, high⟩, wanted⟩
        have index := copied.index other
        rw [if_pos included] at index
        obtain ⟨span, _, place, _⟩ := copied.walk.stands (mem_of_latest index).1
        rw [if_pos included, if_neg (by simp only at place; omega)]
      · have excluded : ¬(other ∈ otherTypes ∧ Wanted store type other) :=
          fun included => wanted included.2
        rw [if_neg excluded, copied.absent other excluded, if_pos rfl]
  · intro word past inside
    rw [same word (by omega)]
    exact copied.rest word (by omega) inside
  · intro other low high
    rw [entriesReading_extend copied.walk below counts]
    split
    · exact congrArg some (dataAt_buildRecord read)
    · rename_i different
      by_cases present : store.recordWord other = 0
      · rw [reading_absent present, entriesReading, copied.index, if_neg]
        · rfl
        · exact fun included => included.2.2 present
      · rw [(sound.reading_held ⟨low, high⟩ present).2.2]
        exact copied.reads other (mem_otherTypes.mpr ⟨low, high⟩) ⟨different, present⟩

/-- What a change of page without error makes. -/
structure Renewed (store : StoreStatus) (flash : Flash) (type : Nat) (data : List Byte)
    (next : StoreStatus) (written : Flash) : Prop where
  active : next.active = true
  page : next.page = store.target
  generation : next.generation = store.nextGeneration
  full : next.full = false
  header : headerValid (written store.target) = some store.nextGeneration
  journal : ∃ entries, Journalled (written store.target) next entries
  rest : ∀ word, next.usedWords ≤ word → word < flashPageWords →
    written store.target word = erased
  reads : ∀ other, reading next written other =
    if other = type then some data else reading store flash other

/-- What a change of page that came to nothing leaves: what the erase left, a page without
a header, or a whole copy of the records with something written as its header. -/
inductive Broken (store : StoreStatus) (chip : Chip) (type : Nat) : Flash → Prop
  | erasing : Broken store chip type (flashErasePage chip store.target).2.flash
  | copying {flash : Flash}
      (headerless : ∀ word < storeHeaderWords, flash store.target word = erased) :
      Broken store chip type flash
  | header {last : Chip} {entries : List (Nat × Record)} {stop : Nat}
      (headerless : ∀ word < storeHeaderWords, last.flash store.target word = erased)
      (power : PowerOnly chip.outcomes → PowerOnly last.outcomes)
      (walk : Walk (found (last.flash store.target)) storeHeaderWords entries stop)
      (rest : ∀ word, stop ≤ word → word < flashPageWords → last.flash store.target word = erased)
      (reads : ∀ other, 0 < other → other < storeTypes → other ≠ type →
        entriesReading (last.flash store.target) entries other = reading store chip.flash other)
      (failed : (writeWords last store.target 0 (headerWords store.nextGeneration)).1 ≠ some .ok) :
      Broken store chip type
        (writeWords last store.target 0 (headerWords store.nextGeneration)).2.flash

/-- **The record and the header written after the copies.** -/
theorem finishPage_spec {chip last : Chip} {data : List Byte} (sound : Sound store chip.flash)
    (copied : Copied store type (chip.flash store.page) (last.flash store.target) otherTypes copy
      entries)
    (headerless : ∀ word < storeHeaderWords, last.flash store.target word = erased)
    (powered : PowerOnly chip.outcomes → PowerOnly last.outcomes)
    (known : 0 < type ∧ type < storeTypes) (short : data.length ≤ storeRecordMaxBytes) :
    Untouched last.flash (finishPage store copy last type data).2.2.flash store.target 0
        flashPageWords ∧
      (((finishPage store copy last type data).1 = some .ok ∧
          Renewed store chip.flash type data (finishPage store copy last type data).2.1
            (finishPage store copy last type data).2.2.flash) ∨
        (finishPage store copy last type data).1 ≠ some .ok ∧
          (finishPage store copy last type data).2.1 = store ∧
          Broken store chip type (finishPage store copy last type data).2.2.flash) ∧
      (PowerOnly chip.outcomes → (finishPage store copy last type data).1 = some .ok ∨
        (finishPage store copy last type data).1 = none) := by
  have first : storeHeaderWords = 4 := rfl
  have total : flashPageWords = 1024 := rfl
  have counts : otherTypes.length = 4 := rfl
  have bound := copied.bound
  have start := copied.walk.le
  have words := recordWords_le short
  have recorded := writeWords_untouched last store.target copy.word (buildRecord type data)
  have read := @writeWords_ok last store.target copy.word (buildRecord type data)
  have power := @writeWords_powerOnly last store.target copy.word (buildRecord type data)
    (by rw [length_buildRecord]; exact recordWords_even _)
  rw [length_buildRecord] at recorded read
  rw [finishPage]
  cases writing : writeWords last store.target copy.word (buildRecord type data) with
  | mk code second =>
    rw [writing] at recorded read power
    split
    · rename_i next pair
      cases pair
      obtain ⟨entries, journal, rest, reads⟩ := copied.complete sound known short
        (fun word outside => recorded store.target word (fun inside => outside inside.2)) (read rfl)
      have still : ∀ word < storeHeaderWords, second.flash store.target word = erased :=
        fun word inside => (recorded.below store.target (by omega)).trans (headerless word inside)
      have headed := writeWords_untouched second store.target 0 (headerWords store.nextGeneration)
      have header := @writeWords_ok second store.target 0 (headerWords store.nextGeneration)
      have powerHeader := @writeWords_powerOnly second store.target 0
        (headerWords store.nextGeneration) (by rw [length_headerWords, first])
      have broken : (writeWords second store.target 0 (headerWords store.nextGeneration)).1 ≠
          some .ok → Broken store chip type
            (writeWords second store.target 0 (headerWords store.nextGeneration)).2.flash :=
        .header still (fun only => (power (powered only)).1) journal.walk rest
          (fun other low high different => by rw [reads other low high, if_neg different])
      cases heading : writeWords second store.target 0 (headerWords store.nextGeneration) with
      | mk code third =>
        rw [heading] at headed header powerHeader broken
        have whole : Untouched last.flash third.flash store.target 0 flashPageWords :=
          (recorded.mono (Nat.zero_le _) (by omega)).trans
            (headed.mono (Nat.le_refl _) (by rw [length_headerWords]; omega))
        split
        · rename_i next pair
          cases pair
          have beyond : ∀ word, storeHeaderWords ≤ word →
              third.flash store.target word = second.flash store.target word :=
            fun word past => headed.above store.target (by rw [length_headerWords]; omega)
          have renewed : Journalled (third.flash store.target)
              (store.changed type data.length copy) entries :=
            journal.congr fun word past _ => beyond word past
          refine ⟨whole, Or.inl ⟨rfl, ?_⟩, fun _ => Or.inl rfl⟩
          refine ⟨rfl, rfl, rfl, rfl, headerValid_headerWords (header rfl), ⟨entries, renewed⟩,
            ?_, ?_⟩
          · intro word past inside
            rw [beyond word (by simp only [StoreStatus.changed] at past; omega)]
            exact rest word past inside
          · intro other
            by_cases listed : 0 < other ∧ other < storeTypes
            · have held := @Journalled.reading third.flash
                (store.changed type data.length copy) _ renewed rfl _ listed
              rw [held]
              exact (entriesReading_congr journal.walk (fun word past _ => beyond word past) other).trans
                (reads other listed.1 listed.2)
            · rw [reading_unknown _ _ listed, reading_unknown _ _ listed, if_neg]
              rintro rfl
              exact listed known
        · rename_i failed pair
          cases pair
          refine ⟨whole, Or.inr ⟨fun written => failed written, rfl, broken failed⟩, fun only => ?_⟩
          exact (powerHeader (power (powered only)).1).2.imp id And.left
    · rename_i failed pair
      cases pair
      refine ⟨recorded.mono (Nat.zero_le _) (by omega),
        Or.inr ⟨fun written => failed written, rfl, .copying ?_⟩, fun only => ?_⟩
      · exact fun word inside =>
          (recorded.below store.target (by omega)).trans (headerless word inside)
      · exact (power (powered only)).2.imp id And.left

/-- **What a change of page can do.** -/
theorem changePage_spec {chip : Chip} {data : List Byte} (sound : Sound store chip.flash)
    (known : 0 < type ∧ type < storeTypes) (short : data.length ≤ storeRecordMaxBytes) :
    Untouched chip.flash (changePage store chip type data).2.2.flash store.target 0 flashPageWords ∧
      (((changePage store chip type data).1 = some .ok ∧
          Renewed store chip.flash type data (changePage store chip type data).2.1
            (changePage store chip type data).2.2.flash) ∨
        (changePage store chip type data).1 ≠ some .ok ∧
          (changePage store chip type data).2.1 = store ∧
          Broken store chip type (changePage store chip type data).2.2.flash) ∧
      (PowerOnly chip.outcomes → (changePage store chip type data).1 = some .ok ∨
        (changePage store chip type data).1 = none) := by
  have erases := flashErasePage_untouched chip store.target
  have broken : Broken store chip type (flashErasePage chip store.target).2.flash := .erasing
  have erasing := fun power => @flashErasePage_powerOnly chip store.target power
  rw [changePage]
  cases erase : flashErasePage chip store.target with
  | mk code first =>
    rw [erase] at erases broken
    match code with
    | none => exact ⟨erases, Or.inr ⟨nofun, rfl, broken⟩, fun _ => Or.inr rfl⟩
    | some .failed =>
        refine ⟨erases, Or.inr ⟨nofun, rfl, broken⟩, fun power => ?_⟩
        rcases erasing power with ⟨_, done, _⟩ | cut
        · rw [erase] at done
          cases done
        · rw [erase] at cut
          cases cut
    | some .ok =>
        have powered : PowerOnly chip.outcomes → PowerOnly first.outcomes ∧
            ∀ word < flashPageWords, first.flash store.target word = erased := by
          intro power
          rcases erasing power with ⟨_, done, still, empty⟩ | cut
          · rw [erase] at done
            cases done
            exact ⟨still, empty⟩
          · rw [erase] at cut
            cases cut
        dsimp only
        split
        · rename_i dirty
          refine ⟨erases, Or.inr ⟨nofun, rfl, broken⟩, fun power => ?_⟩
          rw [blank_iff] at dirty
          exact absurd (fun word inside => by rw [Nat.zero_add]; exact (powered power).2 word inside)
            dirty
        · rename_i clean
          rw [not_not, blank_iff] at clean
          have empty : ∀ word < flashPageWords, first.flash store.target word = erased :=
            fun word inside => by simpa using clean word inside
          have sourced : ∀ other ∈ otherTypes, store.recordWord other ≠ 0 →
              store.page ≠ store.target ∧ first.flash store.page = chip.flash store.page := by
            intro other member present
            have active := (sound.reading_held (mem_otherTypes.mp member) present).1
            exact ⟨(target_ne active).symm, erases.elsewhere (target_ne active).symm⟩
          have held : ∀ other ∈ otherTypes, store.recordWord other ≠ 0 → other < storeTypes ∧
              checkRecord (chip.flash store.page) (store.recordWord other) =
                some (store.heldRecord other) := by
            intro other member present
            have listed := mem_otherTypes.mp member
            exact ⟨listed.2, (sound.reading_held listed present).2.1⟩
          have copies := copyRecords_spec otherTypes [] {} first []
            (Copied.blank empty : Copied store type _ _ _ _ _) sourced held (by decide)
          have head : storeHeaderWords = 4 := rfl
          have total : flashPageWords = 1024 := rfl
          cases copying : copyRecords store type store.target otherTypes {} first with
          | mk code rest =>
            obtain ⟨copy, last⟩ := rest
            rw [copying] at copies
            obtain ⟨copiesOnly, power, complete⟩ := copies
            have headerless : ∀ word < storeHeaderWords, last.flash store.target word = erased :=
              fun word inside => (copiesOnly.below store.target inside).trans
                (empty word (by omega))
            have whole : Untouched chip.flash last.flash store.target 0 flashPageWords :=
              erases.trans (copiesOnly.mono (Nat.zero_le _) (by omega))
            split
            · rename_i next after pair
              cases pair
              obtain ⟨entries, copied⟩ := complete rfl
              obtain ⟨only, ends, cut⟩ := finishPage_spec sound copied headerless
                (fun only => (power (powered only).1).1) known short
              exact ⟨whole.trans only, ends, cut⟩
            · rename_i failed pair
              cases pair
              exact ⟨whole, Or.inr ⟨fun written => failed written, rfl, .copying headerless⟩,
                fun only => (power (powered only).1).2⟩

/-! ## What keeps the store sound -/

theorem Renewed.sound {flash written : Flash} {data : List Byte} {next : StoreStatus}
    (renewed : Renewed store flash type data next written) : Sound next written := by
  refine ⟨fun _ => ?_, fun idle => ?_, fun _ => ?_⟩
  · rw [renewed.page, renewed.generation, renewed.header]
  · rw [renewed.active] at idle
    cases idle
  · rw [renewed.page]
    exact renewed.journal

/-- Whatever becomes of the page the store would change to, what is read stays. -/
theorem Sound.elsewhere {flash written : Flash} (sound : Sound store flash)
    (same : ∀ page, page ≠ store.target → written page = flash page) :
    Sound store written ∧ ∀ other, reading store written other = reading store flash other := by
  cases active : store.active with
  | true =>
      have kept := same store.page (target_ne active).symm
      refine ⟨⟨?_, ?_, ?_⟩, fun other => ?_⟩
      · rw [kept]
        exact sound.live
      · rw [active]
        rintro ⟨⟩
      · rw [kept]
        exact sound.journal
      · simp only [reading, storeRead, kept]
  | false =>
      have kept := same 1 (by rw [target_idle active]; decide)
      refine ⟨⟨?_, ?_, ?_⟩, fun other => ?_⟩
      · rw [active]
        rintro ⟨⟩
      · rw [kept]
        exact sound.idle
      · rw [active]
        rintro ⟨⟩
      · rw [reading_inactive _ _ active, reading_inactive _ _ active]

/-- Whatever becomes of the words past those used, what is read stays. -/
theorem Sound.beyond {flash written : Flash} {count : Nat} (sound : Sound store flash)
    (active : store.active = true)
    (untouched : Untouched flash written store.page store.usedWords count) :
    Sound store written ∧ ∀ other, reading store written other = reading store flash other := by
  obtain ⟨entries, journal⟩ := sound.journal active
  have start := journal.walk.le
  have kept : ∀ word, storeHeaderWords ≤ word → word < store.usedWords →
      written store.page word = flash store.page word :=
    fun word _ low => untouched.below store.page low
  refine ⟨⟨?_, ?_, fun _ => ⟨entries, journal.congr kept⟩⟩, fun other => ?_⟩
  · rw [headerValid_congr fun word low => untouched.below store.page (by omega)]
    exact sound.live
  · rw [active]
    nofun
  · by_cases known : 0 < other ∧ other < storeTypes
    · rw [(journal.congr kept).reading active known, journal.reading active known,
        entriesReading_congr journal.walk kept]
    · rw [reading_unknown _ _ known, reading_unknown _ _ known]

/-- A record appended and read back is the journal's last. -/
theorem Sound.append {flash written : Flash} {data : List Byte} (sound : Sound store flash)
    (active : store.active = true) (known : 0 < type ∧ type < storeTypes)
    (short : data.length ≤ storeRecordMaxBytes)
    (fits : store.usedWords + recordWords data.length ≤ flashPageWords)
    (untouched : Untouched flash written store.page store.usedWords (recordWords data.length))
    (read : readWords (written store.page) store.usedWords (recordWords data.length) =
      buildRecord type data) :
    Sound (store.appended type data.length) written ∧
      ∀ other, reading (store.appended type data.length) written other =
        if other = type then some data else reading store flash other := by
  obtain ⟨entries, journal⟩ := sound.journal active
  have start := journal.walk.le
  have first : storeHeaderWords = 4 := rfl
  have stands := checkRecord_buildRecord known short fits read
  have kept : ∀ word, storeHeaderWords ≤ word → word < store.usedWords →
      written store.page word = flash store.page word :=
    fun word _ low => untouched.below store.page low
  have counts : recordKey { type, length := data.length, words := recordWords data.length
                            intact := true } = some type := by
    simp [recordKey, known.2]
  have longer : Journalled (written store.page) (store.appended type data.length)
      (entries ++ [(store.usedWords, { type, length := data.length
                                       words := recordWords data.length, intact := true })]) := by
    refine ⟨walk_extend journal.walk kept stands, fun other low high => ?_⟩
    rw [latest_concat, counts]
    simp only [StoreStatus.appended, StoreStatus.heldRecord]
    by_cases equal : other = type
    · subst equal
      simp only [Function.update_self, if_true]
      rw [if_neg (by omega)]
    · have different : ¬some type = some other := fun same => equal (Option.some.inj same).symm
      rw [if_neg different, journal.index other low high]
      simp only [Function.update_of_ne equal, StoreStatus.heldRecord]
  refine ⟨⟨fun _ => ?_, fun idle => ?_, fun _ => ⟨_, longer⟩⟩, fun other => ?_⟩
  · have header := @headerValid_congr (flash store.page) (written store.page)
      fun word low => untouched.below store.page (by omega)
    exact header.trans (sound.live active)
  · exact absurd idle (by simp only [StoreStatus.appended, active, Bool.true_eq_false,
      not_false_eq_true])
  · by_cases listed : 0 < other ∧ other < storeTypes
    · have held := @Journalled.reading written
        (store.appended type data.length) _ longer active _ listed
      rw [held]
      simp only [StoreStatus.appended]
      rw [entriesReading_extend journal.walk kept counts, journal.reading active listed,
        dataAt_buildRecord read]
    · rw [reading_unknown _ _ listed, reading_unknown _ _ listed, if_neg]
      rintro rfl
      exact listed known

/-- Soundness has nothing to say about what was counted. -/
theorem Sound.noted {flash : Flash} (sound : Sound store flash) (full : Bool) (failures : Nat)
    (lastResult : StoreResult) : Sound { store with full, failures, lastResult } flash :=
  ⟨sound.live, sound.idle, fun active => by
    obtain ⟨entries, journal⟩ := sound.journal active
    exact ⟨entries, journal.walk, journal.index⟩⟩

end GpsClock.Store
