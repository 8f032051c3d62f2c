import GpsClock.Store.Record

/-! # Finding the page in use and its records

`store_init` chooses the page with a good header and the later generation and scans
it from the header on. The scan is a walk over the page's journal
(`GpsClock.Store.scanFrom_spec`), and what a later read of a type gives is the data
of the latest intact record of the type passed (`GpsClock.Store.pageReading_eq`).
-/

namespace GpsClock.Store

open Journal

/-- `StoreResult`. -/
inductive StoreResult
  | ok
  | badArgument
  | flashFailed
  | verify
  deriving DecidableEq, Repr

/-- `StoreStatus`, with where the latest record of each type starts (0: none) and its
length. -/
structure StoreStatus where
  active : Bool := false
  page : Fin 2 := 0
  generation : Word := 0
  usedWords : Nat := 0
  full : Bool := false
  torn : Word := 0
  unreadable : Bool := false
  appends : Nat := 0
  pageChanges : Nat := 0
  failures : Nat := 0
  lastResult : StoreResult := .ok
  recordWord : Nat → Nat := fun _ => 0
  recordLength : Nat → Nat := fun _ => 0

/-- What `scan` does with the record at a place. -/
def StoreStatus.note (store : StoreStatus) (word : Nat) (record : Record) : StoreStatus :=
  if ¬record.intact then { store with torn := store.torn + 1 }
  else if record.type < storeTypes then
    { store with
      recordWord := Function.update store.recordWord record.type word
      recordLength := Function.update store.recordLength record.type record.length }
  else store

/-- The loop of `scan`, which passes at most a page's words. -/
def scanFrom (page : Page) : Nat → StoreStatus → Nat → StoreStatus
  | 0, store, word => { store with usedWords := word }
  | fuel + 1, store, word =>
      if word + 2 ≤ flashPageWords then
        if page word = erased ∧ page (word + 1) = erased then { store with usedWords := word }
        else match checkRecord page word with
          | none => { store with unreadable := true, full := true, usedWords := word }
          | some record => scanFrom page fuel (store.note word record) (word + record.words)
      else { store with usedWords := word }

/-- `scan`. -/
def scan (flash : Flash) (store : StoreStatus) : StoreStatus :=
  scanFrom (flash store.page) flashPageWords
    { store with recordWord := fun _ => 0, recordLength := fun _ => 0, full := false }
    storeHeaderWords

/-- The page `store_init` chooses: the later generation, across the wrap. -/
def choosePage (flash : Flash) : Option (Fin 2 × Word) :=
  match headerValid (flash 0), headerValid (flash 1) with
  | none, none => none
  | some generation, none => some (0, generation)
  | none, some generation => some (1, generation)
  | some first, some second => if 0 ≤ (first - second).toInt then some (0, first) else some (1, second)

/-- `store_init`. -/
def storeInit (flash : Flash) : StoreStatus :=
  match choosePage flash with
  | none => {}
  | some (page, generation) => scan flash { page, generation, active := true }

/-- `store_read`, by the data it gives. -/
def storeRead (store : StoreStatus) (flash : Flash) (type capacity : Nat) : Option (List Byte) :=
  if ¬store.active ∨ type = 0 ∨ storeTypes ≤ type ∨ store.recordWord type = 0 ∨
      capacity < store.recordLength type then
    none
  else
    some (dataAt (flash store.page) (store.recordWord type + 2) (store.recordLength type))

/-- What is read of a type with room for any record. -/
def reading (store : StoreStatus) (flash : Flash) (type : Nat) : Option (List Byte) :=
  storeRead store flash type storeRecordMaxBytes

/-- What would be read of a type if a page were the one in use. -/
def pageReading (page : Page) (type : Nat) : Option (List Byte) :=
  reading (scan (fun _ => page) { active := true }) (fun _ => page) type

/-! ## The scan as a walk -/

/-- The entries of a walk noted one after another. -/
def StoreStatus.noteAll (store : StoreStatus) (entries : List (Nat × Record)) : StoreStatus :=
  entries.foldl (fun held passed => held.note passed.1 passed.2) store

/-- What a scan is left with where it stops. -/
def StoreStatus.stopped (store : StoreStatus) (page : Page) (word : Nat) : StoreStatus :=
  match found page word with
  | .bad => { store with unreadable := true, full := true, usedWords := word }
  | _ => { store with usedWords := word }

theorem scanFrom_step (page : Page) (fuel : Nat) (store : StoreStatus) (word : Nat) :
    scanFrom page (fuel + 1) store word =
      match found page word with
      | .entry record span => scanFrom page fuel (store.note word record) (word + span)
      | _ => store.stopped page word := by
  by_cases fits : word + 2 ≤ flashPageWords
  · by_cases empty : page word = erased ∧ page (word + 1) = erased
    · simp only [scanFrom, StoreStatus.stopped, found, if_pos fits, if_pos empty]
    · cases checked : checkRecord page word with
      | none => simp only [scanFrom, StoreStatus.stopped, found, if_pos fits, if_neg empty, checked]
      | some record => simp only [scanFrom, found, if_pos fits, if_neg empty, checked]
  · simp only [scanFrom, StoreStatus.stopped, found, if_neg fits]

/-- **A scan walks the page's journal to where it stops**, if it is given words enough. -/
theorem scanFrom_spec (page : Page) (fuel : Nat) (store : StoreStatus) (word : Nat)
    (enough : flashPageWords < word + fuel) :
    ∃ entries stop, Walk (found page) word entries stop ∧ Stops (found page) stop ∧
      scanFrom page fuel store word = (store.noteAll entries).stopped page stop := by
  induction fuel generalizing store word with
  | zero =>
      have free : found page word = .free := by
        rw [found, if_neg (by omega)]
      refine ⟨[], word, .stay word, .of_free free, ?_⟩
      rw [scanFrom, StoreStatus.noteAll, List.foldl_nil, StoreStatus.stopped, free]
  | succ fuel ih =>
      rw [scanFrom_step]
      cases stands : found page word with
      | free =>
          refine ⟨[], word, .stay word, .of_free stands, rfl⟩
      | bad =>
          refine ⟨[], word, .stay word, ?_, rfl⟩
          intro record span entry
          rw [stands] at entry
          cases entry
      | entry record span =>
          obtain ⟨checked, rfl⟩ := checkRecord_of_found stands
          have four := recordWords_ge_four record.length
          obtain ⟨entries, stop, walk, stops, scanned⟩ :=
            ih (store.note word record) (word + record.words) (by
              rw [(checkRecord_spec checked).2.2.1]
              omega)
          exact ⟨(word, record) :: entries, stop, .pass stands walk, stops, scanned⟩

/-- A walk to a stop is the walk the scan takes. -/
theorem scan_eq {flash : Flash} {store : StoreStatus} {entries : List (Nat × Record)} {stop : Nat}
    (walk : Walk (found (flash store.page)) storeHeaderWords entries stop)
    (stops : Stops (found (flash store.page)) stop) :
    scan flash store =
      ({ store with
         recordWord := fun _ => 0, recordLength := fun _ => 0, full := false }.noteAll
          entries).stopped (flash store.page) stop := by
  obtain ⟨passed, last, taken, halts, scanned⟩ := scanFrom_spec (flash store.page) flashPageWords
    { store with recordWord := fun _ => 0, recordLength := fun _ => 0, full := false }
    storeHeaderWords (by decide)
  obtain ⟨rest, rfl, onward⟩ := taken.split halts walk
  obtain ⟨rfl, rfl⟩ := onward.of_stops stops
  rw [scan, scanned, List.append_nil]

theorem exists_walk (page : Page) :
    ∃ entries stop, Walk (found page) storeHeaderWords entries stop ∧ Stops (found page) stop := by
  obtain ⟨entries, stop, walk, stops, _⟩ :=
    scanFrom_spec page flashPageWords {} storeHeaderWords (by decide)
  exact ⟨entries, stop, walk, stops⟩

/-! ## What is noted -/

theorem recordKey_eq_some {record : Record} {type : Nat} (counts : recordKey record = some type) :
    record.intact = true ∧ record.type = type ∧ type < storeTypes := by
  unfold recordKey at counts
  split at counts
  · rename_i known
    cases counts
    exact ⟨known.1, rfl, known.2⟩
  · cases counts

/-- The fields a scan's notes leave alone. -/
theorem noteAll_kept (store : StoreStatus) (entries : List (Nat × Record)) :
    (store.noteAll entries).active = store.active ∧ (store.noteAll entries).page = store.page ∧
      (store.noteAll entries).generation = store.generation ∧
      (store.noteAll entries).full = store.full := by
  induction entries using List.reverseRecOn with
  | nil => exact ⟨rfl, rfl, rfl, rfl⟩
  | append_singleton entries passed ih =>
      rw [StoreStatus.noteAll, List.foldl_concat, ← StoreStatus.noteAll, StoreStatus.note]
      split
      · exact ih
      · split
        · exact ih
        · exact ih

/-- The index a scan notes is the latest intact record of each type. -/
theorem noteAll_index (store : StoreStatus) (entries : List (Nat × Record)) {type : Nat}
    (known : type < storeTypes) :
    ((store.noteAll entries).recordWord type, (store.noteAll entries).recordLength type) =
      match latest recordKey entries type with
      | some passed => (passed.1, passed.2.length)
      | none => (store.recordWord type, store.recordLength type) := by
  induction entries using List.reverseRecOn with
  | nil => rfl
  | append_singleton entries passed ih =>
      rw [latest_concat, StoreStatus.noteAll, List.foldl_concat, ← StoreStatus.noteAll,
        StoreStatus.note, recordKey]
      by_cases intact : passed.2.intact = true
      · by_cases same : passed.2.type = type
        · subst same
          simp [intact, known]
        · by_cases recorded : passed.2.type < storeTypes
          · simp [intact, recorded, same, Ne.symm same, ← ih]
          · simp [intact, recorded, ← ih]
      · simp [intact, ← ih]

/-- What the latest of a walk's entries with a type holds. -/
def entriesReading (page : Page) (entries : List (Nat × Record)) (type : Nat) :
    Option (List Byte) :=
  (latest recordKey entries type).map fun passed => dataAt page (passed.1 + 2) passed.2.length

theorem stopped_kept (store : StoreStatus) (page : Page) (word : Nat) :
    (store.stopped page word).active = store.active ∧ (store.stopped page word).page = store.page ∧
      (store.stopped page word).generation = store.generation ∧
      (store.stopped page word).recordWord = store.recordWord ∧
      (store.stopped page word).recordLength = store.recordLength ∧
      (store.stopped page word).usedWords = word := by
  unfold StoreStatus.stopped
  split <;> exact ⟨rfl, rfl, rfl, rfl, rfl, rfl⟩

/-- **What is read after a scan** is what the latest intact record of the type holds. -/
theorem reading_scan (flash : Flash) {store : StoreStatus} {entries : List (Nat × Record)}
    {stop type : Nat} (active : store.active = true)
    (walk : Walk (found (flash store.page)) storeHeaderWords entries stop)
    (stops : Stops (found (flash store.page)) stop) (known : 0 < type ∧ type < storeTypes) :
    reading (scan flash store) flash type = entriesReading (flash store.page) entries type := by
  rw [scan_eq walk stops]
  obtain ⟨keepsActive, keepsPage, _, word, length, _⟩ := stopped_kept
    ({ store with
       recordWord := fun _ => 0, recordLength := fun _ => 0, full := false }.noteAll entries)
    (flash store.page) stop
  obtain ⟨stillActive, stillPage, _⟩ := noteAll_kept
    { store with recordWord := fun _ => 0, recordLength := fun _ => 0, full := false } entries
  have index := noteAll_index
    { store with recordWord := fun _ => 0, recordLength := fun _ => 0, full := false } entries
    known.2
  rw [reading, storeRead, keepsActive, keepsPage, word, length, stillActive, stillPage,
    entriesReading]
  cases held : latest recordKey entries type with
  | none =>
      rw [held, Prod.mk.injEq] at index
      rw [if_pos (Or.inr (Or.inr (Or.inr (Or.inl index.1))))]
      rfl
  | some passed =>
      rw [held, Prod.mk.injEq] at index
      obtain ⟨member, _⟩ := mem_of_latest held
      obtain ⟨span, stands, after, _⟩ := walk.stands member
      have short := (checkRecord_spec (checkRecord_of_found stands).1).2.1
      have first : storeHeaderWords = 4 := rfl
      have types : storeTypes = 5 := rfl
      rw [index.1, index.2, active, if_neg, Option.map_some]
      simp only [not_true_eq_false, false_or]
      omega

theorem reading_unknown (store : StoreStatus) (flash : Flash) {type : Nat}
    (unknown : ¬(0 < type ∧ type < storeTypes)) : reading store flash type = none := by
  rw [reading, storeRead, if_pos]
  omega

theorem reading_inactive {store : StoreStatus} (flash : Flash) (type : Nat)
    (idle : store.active = false) : reading store flash type = none := by
  rw [reading, storeRead, if_pos (Or.inl (by simp [idle]))]

theorem pageReading_eq {page : Page} {entries : List (Nat × Record)} {stop type : Nat}
    (walk : Walk (found page) storeHeaderWords entries stop) (stops : Stops (found page) stop)
    (known : 0 < type ∧ type < storeTypes) :
    pageReading page type = entriesReading page entries type :=
  reading_scan (fun _ => page) rfl walk stops known

/-- A scan reads what stands in its page. -/
theorem reading_scan_page (flash : Flash) {store : StoreStatus} (active : store.active = true)
    (type : Nat) : reading (scan flash store) flash type = pageReading (flash store.page) type := by
  by_cases known : 0 < type ∧ type < storeTypes
  · obtain ⟨entries, stop, walk, stops⟩ := exists_walk (flash store.page)
    rw [reading_scan flash active walk stops known, pageReading_eq walk stops known]
  · rw [reading_unknown _ _ known, pageReading, reading_unknown _ _ known]

/-- What is read after a reset. -/
theorem reading_storeInit (flash : Flash) (type : Nat) :
    reading (storeInit flash) flash type =
      match choosePage flash with
      | none => none
      | some (page, _) => pageReading (flash page) type := by
  unfold storeInit
  cases choosePage flash with
  | none => exact reading_inactive _ _ rfl
  | some chosen => exact reading_scan_page flash rfl type

/-- What a walk's entries hold depends on the words it passes. -/
theorem entriesReading_congr {page other : Page} {entries : List (Nat × Record)} {start stop : Nat}
    (walk : Walk (found page) start entries stop)
    (same : ∀ word, start ≤ word → word < stop → other word = page word) (type : Nat) :
    entriesReading other entries type = entriesReading page entries type := by
  unfold entriesReading
  cases held : latest recordKey entries type with
  | none => rfl
  | some passed =>
      obtain ⟨span, stands, after, within⟩ := walk.stands (mem_of_latest held).1
      obtain ⟨checked, rfl⟩ := checkRecord_of_found stands
      rw [(checkRecord_spec checked).2.2.1] at within
      rw [Option.map_some, Option.map_some, dataAt_congr]
      exact readWords_congr fun word low high => same word (by omega) (by omega)

/-- What two stretches of entries hold: the later, where it holds anything. -/
theorem entriesReading_append (page : Page) (first second : List (Nat × Record)) (type : Nat) :
    entriesReading page (first ++ second) type =
      (entriesReading page second type).or (entriesReading page first type) := by
  unfold entriesReading
  rw [latest_append]
  cases latest recordKey second type with
  | none => rfl
  | some passed => rfl

theorem entriesReading_eq_none {page : Page} {entries : List (Nat × Record)} {type : Nat}
    (absent : ∀ passed ∈ entries, recordKey passed.2 ≠ some type) :
    entriesReading page entries type = none := by
  rw [entriesReading, latest_eq_none absent]
  rfl

/-- A walk depends on the words it passes. -/
theorem walk_below {page other : Page} {entries : List (Nat × Record)} {start stop : Nat}
    (walk : Walk (found page) start entries stop)
    (same : ∀ word, start ≤ word → word < stop → other word = page word) :
    Walk (found other) start entries stop := by
  apply walk.congr
  intro word record span after within stands
  exact found_congr stands fun place low high => same place (by omega) (by omega)

/-- A walk stays within its page. -/
theorem walk_le {page : Page} {entries : List (Nat × Record)} {start stop : Nat}
    (walk : Walk (found page) start entries stop) (inside : start ≤ flashPageWords) :
    stop ≤ flashPageWords := by
  induction walk with
  | stay => exact inside
  | pass stands _ ih =>
      obtain ⟨checked, rfl⟩ := checkRecord_of_found stands
      exact ih (checkRecord_spec checked).2.2.2.1

/-- A record after a walk extends it. -/
theorem walk_extend {page other : Page} {entries : List (Nat × Record)} {start word : Nat}
    {record : Record} (walk : Walk (found page) start entries word)
    (same : ∀ place, start ≤ place → place < word → other place = page place)
    (stands : checkRecord other word = some record) :
    Walk (found other) start (entries ++ [(word, record)]) (word + record.words) :=
  (walk_below walk same).append (.pass (found_of_checkRecord stands) (.stay _))

/-- What entries hold with a record after them. -/
theorem entriesReading_extend {page other : Page} {entries : List (Nat × Record)}
    {start word type : Nat} {record : Record} (walk : Walk (found page) start entries word)
    (same : ∀ place, start ≤ place → place < word → other place = page place)
    (counts : recordKey record = some type) (sought : Nat) :
    entriesReading other (entries ++ [(word, record)]) sought =
      if sought = type then some (dataAt other (word + 2) record.length)
      else entriesReading page entries sought := by
  rw [entriesReading, latest_concat, counts]
  split
  · rename_i same
    cases same
    rw [if_pos rfl]
    rfl
  · rename_i different
    rw [if_neg (fun equal => different (by rw [equal])), ← entriesReading_congr walk same]
    rfl

/-- Past the last word written of an erased page nothing can be come to. -/
theorem clear_erased {page : Page} {stop : Nat} {counts : Nat → Record → Prop}
    (rest : ∀ word, stop ≤ word → word < flashPageWords → page word = erased) :
    Clear (found page) (room page) counts stop := by
  apply Clear.of_free
  intro place after
  by_cases inside : place + 2 ≤ flashPageWords
  · exact found_free ⟨rest place after (by omega), rest (place + 1) (by omega) (by omega)⟩
  · rw [found, if_neg inside]

end GpsClock.Store
