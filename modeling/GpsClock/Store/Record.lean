import GpsClock.Lib.Journal
import GpsClock.Store.Flash

/-! # Records and headers in a page

A record is its mark and type, its length, its data two bytes a word, padding to
whole double words, and the checksum of everything before it. What `build_record`
makes is read back as an intact record with its data wherever it stands in a page
(`GpsClock.Store.checkRecord_buildRecord`, `GpsClock.Store.dataAt_buildRecord`), and
what a place of a page holds depends on the words it spans and no others
(`GpsClock.Store.found_congr`).
-/

namespace GpsClock.Store

open Journal

/-- `STORE_MAGIC`. -/
def storeMagic : Word := 0x5354

/-- `STORE_FORMAT`. -/
def storeFormat : Word := 1

/-- `STORE_HEADER_WORDS`. -/
def storeHeaderWords : Nat := 4

/-- `STORE_RECORD_MARK`. -/
def storeRecordMark : Word := 0xA500

/-- `STORE_RECORD_MAX_BYTES`. -/
def storeRecordMaxBytes : Nat := 128

/-- `STORE_TYPES`: the types are 1 to 4. -/
def storeTypes : Nat := 5

/-- `crc_word`. -/
def crcWord (crc word : Word) : Word :=
  Sml.smlCrc crc [word.setWidth 8, (word >>> 8).setWidth 8]

/-- The checksum of words, as the loops over `crc_word` make it. -/
def crcWords (words : List Word) : Word :=
  words.foldl crcWord Sml.smlCrcInit

/-- `record_words`. -/
def recordWords (length : Nat) : Nat :=
  (3 + (length + 1) / 2 + 1) / 2 * 2

/-- So many words of a page, from a place. -/
def readWords (page : Page) (word count : Nat) : List Word :=
  (List.range count).map fun index => page (word + index)

/-- `header_valid`: the generation of a page with a good header. -/
def headerValid (page : Page) : Option Word :=
  if page 0 = storeMagic ∧ page 1 = storeFormat ∧ page 3 = crcWords (readWords page 0 3) then
    some (page 2)
  else
    none

/-- What `check_record` tells of a record. -/
structure Record where
  type : Nat
  length : Nat
  words : Nat
  intact : Bool
  deriving DecidableEq, Repr

/-- `check_record`. -/
def checkRecord (page : Page) (word : Nat) : Option Record :=
  let mark := page word
  let type := (mark.setWidth 8).toNat
  let length := (page (word + 1)).toNat
  if mark &&& 0xFF00 ≠ storeRecordMark ∨ type = 0 ∨ type = 0xFF ∨ storeRecordMaxBytes < length then
    none
  else if flashPageWords < word + recordWords length then
    none
  else
    some { type, length, words := recordWords length
           intact := page (word + recordWords length - 1) =
             crcWords (readWords page word (recordWords length - 1)) }

/-- `blank`. -/
def blank (page : Page) (word words : Nat) : Bool :=
  (List.range words).all fun index => page (word + index) == erased

/-- Data bytes two to a word, the low byte first. -/
def packData : List Byte → List Word
  | [] => []
  | [low] => [low.setWidth 16]
  | low :: high :: rest => (low.setWidth 16 ||| high.setWidth 16 <<< 8) :: packData rest

/-- The words of a record before its checksum. -/
def recordBody (type : Nat) (data : List Byte) : List Word :=
  (storeRecordMark ||| BitVec.ofNat 16 type) :: BitVec.ofNat 16 data.length ::
    (packData data ++
      List.replicate (recordWords data.length - 3 - (packData data).length) 0)

/-- `build_record`. -/
def buildRecord (type : Nat) (data : List Byte) : List Word :=
  recordBody type data ++ [crcWords (recordBody type data)]

/-- The words of a page's header. -/
def headerWords (generation : Word) : List Word :=
  [storeMagic, storeFormat, generation, crcWords [storeMagic, storeFormat, generation]]

/-- The data bytes read from a place on, as `store_read` reads them. -/
def dataAt (page : Page) (word length : Nat) : List Byte :=
  (List.range length).map fun index =>
    if index % 2 = 0 then (page (word + index / 2)).setWidth 8
    else (page (word + index / 2) >>> 8).setWidth 8

/-- What stands at a place of a page, as `scan` sees it. -/
def found (page : Page) (word : Nat) : Found Record :=
  if word + 2 ≤ flashPageWords then
    if page word = erased ∧ page (word + 1) = erased then .free
    else match checkRecord page word with
      | none => .bad
      | some record => .entry record record.words
  else .free

/-- The type an intact record counts for, where it is one this firmware knows. -/
def recordKey (record : Record) : Option Nat :=
  if record.intact ∧ record.type < storeTypes then some record.type else none

/-- Whether a record could be written from a place on. -/
def room (page : Page) (word words : Nat) : Prop :=
  (∃ length ≤ storeRecordMaxBytes, words = recordWords length) ∧
    word + words ≤ flashPageWords ∧ blank page word words = true

/-! ## Sizes -/

theorem recordWords_ge (length : Nat) : 3 + (length + 1) / 2 ≤ recordWords length := by
  unfold recordWords
  omega

theorem recordWords_ge_four (length : Nat) : 4 ≤ recordWords length := by
  unfold recordWords
  omega

theorem recordWords_le {length : Nat} (fits : length ≤ storeRecordMaxBytes) :
    recordWords length ≤ 68 := by
  unfold recordWords storeRecordMaxBytes at *
  omega

theorem recordWords_even (length : Nat) : recordWords length % 2 = 0 := by
  unfold recordWords
  omega

@[simp] theorem length_readWords (page : Page) (word count : Nat) :
    (readWords page word count).length = count := by
  simp [readWords]

theorem length_packData (data : List Byte) : (packData data).length = (data.length + 1) / 2 := by
  induction data using packData.induct with
  | case1 => rfl
  | case2 low => simp [packData]
  | case3 low high rest ih =>
      simp only [packData, List.length_cons, ih]
      omega

theorem length_recordBody (type : Nat) (data : List Byte) :
    (recordBody type data).length = recordWords data.length - 1 := by
  have enough := recordWords_ge data.length
  simp only [recordBody, List.length_cons, List.length_append, List.length_replicate,
    length_packData]
  omega

@[simp] theorem length_buildRecord (type : Nat) (data : List Byte) :
    (buildRecord type data).length = recordWords data.length := by
  have enough := recordWords_ge_four data.length
  rw [buildRecord, List.length_append, length_recordBody, List.length_singleton]
  omega

@[simp] theorem length_headerWords (generation : Word) :
    (headerWords generation).length = storeHeaderWords := rfl

/-! ## Words read -/

theorem readWords_eq_iff (page other : Page) (word place count : Nat) :
    readWords page word count = readWords other place count ↔
      ∀ index < count, page (word + index) = other (place + index) := by
  simp only [readWords, List.map_inj_left, List.mem_range]

theorem readWords_eq_list_iff (page : Page) (word : Nat) (words : List Word) :
    readWords page word words.length = words ↔
      ∀ index, (inside : index < words.length) → page (word + index) = words[index] := by
  constructor
  · intro same index inside
    have read : (readWords page word words.length)[index]? = words[index]? := by rw [same]
    simpa [readWords, inside] using read
  · intro same
    apply List.ext_getElem (by simp)
    intro index _ inside
    simpa [readWords] using same index inside

theorem readWords_succ (page : Page) (word count : Nat) :
    readWords page word (count + 1) = readWords page word count ++ [page (word + count)] := by
  simp [readWords, List.range_succ]

theorem readWords_add (page : Page) (word first second : Nat) :
    readWords page word (first + second) =
      readWords page word first ++ readWords page (word + first) second := by
  simp [readWords, List.range_add, Nat.add_assoc]

theorem readWords_double (page : Page) (word count : Nat) :
    readWords page word (2 + count) =
      page word :: page (word + 1) :: readWords page (word + 2) count := by
  rw [readWords_add]
  rfl

theorem readWords_congr {page other : Page} {word count : Nat}
    (same : ∀ place, word ≤ place → place < word + count → other place = page place) :
    readWords other word count = readWords page word count := by
  rw [readWords_eq_iff]
  exact fun index inside => same _ (Nat.le_add_right _ _) (by omega)

/-- A shorter stretch from the same places is read the same. -/
theorem readWords_shorter {page other : Page} {word place count fewer : Nat} (less : fewer ≤ count)
    (same : readWords page word count = readWords other place count) :
    readWords page word fewer = readWords other place fewer := by
  rw [readWords_eq_iff] at same ⊢
  exact fun index inside => same index (by omega)

theorem blank_iff (page : Page) (word words : Nat) :
    blank page word words = true ↔ ∀ index < words, page (word + index) = erased := by
  simp [blank]

theorem blank_congr {page other : Page} {word words : Nat}
    (same : ∀ place, word ≤ place → place < word + words → other place = page place) :
    blank other word words = blank page word words := by
  rw [Bool.eq_iff_iff, blank_iff, blank_iff]
  constructor
  · intro empty index inside
    rw [← same _ (Nat.le_add_right _ _) (by omega)]
    exact empty index inside
  · intro empty index inside
    rw [same _ (Nat.le_add_right _ _) (by omega)]
    exact empty index inside

/-! ## Records read back -/

theorem getD_packData (data : List Byte) (index : Nat) :
    (packData data).getD index 0 =
      (data.getD (2 * index) 0).setWidth 16 ||| (data.getD (2 * index + 1) 0).setWidth 16 <<< 8 := by
  induction data using packData.induct generalizing index with
  | case1 => simp [packData]
  | case2 low =>
      cases index with
      | zero => simp [packData]
      | succ index => simp [packData, Nat.mul_add]
  | case3 low high rest ih =>
      cases index with
      | zero => simp [packData]
      | succ index =>
          rw [packData, List.getD_cons_succ, ih index, Nat.mul_add, Nat.mul_one]
          simp only [List.getD_cons_succ, Nat.add_assoc, Nat.reduceAdd]

theorem low_of_packed (low high : Byte) :
    (low.setWidth 16 ||| high.setWidth 16 <<< 8).setWidth 8 = low := by
  apply BitVec.eq_of_getLsbD_eq
  intro place bound
  simp [bound]

theorem high_of_packed (low high : Byte) :
    ((low.setWidth 16 ||| high.setWidth 16 <<< 8) >>> 8).setWidth 8 = high := by
  apply BitVec.eq_of_getLsbD_eq
  intro place bound
  simp [bound, show 8 + place < 16 by omega]

/-- Where a record's data words stand, its data is read. -/
theorem dataAt_packData {page : Page} {word : Nat} {data : List Byte}
    (stands : ∀ index < (packData data).length, page (word + index) = (packData data).getD index 0) :
    dataAt page word data.length = data := by
  apply List.ext_getElem (by simp [dataAt])
  intro index _ inside
  have packed : index / 2 < (packData data).length := by
    rw [length_packData]
    omega
  simp only [dataAt, List.getElem_map, List.getElem_range, stands _ packed, getD_packData]
  split
  · rw [low_of_packed, show 2 * (index / 2) = index by omega]
    simp [inside]
  · rw [high_of_packed, show 2 * (index / 2) + 1 = index by omega]
    simp [inside]

/-- A record depends on the words it spans. -/
theorem checkRecord_congr {page other : Page} {word place : Nat} {record : Record}
    (stands : checkRecord page word = some record)
    (same : readWords other place record.words = readWords page word record.words)
    (fits : place + record.words ≤ flashPageWords) : checkRecord other place = some record := by
  unfold checkRecord at stands
  simp only at stands
  split at stands
  · cases stands
  · split at stands
    · cases stands
    · rename_i wellSized inside
      cases stands
      have four := recordWords_ge_four (page (word + 1)).toNat
      rw [readWords_eq_iff] at same
      have mark : other place = page word := by simpa using same 0 (by simp only; omega)
      have length : other (place + 1) = page (word + 1) := same 1 (by simp only; omega)
      have last : other (place + recordWords (page (word + 1)).toNat - 1) =
          page (word + recordWords (page (word + 1)).toNat - 1) := by
        rw [Nat.add_sub_assoc (by omega), Nat.add_sub_assoc (by omega)]
        exact same _ (by simp only; omega)
      have body : readWords other place (recordWords (page (word + 1)).toNat - 1) =
          readWords page word (recordWords (page (word + 1)).toNat - 1) := by
        rw [readWords_eq_iff]
        exact fun index small => same index (by simp only; omega)
      unfold checkRecord
      simp only [mark, length, last, body]
      rw [if_neg wellSized, if_neg (by simpa using fits)]

/-- What `check_record` tells of a record, as far as it goes by itself. -/
theorem checkRecord_spec {page : Page} {word : Nat} {record : Record}
    (stands : checkRecord page word = some record) :
    record.type ≠ 0 ∧ record.length ≤ storeRecordMaxBytes ∧
      record.words = recordWords record.length ∧ word + record.words ≤ flashPageWords ∧
      page word ≠ erased := by
  unfold checkRecord at stands
  simp only at stands
  split at stands
  · cases stands
  · split at stands
    · cases stands
    · rename_i wellSized inside
      cases stands
      rw [not_or, not_or, not_or] at wellSized
      refine ⟨wellSized.2.1, Nat.not_lt.mp wellSized.2.2.2, rfl, by simpa using inside, ?_⟩
      intro empty
      rw [empty] at wellSized
      exact wellSized.1 (by decide)

/-- A mark and a length that are good make a record, whole or not. -/
theorem checkRecord_marked {page : Page} {word type length : Nat}
    (known : 0 < type ∧ type < storeTypes) (short : length ≤ storeRecordMaxBytes)
    (fits : word + recordWords length ≤ flashPageWords)
    (mark : page word = storeRecordMark ||| BitVec.ofNat 16 type)
    (second : page (word + 1) = BitVec.ofNat 16 length) :
    checkRecord page word =
      some { type, length, words := recordWords length
             intact := page (word + recordWords length - 1) =
               crcWords (readWords page word (recordWords length - 1)) } := by
  have counted : (page (word + 1)).toNat = length := by
    rw [second, BitVec.toNat_ofNat, Nat.mod_eq_of_lt]
    unfold storeRecordMaxBytes at short
    omega
  have typed : ((storeRecordMark ||| BitVec.ofNat 16 type).setWidth 8).toNat = type ∧
      (storeRecordMark ||| BitVec.ofNat 16 type) &&& 0xFF00 = storeRecordMark := by
    obtain ⟨low, high⟩ := known
    unfold storeTypes at high
    interval_cases type <;> decide
  unfold checkRecord
  simp only [counted, mark, typed]
  rw [if_neg (by unfold storeTypes at known; simp; omega), if_neg (by omega)]

/-- The first two words of a record are its mark and its length. -/
theorem buildRecord_head (type : Nat) (data : List Byte) :
    ∃ rest, buildRecord type data =
      (storeRecordMark ||| BitVec.ofNat 16 type) :: BitVec.ofNat 16 data.length :: rest :=
  ⟨_, rfl⟩

/-- **A record written is an intact record of its type and length.** -/
theorem checkRecord_buildRecord {page : Page} {word type : Nat} {data : List Byte}
    (known : 0 < type ∧ type < storeTypes) (short : data.length ≤ storeRecordMaxBytes)
    (fits : word + recordWords data.length ≤ flashPageWords)
    (stands : readWords page word (recordWords data.length) = buildRecord type data) :
    checkRecord page word =
      some { type, length := data.length, words := recordWords data.length, intact := true } := by
  have four := recordWords_ge_four data.length
  obtain ⟨count, whole⟩ : ∃ count, recordWords data.length = count + 1 :=
    ⟨recordWords data.length - 1, by omega⟩
  have apart := stands
  rw [whole, readWords_succ, buildRecord] at apart
  obtain ⟨body, last⟩ := List.append_inj' apart rfl
  rw [List.singleton_inj] at last
  obtain ⟨rest, head⟩ := buildRecord_head type data
  obtain ⟨more, many⟩ : ∃ more, recordWords data.length = 2 + more :=
    ⟨recordWords data.length - 2, by omega⟩
  rw [many, readWords_double, head, List.cons.injEq, List.cons.injEq] at stands
  rw [checkRecord_marked known short fits stands.1 stands.2.1]
  simp only [whole, Nat.add_sub_cancel, ← Nat.add_assoc, body, last, decide_true]

/-- The data of a record written is read from it. -/
theorem dataAt_buildRecord {page : Page} {word type : Nat} {data : List Byte}
    (stands : readWords page word (recordWords data.length) = buildRecord type data) :
    dataAt page (word + 2) data.length = data := by
  apply dataAt_packData
  intro index inside
  have enough := recordWords_ge data.length
  have within : index + 2 < (buildRecord type data).length := by
    rw [length_buildRecord]
    rw [length_packData] at inside
    omega
  have words : page (word + (index + 2)) = (buildRecord type data)[index + 2] := by
    revert within
    revert index
    rw [← length_buildRecord type data, readWords_eq_list_iff] at stands
    exact fun index _ within => stands (index + 2) within
  rw [Nat.add_assoc, Nat.add_comm 2 index, words]
  simp [buildRecord, recordBody, inside]

/-- The data of a record depends on the words it spans. -/
theorem dataAt_congr {page other : Page} {word place length : Nat}
    (same : readWords other place (recordWords length) = readWords page word (recordWords length)) :
    dataAt other (place + 2) length = dataAt page (word + 2) length := by
  have enough := recordWords_ge length
  rw [readWords_eq_iff] at same
  unfold dataAt
  rw [List.map_inj_left]
  intro index inside
  rw [List.mem_range] at inside
  rw [Nat.add_assoc, Nat.add_assoc, same (2 + index / 2) (by omega)]

/-! ## What stands at a place -/

theorem found_of_checkRecord {page : Page} {word : Nat} {record : Record}
    (stands : checkRecord page word = some record) :
    found page word = .entry record record.words := by
  obtain ⟨_, _, words, fits, marked⟩ := checkRecord_spec stands
  have four := recordWords_ge_four record.length
  unfold found
  rw [if_pos (by omega), if_neg (fun empty => marked empty.1), stands]

theorem checkRecord_of_found {page : Page} {word span : Nat} {record : Record}
    (stands : found page word = .entry record span) :
    checkRecord page word = some record ∧ span = record.words := by
  unfold found at stands
  split at stands
  · split at stands
    · cases stands
    · split at stands
      · cases stands
      · cases stands
        exact ⟨by assumption, rfl⟩
  · cases stands

theorem found_free {page : Page} {word : Nat}
    (empty : page word = erased ∧ page (word + 1) = erased) : found page word = .free := by
  unfold found
  rw [if_pos empty, ite_self]

/-- An entry depends on the words it spans. -/
theorem found_congr {page other : Page} {word span : Nat} {record : Record}
    (stands : found page word = .entry record span)
    (same : ∀ place, word ≤ place → place < word + span → other place = page place) :
    found other word = .entry record span := by
  obtain ⟨checked, rfl⟩ := checkRecord_of_found stands
  have fits := (checkRecord_spec checked).2.2.2.1
  exact found_of_checkRecord (checkRecord_congr checked (readWords_congr same) fits)

/-- What stands at a place depends on the words from it on. -/
theorem found_onward {page other : Page} {word : Nat}
    (same : ∀ place, word ≤ place → other place = page place) :
    found other word = found page word := by
  have sameAfter : ∀ index, other (word + index) = page (word + index) :=
    fun index => same _ (Nat.le_add_right _ _)
  have sameRead : ∀ count, readWords other word count = readWords page word count :=
    fun count => readWords_congr fun place after _ => same place after
  have sameLast : ∀ words, other (word + recordWords words - 1) = page (word + recordWords words - 1) := by
    intro words
    have four := recordWords_ge_four words
    exact same _ (by omega)
  unfold found checkRecord
  simp only [same word (Nat.le_refl _), sameAfter 1, sameRead, sameLast]

theorem room_onward {page other : Page} {word span : Nat}
    (same : ∀ place, word ≤ place → other place = page place) (fits : room page word span) :
    room other word span :=
  ⟨fits.1, fits.2.1, (blank_congr fun place after _ => same place after).trans fits.2.2⟩

/-! ## Headers -/

theorem headerValid_congr {page other : Page}
    (same : ∀ word < storeHeaderWords, other word = page word) :
    headerValid other = headerValid page := by
  have sameRead : readWords other 0 3 = readWords page 0 3 :=
    readWords_congr fun place _ inside => same place (Nat.lt_trans inside (by decide))
  unfold headerValid
  rw [same 0 (by decide), same 1 (by decide), same 2 (by decide), same 3 (by decide), sameRead]

theorem headerValid_headerWords {page : Page} {generation : Word}
    (stands : readWords page 0 4 = headerWords generation) :
    headerValid page = some generation := by
  simp only [readWords, headerWords, List.range_succ, List.range_zero, List.nil_append,
    List.cons_append, List.map_cons, List.map_nil, Nat.zero_add, List.cons.injEq,
    and_true] at stands
  obtain ⟨magic, format, counted, crc⟩ := stands
  simp [headerValid, readWords, List.range_succ, magic, format, counted, crc]

/-- A page whose header was not begun has none. -/
theorem headerValid_erased {page : Page} (empty : page 0 = erased) : headerValid page = none := by
  unfold headerValid
  rw [if_neg]
  rintro ⟨magic, _⟩
  rw [empty] at magic
  exact absurd magic (by decide)

/-- Half a header is none. -/
theorem headerValid_cut {page : Page} (magic : page 0 = storeMagic) (format : page 1 = storeFormat)
    (third : page 2 = erased) (fourth : page 3 = erased) : headerValid page = none := by
  unfold headerValid
  rw [if_neg]
  rintro ⟨_, _, crc⟩
  rw [fourth] at crc
  simp only [readWords, List.range_succ, List.range_zero, List.nil_append, List.cons_append,
    List.map_cons, List.map_nil, Nat.zero_add, magic, format, third] at crc
  exact absurd crc (by decide)

end GpsClock.Store
