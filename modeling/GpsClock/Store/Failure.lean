import GpsClock.Store.PowerCut

/-! # Failing flash

A flash operation may report failure, or fail its read-back, and leave anything in the
words it was about. A write that returns an error then still leaves what is read of every
type as it was. A record acknowledged stays the one read, in the running store and after
any start, as long as no record is appended while a start would choose the other page, no
failing erase leaves a page a start would choose, and no failing append leaves a whole
record where a start could come to it (`GpsClock.Store.durable_when`). Without the first
it does not: a header that was written whole but reported failed leaves the store
appending to the page a start passes over (`GpsClock.Store.append_beside_newer_lost`).
-/

namespace GpsClock.Store

open Journal

/-- What a failing append left holds no whole record a start could come to, but one of the
type being written in its place. -/
def Harmless (page : Page) (word type : Nat) : Prop :=
  ∀ other, Clear (found page) (room page)
    (fun place record => recordKey record = some other ∧ ¬(place = word ∧ other = type)) word

/-- An erase leaves the flash as it was or a page no start would choose. -/
def Forgets (store : StoreStatus) (chip : Chip) : Prop :=
  (flashErasePage chip store.target).2.flash = chip.flash ∨
    ∀ generation, choosePage (flashErasePage chip store.target).2.flash ≠
      some (store.target, generation)

/-- What a write asks of the flash for records to be durable: it appends to the page a start
would choose, what an append leaves that is not its record is harmless, and so is what an
erase leaves. -/
structure Careful (store : StoreStatus) (chip : Chip) (type : Nat) (data : List Byte) : Prop where
  current : appends store chip.flash data.length = true →
    choosePage chip.flash = some (store.page, store.generation)
  harmless : appends store chip.flash data.length = true →
    readWords ((writeWords chip store.page store.usedWords (buildRecord type data)).2.flash store.page)
        store.usedWords (recordWords data.length) ≠ buildRecord type data →
    Harmless ((writeWords chip store.page store.usedWords (buildRecord type data)).2.flash store.page)
      store.usedWords type
  forgets : appends store chip.flash data.length = false → Forgets store chip
  failedForgets : appends store chip.flash data.length = true →
    (writeWords chip store.page store.usedWords (buildRecord type data)).1 ≠ some .ok →
    Forgets store (writeWords chip store.page store.usedWords (buildRecord type data)).2

/-- Records of known types are written with care. -/
def carefully (state : State) : Act → Prop
  | .start => True
  | .write type data outcomes =>
      0 < type ∧ type < storeTypes → data.length ≤ storeRecordMaxBytes →
        Careful state.store { flash := state.flash, outcomes } type data

/-- What is owed of each type: the data of its last completed write, unless another was
attempted since. -/
def State.owed (state : State) (type : Nat) : Option (List Byte) :=
  if state.attempted type = [] then state.completed type else none

/-- What is owed is read, now and after any start, and would be of the page in use. -/
structure Kept (owed : Nat → Option (List Byte)) (store : StoreStatus) (flash : Flash) : Prop where
  sound : Sound store flash
  now : ∀ type data, owed type = some data → reading store flash type = some data
  scanned : store.active = true → ∀ type data, owed type = some data →
    pageReading (flash store.page) type = some data
  orderly : store.active = true → Orderly (flash store.page)
  unread : store.active = true → store.full = false →
    ∀ type, Unread (flash store.page) store.usedWords type
  later : ∀ type data, owed type = some data → reading (storeInit flash) flash type = some data
  chosen : ∀ page generation, choosePage flash = some (page, generation) → Orderly (flash page)

variable {store : StoreStatus} {flash written : Flash} {type : Nat} {data : List Byte}
  {owed : Nat → Option (List Byte)}

theorem Kept.mono {fewer : Nat → Option (List Byte)} (kept : Kept owed store flash)
    (weakens : ∀ type data, fewer type = some data → owed type = some data) :
    Kept fewer store flash where
  sound := kept.sound
  now type data held := kept.now type data (weakens type data held)
  scanned active type data held := kept.scanned active type data (weakens type data held)
  orderly := kept.orderly
  unread := kept.unread
  later type data held := kept.later type data (weakens type data held)
  chosen := kept.chosen

theorem Kept.noted (kept : Kept owed store flash) {full : Bool}
    (keeps : full = store.full ∨ full = true) (failures : Nat) (lastResult : StoreResult) :
    Kept owed { store with full, failures, lastResult } flash where
  sound := kept.sound.noted full failures lastResult
  now := kept.now
  scanned := kept.scanned
  orderly := kept.orderly
  unread active roomy := by
    rcases keeps with rfl | rfl
    · exact kept.unread active roomy
    · cases roomy
  later := kept.later
  chosen := kept.chosen

/-- Nothing is owed by a store with no page. -/
theorem Kept.idle (kept : Kept owed store flash) (idle : store.active = false) {other : Nat}
    {value : List Byte} : owed other ≠ some value := by
  intro held
  have read := kept.now other value held
  rw [reading_inactive _ _ idle] at read
  cases read

/-- **A start** keeps what is owed. -/
theorem Kept.start (kept : Kept owed store flash) : Kept owed (storeInit flash) flash := by
  cases chosen : choosePage flash with
  | none =>
      have started : storeInit flash = {} := by rw [storeInit, chosen]
      refine ⟨Sound.storeInit flash, kept.later, ?_, ?_, ?_, kept.later, kept.chosen⟩
      · rw [started]
        rintro ⟨⟩
      · rw [started]
        rintro ⟨⟩
      · rw [started]
        rintro ⟨⟩
  | some pair =>
      obtain ⟨page, generation⟩ := pair
      have started : storeInit flash = scan flash { page, generation, active := true } := by
        rw [storeInit, chosen]
      obtain ⟨_, samePage, _⟩ := scan_kept flash { page, generation, active := true }
      refine ⟨Sound.storeInit flash, kept.later, ?_, ?_, ?_, kept.later, kept.chosen⟩
      · intro _ other value held
        have read := kept.later other value held
        rw [reading_storeInit, chosen] at read
        rw [started, samePage]
        exact read
      · intro _
        rw [started, samePage]
        exact kept.chosen page generation chosen
      · intro _ roomy
        rw [started] at roomy ⊢
        rw [samePage]
        obtain ⟨free, entries, walk⟩ := scan_open roomy
        exact kept.chosen page generation chosen entries _ walk free

/-- A page in use with nothing hidden past its journal, and chosen by a start, keeps what it
reads. -/
theorem Kept.of_unread (sound : Sound store flash) (active : store.active = true)
    (chosen : choosePage flash = some (store.page, store.generation))
    (unread : ∀ type, Unread (flash store.page) store.usedWords type)
    (now : ∀ type data, owed type = some data → reading store flash type = some data) :
    Kept owed store flash := by
  obtain ⟨entries, journal⟩ := sound.journal active
  have orderly := orderly_of_unread journal.walk unread
  have scanned : ∀ other value, owed other = some value →
      pageReading (flash store.page) other = some value := by
    intro other value held
    have read := now other value held
    by_cases known : 0 < other ∧ other < storeTypes
    · rw [journal.pageReading known (unread other), ← journal.reading active known, read]
    · rw [reading_unknown _ _ known] at read
      cases read
  refine ⟨sound, now, fun _ => scanned, fun _ => orderly, fun _ _ => unread, ?_, ?_⟩
  · intro other value held
    rw [reading_storeInit, chosen]
    exact scanned other value held
  · intro page generation again
    rw [chosen] at again
    cases again
    exact orderly

/-! ## Writes -/

/-- A record appended and read back is owed from then on. -/
theorem Kept.append (kept : Kept owed store flash) (fits : appends store flash data.length = true)
    (current : choosePage flash = some (store.page, store.generation))
    (known : 0 < type ∧ type < storeTypes) (short : data.length ≤ storeRecordMaxBytes)
    (untouched : Untouched flash written store.page store.usedWords (recordWords data.length))
    (read : readWords (written store.page) store.usedWords (recordWords data.length) =
      buildRecord type data) :
    Kept (Function.update owed type (some data)) (store.appended type data.length) written := by
  obtain ⟨active, roomy, within, clean⟩ := appends_spec fits
  obtain ⟨entries, journal⟩ := kept.sound.journal active
  have start := journal.walk.le
  obtain ⟨sound, reads⟩ := kept.sound.append active known short within untouched read
  refine .of_unread sound active ?_ (fun other => ?_) fun other value held => ?_
  · rw [choosePage_congr fun page word low => untouched.below page (by omega)]
    exact current
  · exact (kept.unread active roomy other).past short within clean
      fun place past => untouched.above store.page past
  · rw [reads other]
    by_cases same : other = type
    · subst same
      rw [Function.update_self] at held
      rw [if_pos rfl, held]
    · rw [Function.update_of_ne same] at held
      rw [if_neg same]
      exact kept.now other value held

/-- What an append that came to nothing left keeps the other types, as long as it is harmless. -/
theorem Kept.spoiled {count : Nat} (kept : Kept owed store flash) (active : store.active = true)
    (current : choosePage flash = some (store.page, store.generation))
    (untouched : Untouched flash written store.page store.usedWords count)
    (harmless : Harmless (written store.page) store.usedWords type) :
    Kept (Function.update owed type none) { store with full := true } written := by
  obtain ⟨entries, journal⟩ := kept.sound.journal active
  have start := journal.walk.le
  obtain ⟨sound, reads⟩ := kept.sound.beyond active untouched
  have longer : Journalled (written store.page) store entries :=
    journal.congr fun word _ low => untouched.below store.page low
  have chosen : choosePage written = some (store.page, store.generation) := by
    rw [choosePage_congr fun page word low => untouched.below page (by omega)]
    exact current
  have owedOthers : ∀ other value, Function.update owed type none other = some value →
      other ≠ type ∧ owed other = some value := by
    intro other value held
    by_cases same : other = type
    · subst same
      rw [Function.update_self] at held
      cases held
    · rw [Function.update_of_ne same] at held
      exact ⟨same, held⟩
  have now : ∀ other value, Function.update owed type none other = some value →
      reading store written other = some value := by
    intro other value held
    rw [reads]
    exact kept.now other value (owedOthers other value held).2
  have scanned : ∀ other value, Function.update owed type none other = some value →
      pageReading (written store.page) other = some value := by
    intro other value held
    have read := now other value held
    by_cases known : 0 < other ∧ other < storeTypes
    · have unread : Unread (written store.page) store.usedWords other :=
        (harmless other).mono fun place record _ counts =>
          ⟨counts, fun exempt => (owedOthers other value held).1 exempt.2⟩
      rw [longer.pageReading known unread, ← longer.reading active known, read]
    · rw [reading_unknown _ _ known] at read
      cases read
  -- The one record exempt stands where the append was made: no walk stops there before it.
  have orderly : Orderly (written store.page) := by
    intro passed stop taken free other place record span reaches stands counts
    obtain ⟨rest, _, onward⟩ := taken.split (.of_free free) longer.walk
    refine harmless other place record span (onward.reaches.trans reaches) stands
      ⟨counts, fun exempt => ?_⟩
    obtain rfl : place = stop := Nat.le_antisymm (exempt.1 ▸ onward.le) reaches.le
    rw [free] at stands
    cases stands
  refine ⟨sound.noted true store.failures store.lastResult, now, fun _ => scanned, fun _ => orderly,
    nofun, ?_, ?_⟩
  · intro other value held
    rw [reading_storeInit, chosen]
    exact scanned other value held
  · intro page generation again
    rw [chosen] at again
    cases again
    exact orderly

/-- A whole record left by an append that was reported failed is harmless. -/
theorem harmless_of_read (kept : Kept owed store flash)
    (fits : appends store flash data.length = true) (known : 0 < type ∧ type < storeTypes)
    (short : data.length ≤ storeRecordMaxBytes)
    (untouched : Untouched flash written store.page store.usedWords (recordWords data.length))
    (read : readWords (written store.page) store.usedWords (recordWords data.length) =
      buildRecord type data) :
    Harmless (written store.page) store.usedWords type := by
  obtain ⟨active, roomy, within, clean⟩ := appends_spec fits
  have four := recordWords_ge_four data.length
  have stands := checkRecord_buildRecord known short within read
  intro other
  refine Clear.of_pass (found_of_checkRecord stands) ?_ ?_
  · rintro ⟨counts, elsewhere⟩
    obtain ⟨_, typed, _⟩ := recordKey_eq_some counts
    exact elsewhere ⟨rfl, typed.symm⟩
  · exact ((kept.unread active roomy other).past short within clean
      fun place past => untouched.above store.page past).mono fun _ _ _ counts => counts.1

/-- A new page written whole keeps what is owed, with the record written. -/
theorem Renewed.kept {next : StoreStatus} (kept : Kept owed store flash)
    (elsewhere : ∀ page, page ≠ store.target → written page = flash page)
    (renewed : Renewed store flash type data next written) :
    Kept (Function.update owed type (some data)) next written := by
  refine .of_unread renewed.sound renewed.active ?_ (fun other => ?_) fun other value held => ?_
  · rw [kept.sound.choosePage_changed renewed.header elsewhere, renewed.page, renewed.generation]
  · rw [renewed.page]
    exact clear_erased renewed.rest
  · rw [renewed.reads other]
    by_cases same : other = type
    · subst same
      rw [Function.update_self] at held
      rw [if_pos rfl, held]
    · rw [Function.update_of_ne same] at held
      rw [if_neg same]
      exact kept.now other value held

/-- With a page in use some page is chosen. -/
theorem Sound.choosePage_ne_none (sound : Sound store flash) (active : store.active = true) :
    choosePage flash ≠ none := by
  intro none
  have live := sound.live active
  have both : ∀ page : Fin 2, headerValid (flash page) = Option.none := by
    unfold choosePage at none
    split at none
    · rename_i first second
      intro page
      have either : ∀ page : Fin 2, page = 0 ∨ page = 1 := by decide
      rcases either page with rfl | rfl
      · exact first
      · exact second
    · cases none
    · cases none
    · split at none <;> cases none
  rw [both] at live
  cases live

/-- **What is owed of the other types outlives a change of page that came to nothing.** -/
theorem Kept.broken {chip : Chip} (kept : Kept owed store chip.flash)
    (elsewhere : ∀ page, page ≠ store.target → written page = chip.flash page)
    (forgets : Forgets store chip) (broken : Broken store chip type written) :
    Kept (Function.update owed type none) store written := by
  obtain ⟨sound, reads⟩ := kept.sound.elsewhere elsewhere
  have page : store.active = true → written store.page = chip.flash store.page :=
    fun active => elsewhere _ (target_ne active).symm
  have owedOthers : ∀ other value, Function.update owed type none other = some value →
      other ≠ type ∧ owed other = some value := by
    intro other value held
    by_cases same : other = type
    · subst same
      rw [Function.update_self] at held
      cases held
    · rw [Function.update_of_ne same] at held
      exact ⟨same, held⟩
  have scanned : store.active = true → ∀ other value,
      Function.update owed type none other = some value →
        pageReading (written store.page) other = some value := by
    intro active other value held
    rw [page active]
    exact kept.scanned active other value (owedOthers other value held).2
  have orderly : store.active = true → Orderly (written store.page) := by
    intro active
    rw [page active]
    exact kept.orderly active
  -- A start chooses the page in use, or the target, which only a whole copy can make it do.
  have choice : ∀ next generation, choosePage written = some (next, generation) →
      Orderly (written next) ∧ ∀ other value, Function.update owed type none other = some value →
        pageReading (written next) other = some value := by
    intro next generation chosen
    by_cases aimed : next = store.target
    · subst aimed
      cases broken with
      | erasing =>
          rcases forgets with same | never
          · rw [same] at chosen ⊢
            refine ⟨kept.chosen _ _ chosen, fun other value held => ?_⟩
            have read := kept.later other value (owedOthers other value held).2
            rw [reading_storeInit, chosen] at read
            exact read
          · exact absurd chosen (never generation)
      | copying headerless =>
          have valid := choosePage_some chosen
          rw [headerValid_erased (headerless 0 (by decide))] at valid
          cases valid
      | @header last entries stop headerless _ walk rest copies _ =>
          have headed := writeWords_untouched last store.target 0 (headerWords store.nextGeneration)
          generalize (writeWords last store.target 0 (headerWords store.nextGeneration)).2.flash =
            written at headed chosen ⊢
          rw [length_headerWords] at headed
          have start := walk.le
          have beyond : ∀ word, storeHeaderWords ≤ word →
              written store.target word = last.flash store.target word :=
            fun word past => headed.above store.target (by omega)
          have walks := walk_below walk fun word past _ => beyond word past
          have clear : ∀ other, Unread (written store.target) stop other := fun other =>
            clear_erased fun word past inside => (beyond word (by omega)).trans (rest word past inside)
          refine ⟨orderly_of_unread walks clear, fun other value held => ?_⟩
          obtain ⟨different, owes⟩ := owedOthers other value held
          have read := kept.now other value owes
          by_cases known : 0 < other ∧ other < storeTypes
          · obtain ⟨passed, walked, taken, stops⟩ := exists_walk (written store.target)
            obtain ⟨tail, rfl, onward⟩ := taken.split stops walks
            rw [pageReading_eq taken stops known, entriesReading_append, entriesReading_eq_none
              fun later member => (clear other).walk onward member]
            rw [Option.none_or, entriesReading_congr walk fun word past _ => beyond word past,
              copies other known.1 known.2 different, read]
          · rw [reading_unknown _ _ known] at read
            cases read
    · cases active : store.active with
      | true =>
          have used : next = store.page := by
            have two : ∀ next page target : Fin 2, target ≠ page → next ≠ target → next = page := by
              decide
            exact two _ _ _ (target_ne active) aimed
          rw [used]
          exact ⟨orderly active, scanned active⟩
      | false =>
          have second : next = 1 := by
            have two : ∀ next : Fin 2, next ≠ 0 → next = 1 := by decide
            exact two _ (target_idle active ▸ aimed)
          have valid := choosePage_some chosen
          rw [second, (sound.idle active).1] at valid
          cases valid
  refine ⟨sound, fun other value held => ?_, scanned, orderly, ?_, fun other value held => ?_,
    fun next generation chosen => (choice next generation chosen).1⟩
  · rw [reads]
    exact kept.now other value (owedOthers other value held).2
  · intro active
    rw [page active]
    exact kept.unread active
  · cases active : store.active with
    | true =>
        rw [reading_storeInit]
        cases chosen : choosePage written with
        | none => exact absurd chosen (sound.choosePage_ne_none active)
        | some pair => exact (choice pair.1 pair.2 chosen).2 other value held
    | false => exact absurd (owedOthers other value held).2 (kept.idle active)

theorem writeByChange_kept (data : List Byte) {chip : Chip} (kept : Kept owed store chip.flash)
    (known : 0 < type ∧ type < storeTypes) (short : data.length ≤ storeRecordMaxBytes)
    (forgets : Forgets store chip) :
    Kept (Function.update owed type
        (if (writeByChange store chip type data).1 = some .ok then some data else none))
      (writeByChange store chip type data).2.1 (writeByChange store chip type data).2.2.flash := by
  obtain ⟨untouched, ends, _⟩ := writeByChange_spec data kept.sound known short
  have elsewhere := fun page different => @Untouched.elsewhere _ _ _ _ _ untouched page different
  rcases ends with ⟨done, next, after, renewed⟩ | ⟨error, ⟨failures, lastResult, after⟩, broken⟩
  · rw [after, if_pos done]
    exact (renewed.kept kept elsewhere).noted (Or.inl rfl) next.failures .ok
  · rw [after, if_neg error]
    exact (kept.broken elsewhere forgets broken).noted (Or.inl rfl) failures lastResult

/-- **A careful write** keeps what is owed: of the other types, and of its own where it returns
`STORE_OK`. -/
theorem storeWrite_kept {chip : Chip} (kept : Kept owed store chip.flash)
    (known : 0 < type ∧ type < storeTypes) (short : data.length ≤ storeRecordMaxBytes)
    (careful : Careful store chip type data) :
    Kept (Function.update owed type
        (if (storeWrite store chip type data).1 = some .ok then some data else none))
        (storeInit (storeWrite store chip type data).2.2.flash)
        (storeWrite store chip type data).2.2.flash ∧
      ((storeWrite store chip type data).1 ≠ none →
        Kept (Function.update owed type
            (if (storeWrite store chip type data).1 = some .ok then some data else none))
          (storeWrite store chip type data).2.1 (storeWrite store chip type data).2.2.flash) := by
  have ends := storeWrite_cases store chip data known short
  generalize storeWrite store chip type data = result at ends ⊢
  have spoiled : appends store chip.flash data.length = true →
      Kept (Function.update owed type none) { store with full := true }
        (writeWords chip store.page store.usedWords (buildRecord type data)).2.flash := by
    intro fits
    obtain ⟨active, _⟩ := appends_spec fits
    have untouched := writeWords_untouched chip store.page store.usedWords (buildRecord type data)
    rw [length_buildRecord] at untouched
    refine kept.spoiled active (careful.current fits) untouched ?_
    by_cases read : readWords ((writeWords chip store.page store.usedWords
        (buildRecord type data)).2.flash store.page) store.usedWords (recordWords data.length) =
          buildRecord type data
    · exact harmless_of_read kept fits known short untouched read
    · exact careful.harmless fits read
  cases ends with
  | appended fits ok =>
      have untouched := writeWords_untouched chip store.page store.usedWords (buildRecord type data)
      have read := writeWords_ok ok
      rw [length_buildRecord] at untouched read
      rw [if_pos rfl]
      have appended := kept.append fits (careful.current fits) known short untouched read
      exact ⟨appended.start, fun _ => appended⟩
  | cut fits lost =>
      rw [if_neg (by simp)]
      exact ⟨(spoiled fits).start, fun powered => absurd rfl powered⟩
  | changed full whole keeps =>
      have changed := writeByChange_kept data
        (kept.noted keeps store.failures store.lastResult) known short (careful.forgets whole)
      exact ⟨changed.start, fun _ => changed⟩
  | failed fits error _ =>
      have changed := writeByChange_kept data
        ((spoiled fits).noted (Or.inr rfl) (store.failures + 1) store.lastResult) known short
        (careful.failedForgets fits error)
      rw [Function.update_idem] at changed
      exact ⟨changed.start, fun _ => changed⟩

theorem update_none_weakens (owed : Nat → Option (List Byte)) (type : Nat) (value : Option (List Byte))
    (other : Nat) (data : List Byte)
    (held : Function.update owed type none other = some data) :
    Function.update owed type value other = some data := by
  by_cases same : other = type
  · subst same
    rw [Function.update_self] at held
    cases held
  · rw [Function.update_of_ne same] at held ⊢
    exact held

/-- A write of anything, where those of known records are careful. -/
theorem storeWrite_owed (chip : Chip) (kept : Kept owed store chip.flash)
    (careful : 0 < type ∧ type < storeTypes → data.length ≤ storeRecordMaxBytes →
      Careful store chip type data) :
    Kept (Function.update owed type none) (storeInit (storeWrite store chip type data).2.2.flash)
        (storeWrite store chip type data).2.2.flash ∧
      ((storeWrite store chip type data).1 = some .ok →
        Kept (Function.update owed type (some data)) (storeWrite store chip type data).2.1
          (storeWrite store chip type data).2.2.flash) ∧
      ((storeWrite store chip type data).1 ≠ none →
        Kept (Function.update owed type none) (storeWrite store chip type data).2.1
          (storeWrite store chip type data).2.2.flash) := by
  by_cases valid : (0 < type ∧ type < storeTypes) ∧ data.length ≤ storeRecordMaxBytes
  · obtain ⟨started, returned⟩ :=
      storeWrite_kept kept valid.1 valid.2 (careful valid.1 valid.2)
    refine ⟨started.mono (update_none_weakens _ _ _), fun ok => ?_, fun powered =>
      (returned powered).mono (update_none_weakens _ _ _)⟩
    have written := returned (ok.trans_ne (Option.some_ne_none _))
    rw [if_pos ok] at written
    exact written
  · have invalid : type = 0 ∨ storeTypes ≤ type ∨ storeRecordMaxBytes < data.length := by omega
    have fewer : Kept (Function.update owed type none) store chip.flash := by
      refine kept.mono fun other value held => ?_
      have same := update_none_weakens owed type (owed type) other value held
      rw [Function.update_eq_self] at same
      exact same
    rw [storeWrite, if_pos invalid]
    exact ⟨fewer.start, (fun ok => by cases ok), fun _ => fewer.noted (Or.inl rfl) store.failures .badArgument⟩

/-! ## Runs -/

/-- What is owed after a write. -/
theorem owed_step_write (state : State) (type : Nat) (data : List Byte) (outcomes : List Outcome) :
    (step state (.write type data outcomes)).owed =
      Function.update state.owed type
        (if writeReturns state type data outcomes = some .ok then some data else none) := by
  funext other
  simp only [step]
  by_cases same : other = type
  · subst same
    split
    · rename_i returned
      simp [State.owed, returned]
    · rename_i result error returned
      have different : ¬some result = some StoreResult.ok :=
        fun ok => error (Option.some.inj ok)
      simp only [State.owed, returned, Function.update_self, reduceCtorEq, if_false, if_neg different]
    · rename_i returned
      simp [State.owed, returned]
  · split <;> simp [State.owed, same]

theorem machine_carefully :
    machine.Invariant carefully fun state => Kept state.owed state.store state.flash where
  start state initial := by
    cases initial
    have choose : choosePage blankFlash = none := by
      rw [choosePage, headerValid_erased rfl, headerValid_erased rfl]
    refine ⟨sound_blank, fun _ _ held => ?_, fun active => ?_, fun active => ?_, fun active => ?_,
      fun _ _ held => ?_, fun page generation chosen => ?_⟩
    · cases held
    · cases active
    · cases active
    · cases active
    · cases held
    · rw [choose] at chosen
      cases chosen
  step state act kept admitted := by
    cases act with
    | start => exact kept.start
    | write type data outcomes =>
        obtain ⟨lost, ok, error⟩ :=
          storeWrite_owed { flash := state.flash, outcomes } kept admitted
        change Kept (step state (.write type data outcomes)).owed
          (step state (.write type data outcomes)).store
          (step state (.write type data outcomes)).flash
        rw [owed_step_write]
        cases returned : writeReturns state type data outcomes with
        | none =>
            rw [if_neg (Option.some_ne_none _).symm]
            simp only [step, returned]
            exact lost
        | some result =>
            have code := storeWrite_of_writeReturns returned
            cases result with
            | ok =>
                rw [if_pos rfl]
                simp only [step, returned]
                exact ok code
            | badArgument =>
                rw [if_neg (by decide)]
                simp only [step, returned]
                exact error (code.trans_ne (Option.some_ne_none _))
            | flashFailed =>
                rw [if_neg (by decide)]
                simp only [step, returned]
                exact error (code.trans_ne (Option.some_ne_none _))
            | verify =>
                rw [if_neg (by decide)]
                simp only [step, returned]
                exact error (code.trans_ne (Option.some_ne_none _))

/-- **Durability.** In every run a write that returns an error leaves what is read of every
type as it was. In every run of careful writes what was acknowledged of a type is read of
it, in the running store and after any start, until another write of the type. -/
theorem durable_when (state : State) :
    (∀ admits, machine.Reachable admits state → ∀ type data outcomes result,
        writeReturns state type data outcomes = some result → result ≠ .ok →
          ∀ other, (step state (.write type data outcomes)).reads other = state.reads other) ∧
      (machine.Reachable carefully state → ∀ type data,
        state.completed type = some data → state.attempted type = [] →
          state.reads type = some data ∧ state.startReads type = some data) := by
  constructor
  · intro admits reached type data outcomes result returned error other
    have sound := machine_sound.reachable reached
    have reads := fun wrong => storeWrite_error_reading { flash := state.flash, outcomes } type data
      sound wrong other
    have code := storeWrite_of_writeReturns returned
    have kept := reads (code ▸ fun ok => error (Option.some.inj ok))
    cases result with
    | ok => exact absurd rfl error
    | badArgument =>
        simp only [State.reads, step, returned]
        exact kept
    | flashFailed =>
        simp only [State.reads, step, returned]
        exact kept
    | verify =>
        simp only [State.reads, step, returned]
        exact kept
  · intro reached type data completed attempted
    have kept := machine_carefully.reachable reached
    have owes : state.owed type = some data := by rw [State.owed, if_pos attempted, completed]
    exact ⟨kept.now type data owes, kept.later type data owes⟩

/-- A first write, the flash doing as asked. -/
theorem durable_when_first :
    ∃ state, machine.Reachable carefully state ∧ state.completed 1 = some [0x11] ∧
      state.reads 1 = some [0x11] ∧ state.startReads 1 = some [0x11] := by
  have headerless : choosePage (flashErasePage { flash := blankFlash, outcomes := [] } 0).2.flash =
      none := by
    decide +kernel
  have careful : carefully {} (.write 1 [0x11] []) := fun _ _ =>
    { current := nofun
      harmless := nofun
      forgets := fun _ => Or.inr fun generation chosen =>
        Option.some_ne_none _ (chosen.symm.trans headerless)
      failedForgets := nofun }
  have reached : machine.Reachable carefully (machine.step {} (.write 1 [0x11] [])) :=
    .step (.start rfl) _ careful
  have completed : (machine.step {} (.write 1 [0x11] [])).completed 1 = some [0x11] := by
    decide +kernel
  exact ⟨_, reached, completed, (durable_when _).2 reached 1 _ completed (by decide +kernel)⟩

/-- A record appended to a page that a start would pass over is not read after one. -/
theorem append_beside_newer_lost {state : State} {outcomes : List Outcome} {page : Fin 2}
    {generation : Word} (sound : Sound state.store state.flash)
    (fits : appends state.store state.flash data.length = true)
    (newer : choosePage state.flash = some (page, generation)) (beside : page ≠ state.store.page)
    (ok : (writeWords { flash := state.flash, outcomes } state.store.page state.store.usedWords
      (buildRecord type data)).1 = some .ok)
    (known : 0 < type ∧ type < storeTypes) (short : data.length ≤ storeRecordMaxBytes)
    (other : Nat) :
    reading (storeInit (writeLeaves state type data outcomes).2)
        (writeLeaves state type data outcomes).2 other = state.startReads other := by
  obtain ⟨active, _, within, _⟩ := appends_spec fits
  obtain ⟨entries, journal⟩ := sound.journal active
  have start := journal.walk.le
  have untouched := writeWords_untouched { flash := state.flash, outcomes } state.store.page
    state.store.usedWords (buildRecord type data)
  have ends := storeWrite_cases state.store { flash := state.flash, outcomes } data known
    short
  have left : (writeLeaves state type data outcomes).2 = (writeWords { flash := state.flash, outcomes }
      state.store.page state.store.usedWords (buildRecord type data)).2.flash := by
    simp only [writeLeaves]
    generalize storeWrite state.store { flash := state.flash, outcomes } type data = result at ends ⊢
    cases ends with
    | appended => rfl
    | cut _ lost => cases ok.symm.trans lost
    | changed _ whole => cases fits.symm.trans whole
    | failed _ error => exact absurd ok error
  rw [left, State.startReads, reading_storeInit, reading_storeInit,
    choosePage_congr fun page word low => untouched.below page (by omega), newer]
  exact congrFun (congrArg pageReading (untouched.elsewhere beside)) other

/-! ## A header reported failed -/

/-- Whether power stays on in a step. -/
def Act.powered : Act → Bool
  | .start => true
  | .write _ _ outcomes => outcomes.all fun outcome =>
      match outcome with
      | .lost => false
      | _ => true

/-- A page filled with records of type 1 and a short one of type 2; a longer record that does
not fit, its new page whole but for the last double word of its header being reported failed;
and a short record of type 2, which fits. -/
def headerReportedFailed : List Act :=
  List.replicate 14 (.write 1 (List.replicate 128 7) []) ++
    [.write 2 [1] [],
      .write 1 (List.replicate 128 8) (List.replicate 38 .done ++
        [.failed fun word => (headerWords 2).getD word 0]),
      .write 2 [2] []]

/-- The last record is acknowledged, and after a start the one before it is read. -/
theorem acknowledged_record_lost :
    headerReportedFailed.all Act.powered = true ∧
      (headerReportedFailed.foldl step {}).completed 2 = some [2] ∧
      (headerReportedFailed.foldl step {}).attempted 2 = [] ∧
      (headerReportedFailed.foldl step {}).startReads 2 = some [1] := by
  decide +kernel

end GpsClock.Store
