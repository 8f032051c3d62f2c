import GpsClock.Store.Runs

/-! # Power cuts

Where nothing goes wrong but that power is lost, between any two flash operations of
any write or after its last, starting the store again gives every type its last record:
a write that is not cut returns `STORE_OK` and its record is read from then on, and one
that is cut changes at most what is read of its own type, to the data it was writing
(`GpsClock.Store.power_cut_atomic`). It is assumed that no record cut short happens to
pass its check (`GpsClock.Store.NoLuckyPrefix`); that half a header does not is a fact
of its words (`GpsClock.Store.headerValid_cut`).
-/

namespace GpsClock.Store

open Journal

/-- No record of some data cut short, erased words after it, passes its check. -/
def NoLuckyPrefix (type : Nat) (data : List Byte) : Prop :=
  ∀ doubles, 0 < doubles → 2 * doubles < recordWords data.length →
    crcWords ((buildRecord type data).take (2 * doubles) ++
      List.replicate (recordWords data.length - 2 * doubles - 1) erased) ≠ erased

/-- Records of known types are written, and nothing goes wrong but that power may be lost. -/
def powerCuts (_ : State) : Act → Prop
  | .start => True
  | .write type data outcomes =>
      (0 < type ∧ type < storeTypes) ∧ data.length ≤ storeRecordMaxBytes ∧ PowerOnly outcomes ∧
        NoLuckyPrefix type data

/-- A record cut short is passed over whole. -/
theorem checkRecord_torn {page : Page} {word type doubles : Nat} {data : List Byte}
    (known : 0 < type ∧ type < storeTypes) (short : data.length ≤ storeRecordMaxBytes)
    (fits : word + recordWords data.length ≤ flashPageWords) (unlucky : NoLuckyPrefix type data)
    (begun : 0 < doubles) (fewer : 2 * doubles < recordWords data.length)
    (read : readWords page word (2 * doubles) = (buildRecord type data).take (2 * doubles))
    (rest : ∀ place, word + 2 * doubles ≤ place → place < word + recordWords data.length →
      page place = erased) :
    ∃ record, checkRecord page word = some record ∧ record.words = recordWords data.length ∧
      record.intact = false := by
  have even := recordWords_even data.length
  obtain ⟨tail, head⟩ := buildRecord_head type data
  obtain ⟨more, many⟩ : ∃ more, 2 * doubles = 2 + more := ⟨2 * doubles - 2, by omega⟩
  have stands := read
  rw [many, readWords_double, head, Nat.add_comm 2, List.take_succ_cons, List.take_succ_cons,
    List.cons.injEq, List.cons.injEq] at stands
  refine ⟨_, checkRecord_marked known short fits stands.1 stands.2.1, rfl, ?_⟩
  have erasedRest : readWords page (word + 2 * doubles) (recordWords data.length - 2 * doubles - 1) =
      List.replicate (recordWords data.length - 2 * doubles - 1) erased := by
    rw [List.eq_replicate_iff]
    refine ⟨length_readWords _ _ _, fun value member => ?_⟩
    simp only [readWords, List.mem_map, List.mem_range] at member
    obtain ⟨index, inside, rfl⟩ := member
    exact rest _ (by omega) (by omega)
  have body : readWords page word (recordWords data.length - 1) =
      (buildRecord type data).take (2 * doubles) ++
        List.replicate (recordWords data.length - 2 * doubles - 1) erased := by
    rw [← read, ← erasedRest, ← readWords_add]
    congr 1
    omega
  rw [body, rest (word + recordWords data.length - 1) (by omega) (by omega)]
  exact decide_eq_false (fun lucky => unlucky doubles begun fewer lucky.symm)

/-! ## The page in use is whole -/

/-- The page in use is the one a start would choose, and holds what is read. -/
structure Whole (store : StoreStatus) (flash : Flash) : Prop where
  sound : Sound store flash
  chosen : choosePage flash = if store.active then some (store.page, store.generation) else none
  reads : store.active = true → ∀ type, pageReading (flash store.page) type = reading store flash type
  orderly : store.active = true → Orderly (flash store.page)
  unread : store.active = true → store.full = false →
    ∀ type, Unread (flash store.page) store.usedWords type

/-- A page with nothing hidden past its journal is whole. -/
theorem Whole.of_unread {store : StoreStatus} {flash : Flash} (sound : Sound store flash)
    (chosen : choosePage flash = if store.active then some (store.page, store.generation) else none)
    (unread : store.active = true → ∀ type, Unread (flash store.page) store.usedWords type) :
    Whole store flash where
  sound := sound
  chosen := chosen
  reads active type := by
    obtain ⟨entries, journal⟩ := sound.journal active
    by_cases known : 0 < type ∧ type < storeTypes
    · rw [journal.pageReading known (unread active type), journal.reading active known]
    · rw [reading_unknown _ _ known, pageReading, reading_unknown _ _ known]
  orderly active := by
    obtain ⟨entries, journal⟩ := sound.journal active
    exact orderly_of_unread journal.walk (unread active)
  unread active _ := unread active

/-- **Starting again** from a whole page leaves it whole and what is read as it was. -/
theorem Whole.storeInit {store : StoreStatus} {flash : Flash} (whole : Whole store flash) :
    Whole (storeInit flash) flash ∧
      ∀ type, reading (storeInit flash) flash type = reading store flash type := by
  cases active : store.active with
  | false =>
      have chosen := whole.chosen
      rw [active, if_neg (by simp)] at chosen
      have started : Store.storeInit flash = {} := by rw [Store.storeInit, chosen]
      refine ⟨⟨Sound.storeInit flash, ?_, ?_, ?_, ?_⟩, fun type => ?_⟩
      · rw [started, chosen]
        rfl
      · rw [started]
        nofun
      · rw [started]
        nofun
      · rw [started]
        nofun
      · rw [started, reading_inactive _ _ active, reading_inactive _ _ rfl]
  | true =>
      have chosen := whole.chosen
      rw [active, if_pos rfl] at chosen
      have started : Store.storeInit flash = scan flash
          { page := store.page, generation := store.generation, active := true } := by
        rw [Store.storeInit, chosen]
      obtain ⟨sameActive, samePage, sameGeneration⟩ := scan_kept flash
        { page := store.page, generation := store.generation, active := true }
      have reads : ∀ type, reading (Store.storeInit flash) flash type =
          pageReading (flash store.page) type := by
        intro type
        rw [reading_storeInit, chosen]
      refine ⟨⟨Sound.storeInit flash, ?_, ?_, ?_, ?_⟩, fun type => ?_⟩
      · rw [started, sameActive, samePage, sameGeneration, chosen, if_pos rfl]
      · intro _ type
        rw [reads, started, samePage]
      · intro _
        rw [started, samePage]
        exact whole.orderly active
      · intro _ roomy
        rw [started] at roomy ⊢
        rw [samePage]
        obtain ⟨free, entries, walk⟩ := scan_open roomy
        exact whole.orderly active entries _ walk free
      · rw [reads, whole.reads active]

/-! ## Writes -/

variable {store : StoreStatus} {flash written : Flash} {type : Nat} {data : List Byte}

/-- A record appended whole leaves the page whole. -/
theorem Whole.append (whole : Whole store flash) (fits : appends store flash data.length = true)
    (known : 0 < type ∧ type < storeTypes) (short : data.length ≤ storeRecordMaxBytes)
    (untouched : Untouched flash written store.page store.usedWords (recordWords data.length))
    (read : readWords (written store.page) store.usedWords (recordWords data.length) =
      buildRecord type data) :
    Whole (store.appended type data.length) written := by
  obtain ⟨active, roomy, within, clean⟩ := appends_spec fits
  obtain ⟨entries, journal⟩ := whole.sound.journal active
  have start := journal.walk.le
  have sound := (whole.sound.append active known short within untouched read).1
  refine .of_unread sound ?_ fun _ other => ?_
  · rw [choosePage_congr fun page word low => untouched.below page (by omega)]
    exact whole.chosen
  · exact (whole.unread active roomy other).past short within clean
      fun place past => untouched.above store.page past

/-- A record cut short leaves the page whole, and what is read as it was. -/
theorem Whole.cut {chip : Chip} (whole : Whole store chip.flash)
    (fits : appends store chip.flash data.length = true)
    (known : 0 < type ∧ type < storeTypes) (short : data.length ≤ storeRecordMaxBytes)
    (unlucky : NoLuckyPrefix type data) (power : PowerOnly chip.outcomes)
    (lost : (writeWords chip store.page store.usedWords (buildRecord type data)).1 = none) :
    Whole store (writeWords chip store.page store.usedWords (buildRecord type data)).2.flash := by
  obtain ⟨active, roomy, within, clean⟩ := appends_spec fits
  obtain ⟨entries, journal⟩ := whole.sound.journal active
  have start := journal.walk.le
  obtain ⟨_, ok | ⟨_, doubles, fewer, untouched, read⟩⟩ :=
    @writeWords_powerOnly chip store.page store.usedWords (buildRecord type data)
      (by rw [length_buildRecord]; exact recordWords_even _) power
  · rw [lost] at ok
    cases ok
  · generalize (writeWords chip store.page store.usedWords (buildRecord type data)).2.flash =
      written at untouched read ⊢
    rw [length_buildRecord] at fewer
    rw [blank_iff] at clean
    refine .of_unread (whole.sound.beyond active untouched).1 ?_ fun _ other => ?_
    · rw [choosePage_congr fun page word low => untouched.below page (by omega)]
      exact whole.chosen
    · rcases Nat.eq_zero_or_pos doubles with rfl | begun
      · have same : written store.page = chip.flash store.page := by
          funext word
          exact untouched store.page word (fun inside => by omega)
        rw [same]
        exact whole.unread active roomy other
      · obtain ⟨record, stands, spans, torn⟩ := checkRecord_torn known short within unlucky begun
          fewer read (fun place past inside => by
            rw [untouched.above store.page past, ← clean (place - store.usedWords) (by omega)]
            congr 1
            omega)
        refine Clear.of_pass (found_of_checkRecord stands) ?_ ?_
        · intro counts
          rw [(recordKey_eq_some counts).1] at torn
          cases torn
        · rw [spans]
          exact (whole.unread active roomy other).past short within
            ((blank_iff _ _ _).mpr clean) fun place past => untouched.above store.page (by omega)

/-- A new page written whole is whole. -/
theorem Renewed.whole {next : StoreStatus} (sound : Sound store flash)
    (elsewhere : ∀ page, page ≠ store.target → written page = flash page)
    (renewed : Renewed store flash type data next written) : Whole next written := by
  refine .of_unread renewed.sound ?_ fun _ other => ?_
  · rw [sound.choosePage_changed renewed.header elsewhere, renewed.active, renewed.page,
      renewed.generation, if_pos rfl]
  · rw [renewed.page]
    exact clear_erased renewed.rest

/-- What a power cut in a change of page leaves: the other page as it was, or headerless. -/
theorem Broken.powerOnly {chip : Chip} (power : PowerOnly chip.outcomes)
    (broken : Broken store chip type written) :
    headerValid (written store.target) = none ∨ written = chip.flash := by
  cases broken with
  | erasing =>
      rcases @flashErasePage_powerOnly chip store.target power with ⟨next, done, _, empty⟩ | cut
      · rw [done]
        exact Or.inl (headerValid_erased (empty 0 (by decide)))
      · rw [cut]
        exact Or.inr rfl
  | copying headerless => exact Or.inl (headerValid_erased (headerless 0 (by decide)))
  | @header last _ _ headerless powered _ _ _ failed =>
      obtain ⟨_, ok | ⟨_, doubles, fewer, untouched, read⟩⟩ :=
        @writeWords_powerOnly last store.target 0 (headerWords store.nextGeneration)
          (by rw [length_headerWords]; decide) (powered power)
      · exact absurd ok failed
      · left
        generalize (writeWords last store.target 0 (headerWords store.nextGeneration)).2.flash =
          after at untouched read ⊢
        rw [length_headerWords, storeHeaderWords] at fewer
        have later : ∀ word, 2 * doubles ≤ word → word < storeHeaderWords →
            after store.target word = erased := fun word past inside =>
          (untouched.above store.target (by omega)).trans (headerless word inside)
        rcases Nat.eq_zero_or_pos doubles with rfl | begun
        · exact headerValid_erased (later 0 (by omega) (by decide))
        · obtain rfl : doubles = 1 := by omega
          simp only [Nat.mul_one, headerWords, readWords, List.range_succ, List.range_zero,
            List.nil_append, List.cons_append, List.map_cons, List.map_nil, Nat.zero_add,
            List.take_succ_cons, List.take_zero, List.cons.injEq, and_true] at read
          exact headerValid_cut read.1 read.2 (later 2 (by omega) (by decide))
            (later 3 (by omega) (by decide))

/-- A change of page that power cut short leaves the page in use whole. -/
theorem Whole.broken (whole : Whole store flash)
    (elsewhere : ∀ page, page ≠ store.target → written page = flash page)
    (left : headerValid (written store.target) = none ∨ written = flash) :
    Whole store written := by
  rcases left with headerless | rfl
  · obtain ⟨sound, reads⟩ := whole.sound.elsewhere elsewhere
    have kept : store.active = true → written store.page = flash store.page :=
      fun active => elsewhere _ (target_ne active).symm
    refine ⟨sound, whole.sound.choosePage_kept headerless elsewhere, ?_, ?_, ?_⟩
    · intro active other
      rw [kept active, reads, whole.reads active]
    · intro active
      rw [kept active]
      exact whole.orderly active
    · intro active
      rw [kept active]
      exact whole.unread active
  · exact whole

theorem Whole.noted (whole : Whole store flash) {full : Bool} (keeps : full = store.full ∨ full = true)
    (failures : Nat) (lastResult : StoreResult) :
    Whole { store with full, failures, lastResult } flash where
  sound := whole.sound.noted full failures lastResult
  chosen := whole.chosen
  reads := whole.reads
  orderly := whole.orderly
  unread active roomy := by
    rcases keeps with rfl | rfl
    · exact whole.unread active roomy
    · cases roomy

theorem writeByChange_whole {chip : Chip} (whole : Whole store chip.flash)
    (known : 0 < type ∧ type < storeTypes) (short : data.length ≤ storeRecordMaxBytes)
    (power : PowerOnly chip.outcomes) :
    ((writeByChange store chip type data).1 = some .ok ∨
        (writeByChange store chip type data).1 = none) ∧
      Whole (writeByChange store chip type data).2.1
        (writeByChange store chip type data).2.2.flash := by
  obtain ⟨untouched, ends, powered⟩ := writeByChange_spec data whole.sound known short
  refine ⟨powered power, ?_⟩
  have elsewhere := fun page different => @Untouched.elsewhere _ _ _ _ _ untouched page different
  rcases ends with ⟨_, next, after, renewed⟩ | ⟨_, ⟨failures, lastResult, after⟩, broken⟩
  · rw [after]
    exact (renewed.whole whole.sound elsewhere).noted (Or.inl rfl) next.failures .ok
  · rw [after]
    exact (whole.broken elsewhere (broken.powerOnly power)).noted (Or.inl rfl) failures lastResult

/-- **A write in which power may be lost** leaves a whole page and returns no error. -/
theorem storeWrite_whole (chip : Chip) (whole : Whole store chip.flash)
    (known : 0 < type ∧ type < storeTypes) (short : data.length ≤ storeRecordMaxBytes)
    (unlucky : NoLuckyPrefix type data) (power : PowerOnly chip.outcomes) :
    ((storeWrite store chip type data).1 = some .ok ∨ (storeWrite store chip type data).1 = none) ∧
      Whole (storeWrite store chip type data).2.1 (storeWrite store chip type data).2.2.flash := by
  have ends := storeWrite_cases store chip data known short
  generalize storeWrite store chip type data = result at ends ⊢
  cases ends with
  | appended fits ok =>
      have untouched := writeWords_untouched chip store.page store.usedWords (buildRecord type data)
      have read := writeWords_ok ok
      rw [length_buildRecord] at untouched read
      exact ⟨Or.inl rfl, whole.append fits known short untouched read⟩
  | cut fits lost => exact ⟨Or.inr rfl, whole.cut fits known short unlucky power lost⟩
  | changed full _ keeps =>
      exact writeByChange_whole (whole.noted keeps store.failures store.lastResult) known short power
  | failed _ error powered =>
      obtain ⟨_, ok | ⟨lost, _⟩⟩ :=
        @writeWords_powerOnly chip store.page store.usedWords (buildRecord type data)
          (by rw [length_buildRecord]; exact recordWords_even _) power
      · exact absurd ok error
      · exact absurd lost powered

/-! ## Runs -/

/-- **One write, cut or not.** What is read of the other types stays; of its own it is the
data written, or what it was where the write was cut. -/
theorem step_write_powerCuts {state : State} (whole : Whole state.store state.flash)
    {outcomes : List Outcome} (admitted : powerCuts state (.write type data outcomes)) :
    Whole (step state (.write type data outcomes)).store
        (step state (.write type data outcomes)).flash ∧
      (∀ other, other ≠ type →
        (step state (.write type data outcomes)).reads other = state.reads other) ∧
      (writeReturns state type data outcomes = some .ok ∧
          (step state (.write type data outcomes)).reads type = some data ∨
        writeReturns state type data outcomes = none ∧
          ((step state (.write type data outcomes)).reads type = state.reads type ∨
            (step state (.write type data outcomes)).reads type = some data)) := by
  obtain ⟨known, short, power, unlucky⟩ := admitted
  obtain ⟨ends, kept⟩ := storeWrite_whole { flash := state.flash, outcomes } whole known short
    unlucky power
  have reads := (storeWrite_reading { flash := state.flash, outcomes } whole.sound type data).2
  obtain ⟨restarted, restores⟩ := kept.storeInit
  simp only [step, writeReturns, writeLeaves, State.reads]
  generalize storeWrite state.store { flash := state.flash, outcomes } type data = result at *
  obtain ⟨code, store, chip⟩ := result
  dsimp only at *
  have others : ∀ other, other ≠ type →
      reading store chip.flash other = reading state.store state.flash other :=
    fun other different => by rw [reads other, if_neg (fun both => different both.2)]
  have own : reading store chip.flash type = reading state.store state.flash type ∨
      reading store chip.flash type = some data := by
    rw [reads type]
    split
    · exact Or.inr rfl
    · exact Or.inl rfl
  have lost : Whole (storeInit chip.flash) chip.flash ∧
      (∀ other, other ≠ type → reading (storeInit chip.flash) chip.flash other =
        reading state.store state.flash other) ∧
      (reading (storeInit chip.flash) chip.flash type = reading state.store state.flash type ∨
        reading (storeInit chip.flash) chip.flash type = some data) :=
    ⟨restarted, fun other different => (restores other).trans (others other different),
      by rw [restores]; exact own⟩
  have returns : chip.returns code = none ∨ chip.returns code = some .ok ∧ code = some .ok := by
    rcases chip.returns_cases code with cut | whole
    · exact Or.inl cut
    · rw [whole]
      rcases ends with rfl | rfl
      · exact Or.inr ⟨rfl, rfl⟩
      · exact Or.inl rfl
  rcases returns with cut | ⟨returned, rfl⟩
  · rw [cut]
    exact ⟨lost.1, lost.2.1, Or.inr ⟨rfl, lost.2.2⟩⟩
  · have written := reads type
    rw [if_pos ⟨rfl, rfl⟩] at written
    rw [returned]
    exact ⟨kept, others, Or.inl ⟨rfl, written⟩⟩

/-- The record read of each type is the last completed or one cut short since. -/
def Accounted (state : State) : Prop :=
  ∀ type, state.reads type = state.completed type ∨
    ∃ data ∈ state.attempted type, state.reads type = some data

theorem machine_powerCuts :
    machine.Invariant powerCuts fun state =>
      Whole state.store state.flash ∧ Accounted state where
  start state initial := by
    cases initial
    have choose : choosePage blankFlash = none := by
      rw [choosePage, headerValid_erased rfl, headerValid_erased rfl]
    refine ⟨⟨sound_blank, choose, fun active => ?_, fun active => ?_, fun active => ?_⟩,
      fun type => Or.inl (reading_inactive _ _ rfl)⟩
    all_goals cases active
  step state act valid admitted := by
    obtain ⟨whole, accounted⟩ := valid
    cases act with
    | start =>
        obtain ⟨started, reads⟩ := whole.storeInit
        refine ⟨started, fun type => ?_⟩
        have same : (machine.step state .start).reads type = state.reads type := reads type
        rw [same]
        exact accounted type
    | write type data outcomes =>
        obtain ⟨kept, others, own⟩ := step_write_powerCuts whole admitted
        refine ⟨kept, fun other => ?_⟩
        change (step state (.write type data outcomes)).reads other =
            (step state (.write type data outcomes)).completed other ∨
          ∃ candidate ∈ (step state (.write type data outcomes)).attempted other,
            (step state (.write type data outcomes)).reads other = some candidate
        by_cases same : other = type
        · subst same
          rcases own with ⟨returned, read⟩ | ⟨lost, kept | read⟩
          · left
            rw [read]
            simp [step, returned]
          · rw [kept]
            simp only [step, lost, Function.update_self]
            rcases accounted other with last | ⟨candidate, member, read⟩
            · exact Or.inl last
            · exact Or.inr ⟨candidate, List.mem_cons_of_mem _ member, read⟩
          · right
            refine ⟨data, ?_, read⟩
            simp [step, lost]
        · rw [others other same]
          rcases own with ⟨returned, _⟩ | ⟨lost, _⟩
          · simp only [step, returned, Function.update_of_ne same]
            exact accounted other
          · simp only [step, lost, Function.update_of_ne same]
            exact accounted other

theorem Whole.startReads {state : State} (whole : Whole state.store state.flash) (type : Nat) :
    state.startReads type = state.reads type := whole.storeInit.2 type

/-- **Power cuts are atomic.** Whenever the store is started, each type reads as its last
completed write or, where writes of it were cut since, as one of those; and every write
returns `STORE_OK` and is read from then on, or is cut and changes at most what is read
of its own type, to the data it was writing. -/
theorem power_cut_atomic {state : State} (reached : machine.Reachable powerCuts state) :
    (∀ type, state.startReads type = state.completed type ∨
        ∃ data ∈ state.attempted type, state.startReads type = some data) ∧
      ∀ type data outcomes, powerCuts state (.write type data outcomes) →
        (∀ other, other ≠ type →
          (step state (.write type data outcomes)).startReads other = state.startReads other) ∧
        (writeReturns state type data outcomes = some .ok ∧
            (step state (.write type data outcomes)).startReads type = some data ∨
          writeReturns state type data outcomes = none ∧
            ((step state (.write type data outcomes)).startReads type = state.startReads type ∨
              (step state (.write type data outcomes)).startReads type = some data)) := by
  obtain ⟨whole, accounted⟩ := machine_powerCuts.reachable reached
  refine ⟨fun type => ?_, fun type data outcomes admitted => ?_⟩
  · rw [whole.startReads]
    exact accounted type
  · obtain ⟨kept, others, own⟩ := step_write_powerCuts whole admitted
    simp only [kept.startReads, whole.startReads]
    exact ⟨others, own⟩

/-- A write over another of its type, cut half way through its record. -/
theorem power_cut_atomic_torn :
    ∃ state, machine.Reachable powerCuts state ∧
      (∀ other, other ≠ 1 →
        (step state (.write 1 [0x22] [.done, .lost])).startReads other = state.startReads other) ∧
      ((step state (.write 1 [0x22] [.done, .lost])).startReads 1 = state.startReads 1 ∨
        (step state (.write 1 [0x22] [.done, .lost])).startReads 1 = some [0x22]) := by
  have unlucky : ∀ value : Byte, value = 0x11 ∨ value = 0x22 → NoLuckyPrefix 1 [value] := by
    intro value either doubles begun fewer
    obtain rfl : doubles = 1 := by
      simp only [recordWords, List.length_singleton] at fewer
      omega
    rcases either with rfl | rfl <;> decide +kernel
  have first : powerCuts {} (.write 1 [0x11] []) :=
    ⟨⟨by decide, by decide⟩, by decide, nofun, unlucky _ (Or.inl rfl)⟩
  have power : PowerOnly [.done, .lost] := by
    intro outcome member
    rcases List.mem_pair.mp member with rfl | rfl
    · exact Or.inl rfl
    · exact Or.inr rfl
  have second : ∀ state, powerCuts state (.write 1 [0x22] [.done, .lost]) :=
    fun _ => ⟨⟨by decide, by decide⟩, by decide, power, unlucky _ (Or.inr rfl)⟩
  have reached : machine.Reachable powerCuts (machine.step {} (.write 1 [0x11] [])) :=
    .step (.start rfl) _ first
  obtain ⟨others, ⟨_, read⟩ | ⟨_, either⟩⟩ := (power_cut_atomic reached).2 1 _ _ (second _)
  · exact ⟨_, reached, others, Or.inr read⟩
  · exact ⟨_, reached, others, either⟩

end GpsClock.Store
