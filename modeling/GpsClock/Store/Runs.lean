import GpsClock.Lib.Machine
import GpsClock.Store.Sound

/-! # Runs of the store

Records are written one after another, each flash operation with its outcome, and the
store is started again whenever power was lost or at any other moment. Beside the
store and its flash a run keeps what was written of each type: the data of the last
write that returned `STORE_OK` and of those attempted since. In every run the store is
sound (`GpsClock.Store.machine_sound`), and a write that returns an error leaves what is
read of every type in the running store as it was
(`GpsClock.Store.storeWrite_error_reading`).
-/

namespace GpsClock.Store

open Journal

/-- What a write did with its record: appended it, lost power appending it, changed page,
or changed page having failed to append it. -/
inductive Written (store : StoreStatus) (chip : Chip) (type : Nat) (data : List Byte) :
    Option StoreResult × StoreStatus × Chip → Prop
  | appended (fits : appends store chip.flash data.length = true)
      (ok : (writeWords chip store.page store.usedWords (buildRecord type data)).1 = some .ok) :
      Written store chip type data (some .ok, store.appended type data.length,
        (writeWords chip store.page store.usedWords (buildRecord type data)).2)
  | cut (fits : appends store chip.flash data.length = true)
      (lost : (writeWords chip store.page store.usedWords (buildRecord type data)).1 = none) :
      Written store chip type data (none, store,
        (writeWords chip store.page store.usedWords (buildRecord type data)).2)
  | changed (full : Bool) (whole : appends store chip.flash data.length = false)
      (keeps : full = store.full ∨ full = true) :
      Written store chip type data (writeByChange { store with full } chip type data)
  | failed (fits : appends store chip.flash data.length = true)
      (error : (writeWords chip store.page store.usedWords (buildRecord type data)).1 ≠ some .ok)
      (powered : (writeWords chip store.page store.usedWords (buildRecord type data)).1 ≠ none) :
      Written store chip type data
        (writeByChange { store with failures := store.failures + 1, full := true }
          (writeWords chip store.page store.usedWords (buildRecord type data)).2 type data)

/-- **What a write can do.** -/
theorem storeWrite_cases (store : StoreStatus) (chip : Chip) {type : Nat} (data : List Byte)
    (known : 0 < type ∧ type < storeTypes) (short : data.length ≤ storeRecordMaxBytes) :
    Written store chip type data (storeWrite store chip type data) := by
  have valid : ¬(type = 0 ∨ storeTypes ≤ type ∨ storeRecordMaxBytes < data.length) := by omega
  rw [storeWrite, if_neg valid]
  cases erases : storeWriteErases store data.length with
  | true =>
      have whole : appends store chip.flash data.length = false := by simp [appends, erases]
      rw [if_pos rfl]
      exact .changed store.full whole (Or.inl rfl)
  | false =>
      rw [if_neg (by simp)]
      cases clean : blank (chip.flash store.page) store.usedWords (recordWords data.length) with
      | false =>
          have whole : appends store chip.flash data.length = false := by simp [appends, clean]
          rw [if_neg (by simp)]
          exact .changed true whole (Or.inr rfl)
      | true =>
          have fits : appends store chip.flash data.length = true := by
            simp [appends, erases, clean]
          have appended := @Written.appended store chip type data fits
          have cut := @Written.cut store chip type data fits
          have failed := @Written.failed store chip type data fits
          rw [if_pos rfl]
          cases writing : writeWords chip store.page store.usedWords (buildRecord type data) with
          | mk code next =>
            rw [writing] at appended cut failed
            match code with
            | none => exact cut rfl
            | some .ok => exact appended rfl
            | some .badArgument => exact failed nofun nofun
            | some .flashFailed => exact failed nofun nofun
            | some .verify => exact failed nofun nofun

theorem appends_spec {store : StoreStatus} {flash : Flash} {length : Nat}
    (fits : appends store flash length = true) :
    store.active = true ∧ store.full = false ∧
      store.usedWords + recordWords length ≤ flashPageWords ∧
      blank (flash store.page) store.usedWords (recordWords length) = true := by
  simp only [appends, storeWriteErases, Bool.and_eq_true, Bool.not_eq_true', Bool.or_eq_false_iff,
    Bool.not_eq_false', decide_eq_false_iff_not, Nat.not_lt] at fits
  exact ⟨fits.1.1.1, fits.1.1.2, fits.1.2, fits.2⟩

/-- What a change of page at the end of a write can do. -/
theorem writeByChange_spec {store : StoreStatus} {chip : Chip} {type : Nat} (data : List Byte)
    (sound : Sound store chip.flash) (known : 0 < type ∧ type < storeTypes)
    (short : data.length ≤ storeRecordMaxBytes) :
    Untouched chip.flash (writeByChange store chip type data).2.2.flash store.target 0
        flashPageWords ∧
      (((writeByChange store chip type data).1 = some .ok ∧
          ∃ next, (writeByChange store chip type data).2.1 = { next with lastResult := .ok } ∧
            Renewed store chip.flash type data next
              (writeByChange store chip type data).2.2.flash) ∨
        (writeByChange store chip type data).1 ≠ some .ok ∧
          (∃ failures lastResult, (writeByChange store chip type data).2.1 =
            { store with failures, lastResult }) ∧
          Broken store chip type (writeByChange store chip type data).2.2.flash) ∧
      (PowerOnly chip.outcomes → (writeByChange store chip type data).1 = some .ok ∨
        (writeByChange store chip type data).1 = none) := by
  have spec := changePage_spec sound known short
  rw [writeByChange]
  cases changing : changePage store chip type data with
  | mk code rest =>
    obtain ⟨next, last⟩ := rest
    rw [changing] at spec
    obtain ⟨untouched, ends, power⟩ := spec
    match code with
    | none =>
        rcases ends with ⟨done, _⟩ | ⟨error, same, broken⟩
        · cases done
        · cases same
          exact ⟨untouched, Or.inr ⟨nofun, ⟨_, _, rfl⟩, broken⟩, fun _ => Or.inr rfl⟩
    | some .ok =>
        rcases ends with ⟨_, renewed⟩ | ⟨error, _⟩
        · exact ⟨untouched, Or.inl ⟨rfl, _, rfl, renewed⟩, fun _ => Or.inl rfl⟩
        · exact absurd rfl error
    | some .badArgument =>
        rcases ends with ⟨done, _⟩ | ⟨error, same, broken⟩
        · cases done
        · cases same
          exact ⟨untouched, Or.inr ⟨nofun, ⟨_, _, rfl⟩, broken⟩, power⟩
    | some .flashFailed =>
        rcases ends with ⟨done, _⟩ | ⟨error, same, broken⟩
        · cases done
        · cases same
          exact ⟨untouched, Or.inr ⟨nofun, ⟨_, _, rfl⟩, broken⟩, power⟩
    | some .verify =>
        rcases ends with ⟨done, _⟩ | ⟨error, same, broken⟩
        · cases done
        · cases same
          exact ⟨untouched, Or.inr ⟨nofun, ⟨_, _, rfl⟩, broken⟩, power⟩

/-- What a change of page does to what is read. -/
theorem writeByChange_reading {store : StoreStatus} {chip : Chip} {type : Nat} {data : List Byte}
    (sound : Sound store chip.flash) (known : 0 < type ∧ type < storeTypes)
    (short : data.length ≤ storeRecordMaxBytes) :
    Sound (writeByChange store chip type data).2.1 (writeByChange store chip type data).2.2.flash ∧
      ∀ other, reading (writeByChange store chip type data).2.1
          (writeByChange store chip type data).2.2.flash other =
        if (writeByChange store chip type data).1 = some .ok ∧ other = type then some data
        else reading store chip.flash other := by
  obtain ⟨untouched, ⟨done, next, after, renewed⟩ | ⟨error, ⟨failures, lastResult, after⟩, _⟩, _⟩ :=
    writeByChange_spec data sound known short
  · rw [after]
    refine ⟨renewed.sound.noted next.full next.failures .ok, fun other => ?_⟩
    simp only [done, true_and]
    exact renewed.reads other
  · obtain ⟨still, reads⟩ := sound.elsewhere fun page different => untouched.elsewhere different
    rw [after]
    refine ⟨still.noted store.full failures lastResult, fun other => ?_⟩
    rw [if_neg (fun ok => error ok.1)]
    exact reads other

/-- **A write keeps the store sound**, and what is read of every type changes only where
it returns `STORE_OK`, and then only for the type written. -/
theorem storeWrite_reading {store : StoreStatus} (chip : Chip) (sound : Sound store chip.flash)
    (type : Nat) (data : List Byte) :
    Sound (storeWrite store chip type data).2.1 (storeWrite store chip type data).2.2.flash ∧
      ∀ other, reading (storeWrite store chip type data).2.1
          (storeWrite store chip type data).2.2.flash other =
        if (storeWrite store chip type data).1 = some .ok ∧ other = type then some data
        else reading store chip.flash other := by
  by_cases valid : (0 < type ∧ type < storeTypes) ∧ data.length ≤ storeRecordMaxBytes
  · obtain ⟨known, short⟩ := valid
    have ends := storeWrite_cases store chip data known short
    generalize storeWrite store chip type data = written at ends ⊢
    cases ends with
    | appended fits ok =>
        obtain ⟨active, _, within, _⟩ := appends_spec fits
        have untouched := writeWords_untouched chip store.page store.usedWords (buildRecord type data)
        have read := writeWords_ok ok
        rw [length_buildRecord] at untouched read
        simp only [true_and]
        exact sound.append active known short within untouched read
    | cut fits lost =>
        obtain ⟨active, _⟩ := appends_spec fits
        have untouched := writeWords_untouched chip store.page store.usedWords (buildRecord type data)
        obtain ⟨still, reads⟩ := sound.beyond active untouched
        simp only [reduceCtorEq, false_and, if_false]
        exact ⟨still, reads⟩
    | changed full _ _ =>
        exact writeByChange_reading (sound.noted full store.failures store.lastResult) known short
    | failed fits _ _ =>
        obtain ⟨active, _⟩ := appends_spec fits
        have untouched := writeWords_untouched chip store.page store.usedWords (buildRecord type data)
        obtain ⟨still, reads⟩ := sound.beyond active untouched
        obtain ⟨kept, changes⟩ := writeByChange_reading
          (still.noted true (store.failures + 1) store.lastResult) known short
        refine ⟨kept, fun other => (changes other).trans ?_⟩
        split
        · rfl
        · exact reads other
  · have invalid : type = 0 ∨ storeTypes ≤ type ∨ storeRecordMaxBytes < data.length := by omega
    rw [storeWrite, if_pos invalid]
    refine ⟨sound.noted store.full store.failures .badArgument, fun other => ?_⟩
    rw [if_neg (by simp)]
    rfl

/-- A write that returns an error leaves what is read as it was. -/
theorem storeWrite_error_reading {store : StoreStatus} (chip : Chip) (type : Nat)
    (data : List Byte) (sound : Sound store chip.flash)
    (error : (storeWrite store chip type data).1 ≠ some .ok) (other : Nat) :
    reading (storeWrite store chip type data).2.1 (storeWrite store chip type data).2.2.flash
      other = reading store chip.flash other := by
  rw [(storeWrite_reading chip sound type data).2 other, if_neg (fun ok => error ok.1)]

/-! ## Runs -/

/-- The store, its flash, and what was written of each type: the data of the last write that
returned `STORE_OK`, and of those attempted since. -/
structure State where
  store : StoreStatus := {}
  flash : Flash := blankFlash
  completed : Nat → Option (List Byte) := fun _ => none
  attempted : Nat → List (List Byte) := fun _ => []

/-- What happens to the store: a write, each of whose flash operations has its outcome, or a
start. -/
inductive Act
  | write (type : Nat) (data : List Byte) (outcomes : List Outcome)
  | start

/-- What comes back of a result where power may be lost after the last operation. -/
def Chip.returns (chip : Chip) (result : Option StoreResult) : Option StoreResult :=
  match chip.outcomes.head? with
  | some .lost => none
  | _ => result

theorem Chip.returns_cases (chip : Chip) (result : Option StoreResult) :
    chip.returns result = none ∨ chip.returns result = result := by
  unfold Chip.returns
  split
  · exact Or.inl rfl
  · exact Or.inr rfl

/-- What a write returns, if power is not lost in it or after its last operation. -/
def writeReturns (state : State) (type : Nat) (data : List Byte) (outcomes : List Outcome) :
    Option StoreResult :=
  let written := storeWrite state.store { flash := state.flash, outcomes } type data
  written.2.2.returns written.1

theorem storeWrite_of_writeReturns {state : State} {type : Nat} {data : List Byte}
    {outcomes : List Outcome} {result : StoreResult}
    (returned : writeReturns state type data outcomes = some result) :
    (storeWrite state.store { flash := state.flash, outcomes } type data).1 = some result := by
  unfold writeReturns at returned
  rcases Chip.returns_cases _ _ with cut | whole
  · rw [cut] at returned
    cases returned
  · rw [whole] at returned
    exact returned

/-- Where a write leaves the store that made it. -/
def writeLeaves (state : State) (type : Nat) (data : List Byte) (outcomes : List Outcome) :
    StoreStatus × Flash :=
  let written := storeWrite state.store { flash := state.flash, outcomes } type data
  (written.2.1, written.2.2.flash)

/-- A step: where power is lost in a write, the store is started again. -/
def step (state : State) : Act → State
  | .start => { state with store := storeInit state.flash }
  | .write type data outcomes =>
      let left := writeLeaves state type data outcomes
      match writeReturns state type data outcomes with
      | some .ok =>
          { store := left.1, flash := left.2
            completed := Function.update state.completed type (some data)
            attempted := Function.update state.attempted type [] }
      | some _ =>
          { state with
            store := left.1, flash := left.2
            attempted := Function.update state.attempted type (data :: state.attempted type) }
      | none =>
          { state with
            store := storeInit left.2, flash := left.2
            attempted := Function.update state.attempted type (data :: state.attempted type) }

/-- The store from blank flash on. -/
def machine : Machine State Act where
  start state := state = {}
  step := step

/-- What is read of a type now. -/
def State.reads (state : State) (type : Nat) : Option (List Byte) :=
  reading state.store state.flash type

/-- What is read of a type if the store is started now. -/
def State.startReads (state : State) (type : Nat) : Option (List Byte) :=
  reading (storeInit state.flash) state.flash type

/-- The store of a blank flash, before it is started. -/
theorem sound_blank : Sound {} blankFlash where
  live impossible := by cases impossible
  idle _ := ⟨headerValid_erased rfl, fun _ => rfl⟩
  journal impossible := by cases impossible

/-- **In every run the store is sound.** -/
theorem machine_sound {admits : State → Act → Prop} :
    machine.Invariant admits fun state => Sound state.store state.flash where
  start state initial := by
    cases initial
    exact sound_blank
  step state act sound _ := by
    cases act with
    | start => exact Sound.storeInit state.flash
    | write type data outcomes =>
        have kept := (storeWrite_reading { flash := state.flash, outcomes } sound type data).1
        simp only [machine, step]
        split
        · exact kept
        · exact kept
        · exact Sound.storeInit _

end GpsClock.Store
