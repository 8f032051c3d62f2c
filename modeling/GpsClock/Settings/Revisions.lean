import GpsClock.Settings.Restart

/-! # What a revision identifies

The ESP writes settings against the revision it last saw, so a revision should
stand for one body. Within a run of the clock it does, but a reset goes back to the
revision stored, and changes made after it count on from there: where the reset
lost changes, their revisions are given out again (`GpsClock.Settings.revision_reused`).
While no change is made below the highest revision yet, nor past the counter's end,
a revision identifies one body (`GpsClock.Settings.revision_identifies_body`).
-/

namespace GpsClock.Settings

open Store (StoreResult)

/-- A revision and the body running under it. -/
abbrev Moment := BitVec 32 × SmlSettingsBody

/-- The settings now, and what `settings_revision` and `settings_body` have given so far. -/
structure Chronicle where
  now : Persisted
  moments : List Moment

def State.moment (settings : State) : Moment := (settings.revision, settings.running.body)

def Chronicle.step (chronicle : Chronicle) (act : Act) : Chronicle where
  now := chronicle.now.step act
  moments := (chronicle.now.step act).settings.moment :: chronicle.moments

def chronicles : Machine Chronicle Act where
  start chronicle :=
    persistence.start chronicle.now ∧ chronicle.moments = [chronicle.now.settings.moment]
  step := Chronicle.step

/-- One revision, one body. -/
def Identifies (moments : List Moment) : Prop :=
  ∀ first ∈ moments, ∀ second ∈ moments, first.1 = second.1 → first.2 = second.2

/-- The body an act writes. -/
def Act.writes : Act → Option SmlSettingsBody
  | .write body => some body
  | .restoreDefaults => some settingsDefaults
  | _ => none

/-- A body that would replace the running one. -/
def State.Replaces (settings : State) (body : SmlSettingsBody) : Prop :=
  settingsCheck body = .none ∧ body ≠ settings.running.body

/-- The revision is the highest yet: no reset has gone back behind it. -/
def Chronicle.Highest (chronicle : Chronicle) : Prop :=
  ∀ moment ∈ chronicle.moments, moment.1 ≤ chronicle.now.settings.revision

/-- A change is made at the highest revision yet, and not at the counter's end. -/
def Chronicle.Counts (chronicle : Chronicle) (act : Act) : Prop :=
  ∀ body ∈ act.writes, chronicle.now.settings.Replaces body →
    chronicle.Highest ∧ chronicle.now.settings.revision ≠ 0xFFFFFFFF

/-- What a restart would give. -/
def Persisted.restored (clock : Persisted) : Moment := (settingsInit clock.record).moment

/-- What stays true while every change counts: a revision identifies one body, what
runs and what a restart would give are moments of the history, and every revision
up to one given, from the first, was given too. -/
structure Chronicle.Valid (first : BitVec 32) (chronicle : Chronicle) : Prop where
  valid : chronicle.now.Valid
  identifies : Identifies chronicle.moments
  running : chronicle.now.settings.moment ∈ chronicle.moments
  restored : chronicle.now.restored ∈ chronicle.moments
  from_first : ∀ moment ∈ chronicle.moments, first ≤ moment.1
  unbroken : ∀ moment ∈ chronicle.moments, ∀ revision, first ≤ revision → revision ≤ moment.1 →
    ∃ body, (revision, body) ∈ chronicle.moments

/-- An act leaves the revision and the body, counts a change, or goes back to what was
stored; what a restart would give is as before, or what runs. -/
theorem Persisted.step_moment {clock : Persisted} (valid : clock.Valid) (act : Act) :
    ((clock.step act).settings.moment = clock.settings.moment ∨
        (∃ body ∈ act.writes, clock.settings.Replaces body ∧
          (clock.step act).settings.moment = (clock.settings.revision + 1, body)) ∨
        (clock.step act).settings.moment = clock.restored) ∧
      ((clock.step act).restored = clock.restored ∨
        (clock.step act).restored = clock.settings.moment) := by
  have writing (body : SmlSettingsBody) :
      (clock.settings.settingsWrite body).2.moment = clock.settings.moment ∨
        clock.settings.Replaces body ∧
          (clock.settings.settingsWrite body).2.moment = (clock.settings.revision + 1, body) := by
    obtain ⟨_, same⟩ | ⟨_, _, same⟩ | ⟨checked, differs, changed⟩ :=
      clock.settings.settingsWrite_cases body
    · exact .inl (by rw [same])
    · exact .inl (by rw [same])
    · exact .inr ⟨⟨checked, differs⟩, by rw [changed]; rfl⟩
  cases act with
  | write body =>
      refine ⟨?_, .inl rfl⟩
      obtain same | ⟨replaces, changed⟩ := writing body
      · exact .inl same
      · exact .inr (.inl ⟨body, rfl, replaces, changed⟩)
  | setDebug mask => exact ⟨.inl rfl, .inl rfl⟩
  | restoreDefaults =>
      refine ⟨?_, .inl rfl⟩
      obtain same | ⟨replaces, changed⟩ := writing settingsDefaults
      · exact .inl same
      · exact .inr (.inl ⟨settingsDefaults, rfl, replaces, changed⟩)
  | save => exact ⟨.inl rfl, .inl rfl⟩
  | service result =>
      simp only [Persisted.step]
      split
      · obtain ⟨running, revision, saved⟩ := clock.saveSettings_spec result
        refine ⟨.inl (by rw [State.moment, running, revision]; rfl), ?_⟩
        obtain ⟨record, _⟩ | ⟨record, _⟩ := saved
        · exact .inl (by rw [Persisted.restored, record]; rfl)
        · obtain ⟨back, counted⟩ := settingsInit_encodeRecord clock.settings.running
            clock.settings.revision valid.proper
          exact .inr (by rw [Persisted.restored, record, State.moment, back, counted]; rfl)
      · exact ⟨.inl rfl, .inl rfl⟩
  | restart => exact ⟨.inr (.inr rfl), .inl rfl⟩

theorem Identifies.cons {moments : List Moment} (identifies : Identifies moments) {moment : Moment}
    (agrees : ∀ other ∈ moments, other.1 = moment.1 → other.2 = moment.2) :
    Identifies (moment :: moments) := by
  intro first firstMember second secondMember same
  obtain firstNew | firstOld := List.mem_cons.mp firstMember
  · obtain secondNew | secondOld := List.mem_cons.mp secondMember
    · rw [firstNew, secondNew]
    · rw [firstNew] at same ⊢
      exact (agrees second secondOld same.symm).symm
  · obtain secondNew | secondOld := List.mem_cons.mp secondMember
    · rw [secondNew] at same ⊢
      exact agrees first firstOld same
    · exact identifies first firstOld second secondOld same

/-- A moment the history has had keeps everything. -/
theorem Chronicle.Valid.again {first : BitVec 32} {chronicle : Chronicle}
    (valid : chronicle.Valid first) {act : Act}
    (had : (chronicle.now.step act).settings.moment ∈ chronicle.moments)
    (restored : (chronicle.now.step act).restored ∈ chronicle.moments) :
    (chronicle.step act).Valid first where
  valid := valid.valid.step act
  identifies := valid.identifies.cons fun other member same =>
    valid.identifies other member _ had same
  running := List.mem_cons_self
  restored := List.mem_cons_of_mem _ restored
  from_first := List.forall_mem_cons.mpr ⟨valid.from_first _ had, valid.from_first⟩
  unbroken := by
    have still (moment : Moment) (member : moment ∈ chronicle.moments) (revision : BitVec 32)
        (low : first ≤ revision) (high : revision ≤ moment.1) :
        ∃ body, (revision, body) ∈ (chronicle.step act).moments := by
      obtain ⟨body, given⟩ := valid.unbroken moment member revision low high
      exact ⟨body, List.mem_cons_of_mem _ given⟩
    exact List.forall_mem_cons.mpr ⟨still _ had, still⟩

theorem Chronicle.Valid.step {first : BitVec 32} {chronicle : Chronicle}
    (valid : chronicle.Valid first) (act : Act) (counts : chronicle.Counts act) :
    (chronicle.step act).Valid first := by
  obtain ⟨moves, keeps⟩ := Persisted.step_moment valid.valid act
  have restored : (chronicle.now.step act).restored ∈ chronicle.moments := by
    obtain same | same := keeps
    · exact same ▸ valid.restored
    · exact same ▸ valid.running
  obtain same | ⟨body, writes, replaces, changed⟩ | same := moves
  · exact valid.again (same ▸ valid.running) restored
  · obtain ⟨highest, room⟩ := counts body writes replaces
    have above : ∀ moment ∈ chronicle.moments,
        moment.1 < chronicle.now.settings.revision + 1 := by
      intro moment member
      have below := highest moment member
      bv_omega
    refine ⟨valid.valid.step act, ?_, List.mem_cons_self, List.mem_cons_of_mem _ restored, ?_, ?_⟩
    · refine valid.identifies.cons fun other member same => ?_
      rw [changed] at same
      exact absurd (same ▸ above other member) (BitVec.lt_irrefl _)
    · refine List.forall_mem_cons.mpr ⟨?_, valid.from_first⟩
      rw [changed]
      have started := valid.from_first _ valid.running
      have counted := above _ valid.running
      bv_omega
    · intro moment member revision low high
      have given : revision ≤ chronicle.now.settings.revision →
          ∃ body, (revision, body) ∈ (chronicle.step act).moments := by
        intro below
        obtain ⟨body, given⟩ := valid.unbroken _ valid.running revision low below
        exact ⟨body, List.mem_cons_of_mem _ given⟩
      by_cases below : revision ≤ chronicle.now.settings.revision
      · exact given below
      · have top : revision = chronicle.now.settings.revision + 1 := by
          rcases List.mem_cons.mp member with rfl | member
          · rw [changed] at high
            bv_omega
          · have := above moment member
            bv_omega
        refine ⟨body, ?_⟩
        rw [top, ← changed]
        exact List.mem_cons_self
  · exact valid.again (same ▸ valid.restored) restored

theorem Chronicle.Valid.start {chronicle : Chronicle} (started : chronicles.start chronicle) :
    chronicle.Valid chronicle.now.settings.revision := by
  obtain ⟨initial, moments⟩ := started
  have init : chronicle.now.settings = settingsInit chronicle.now.record := initial
  have only : ∀ moment ∈ chronicle.moments, moment = chronicle.now.settings.moment := by
    rw [moments]
    exact fun moment member => List.mem_singleton.mp member
  have here : chronicle.now.settings.moment ∈ chronicle.moments := by
    rw [moments]
    exact List.mem_singleton_self _
  refine ⟨.start init, ?_, here, ?_, ?_, ?_⟩
  · intro first firstMember second secondMember _
    rw [only first firstMember, only second secondMember]
  · rw [Persisted.restored, ← init]
    exact here
  · intro moment member
    rw [only moment member]
    exact BitVec.le_refl _
  · intro moment member revision low high
    rw [only moment member] at high
    have same : revision = chronicle.now.settings.revision := BitVec.le_antisymm high low
    refine ⟨chronicle.now.settings.running.body, ?_⟩
    rw [same]
    exact here

theorem chronicles_valid {chronicle : Chronicle}
    (reached : chronicles.Reachable Chronicle.Counts chronicle) :
    ∃ first, chronicle.Valid first := by
  induction reached with
  | start started => exact ⟨_, .start started⟩
  | step _ act counts ih =>
      obtain ⟨first, valid⟩ := ih
      exact ⟨first, valid.step act counts⟩

/-- **What a revision identifies.** In every history whose changes are each made at
the highest revision yet, and not at the counter's end, a revision identifies one
body, so one that matches the running revision was seen with the running body. A
change made below the highest takes a revision some body has had, and unless it is
that body, the revision identifies neither. -/
theorem revision_identifies_body {chronicle : Chronicle}
    (reached : chronicles.Reachable Chronicle.Counts chronicle) :
    Identifies chronicle.moments ∧
      (∀ moment ∈ chronicle.moments, moment.1 = chronicle.now.settings.revision →
        moment.2 = chronicle.now.settings.running.body) ∧
      ∀ body, chronicle.now.settings.Replaces body → ¬chronicle.Highest →
        ∃ other, (chronicle.now.settings.revision + 1, other) ∈ chronicle.moments ∧
          (other ≠ body → ¬Identifies (chronicle.step (.write body)).moments) := by
  obtain ⟨first, valid⟩ := chronicles_valid reached
  refine ⟨valid.identifies, fun moment member same =>
    valid.identifies moment member _ valid.running same, fun body replaces behind => ?_⟩
  have ahead : ∃ moment ∈ chronicle.moments, chronicle.now.settings.revision < moment.1 := by
    by_contra none_ahead
    exact behind fun moment member =>
      BitVec.not_lt.mp fun ahead => none_ahead ⟨moment, member, ahead⟩
  obtain ⟨moment, member, ahead⟩ := ahead
  have started := valid.from_first _ valid.running
  have low : first ≤ chronicle.now.settings.revision + 1 := by
    simp only [State.moment] at started
    bv_omega
  obtain ⟨other, given⟩ := valid.unbroken moment member _ low (by bv_omega)
  refine ⟨other, given, fun differs identifies => differs ?_⟩
  have written : (chronicle.step (.write body)).now.settings.moment =
      (chronicle.now.settings.revision + 1, body) := by
    obtain ⟨refused, _⟩ | ⟨_, same, _⟩ | ⟨_, _, changed⟩ :=
      chronicle.now.settings.settingsWrite_cases body
    · exact absurd replaces.1 refused
    · exact absurd same replaces.2
    · exact congrArg (fun written => (written.2 : State).moment) changed
  have agree := identifies _ (List.mem_cons_of_mem _ given)
    (chronicle.step (.write body)).now.settings.moment List.mem_cons_self (by rw [written])
  rw [written] at agree
  exact agree

/-! ## The runs -/

/-- The factory settings at a brightness. -/
def atBrightness (level : Word) : SmlSettingsBody := { settingsDefaults with brightness := level }

/-- A clock started with nothing stored. -/
def blankStart : Chronicle where
  now := { settings := settingsInit none, record := none }
  moments := [(settingsInit none).moment]

theorem blankStart_start : chronicles.start blankStart := ⟨rfl, rfl⟩

theorem revision_identifies_body_saved :
    ∃ chronicle, chronicles.Reachable Chronicle.Counts chronicle ∧
      Identifies chronicle.moments ∧ chronicle.now.settings.revision = 1 := by
  have changes : blankStart.Counts (.write (atBrightness 1000)) := by
    intro body written _
    refine ⟨?_, by decide⟩
    intro moment member
    rw [List.mem_singleton.mp member]
    exact BitVec.le_refl _
  have reached := (Machine.Reachable.start blankStart_start).step _ changes
  exact ⟨_, reached, (revision_identifies_body reached).1, by decide⟩

/-- **A revision given out twice.** From a blank store, a change, a reset that loses
it and another change: two bodies have run under revision 1. -/
theorem revision_reused :
    ¬∀ chronicle, chronicles.Reachable (fun _ _ => True) chronicle →
      Identifies chronicle.moments := by
  intro claimed
  have started : chronicles.Reachable (fun _ _ => True) blankStart := .start blankStart_start
  have reached := ((started.step (.write (atBrightness 1000)) trivial).step .restart trivial).step
    (.write (atBrightness 3000)) trivial
  have identifies := claimed _ reached
  have same := identifies (1, atBrightness 3000) (by decide) (1, atBrightness 1000) (by decide) rfl
  exact absurd same (by decide)

end GpsClock.Settings
