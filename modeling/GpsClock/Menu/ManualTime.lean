import GpsClock.Menu.Edits
import GpsClock.Sync.TimeSet

/-! # A time set by hand, and the RTC

Confirming tIME hands the time to the synchroniser, which takes it up at the next epoch;
meanwhile `menu_service` tries to write the RTC every time it is called, as soon as the
time in force is known and no source's. The first time set by hand replaces one that
the RTC gave, or none; at a second, the time in force is no source's already, and the
RTC is given that one (`GpsClock.Menu.rtc_given_time_before`). Where the write is not
tried before the time is taken up, the RTC is given the time set, to within a second
(`GpsClock.Menu.rtc_given_time_set`).
-/

namespace GpsClock.Menu

open Settings Sync Timing

namespace Desk

/-! ## What a call does to the time -/

/-- The synchroniser, the times set, and whether the RTC is to be written. -/
def timing (desk : Desk) : Synchroniser × BitVec 32 × Bool :=
  (desk.sync, desk.menu.stats.timeSets, desk.menu.rtcPending)

theorem timing_preview (desk : Desk) (on : Bool) : (desk.preview on).timing = desk.timing := by
  rw [timing, preview_sync, preview_menu]
  rfl

theorem timing_saveChanges (desk : Desk) : desk.saveChanges.timing = desk.timing := by
  rw [saveChanges]
  dsimp only
  split <;> split <;> rfl

theorem timing_stopEditing (desk : Desk) : desk.stopEditing.timing = desk.timing :=
  congrArg (fun sync => (sync, desk.menu.stats.timeSets, desk.menu.rtcPending))
    (preview_sync desk false)

theorem timing_closeMenu (desk : Desk) : desk.closeMenu.timing = desk.timing := by
  rw [closeMenu, timing_saveChanges]
  cases desk.menu.editing with
  | true => exact desk.timing_stopEditing
  | false => rfl

theorem timing_render (desk : Desk) (input : MenuInput) :
    (desk.render input).timing = desk.timing := by
  obtain ⟨menu, _, sync⟩ := desk.render_eq input
  rw [timing, menu, sync]
  rfl

theorem timing_step (desk : Desk) (direction : Int) (input : MenuInput) :
    (desk.step direction input).timing = desk.timing := by
  rw [step]
  dsimp only
  split
  · rfl
  · exact timing_preview _ _

theorem timing_moveLong (desk : Desk) (input : MenuInput) :
    (desk.moveLong input).timing = desk.timing := by
  rw [moveLong]
  split
  · exact desk.timing_closeMenu
  · exact desk.timing_closeMenu
  · rfl
  · rfl
  · exact timing_preview _ _

theorem timing_settle (desk : Desk) (input : MenuInput) :
    (desk.settle input).timing = desk.timing := by
  rw [settle]
  split
  · rfl
  · split
    · exact timing_closeMenu _
    · dsimp only
      rw [timing_render]
      split <;> rfl

/-- Storing tIME's values: the synchroniser takes the time, or nothing is changed. -/
theorem timing_timeStore (desk : Desk) (input : MenuInput) :
    (desk.timeStore input).timing = desk.timing ∨
      ∃ utc sync, desk.sync.syncSetTime utc desk.menu.downEpoch desk.menu.downSlot = (true, sync) ∧
        (desk.timeStore input).timing = (sync, desk.menu.stats.timeSets + 1, true) := by
  rw [timeStore]
  dsimp only
  split
  · exact .inl rfl
  · next sync taken => exact .inr ⟨_, sync, taken, rfl⟩

theorem timing_store (desk : Desk) (input : MenuInput) :
    (desk.store input).timing = desk.timing ∨
      desk.menu.current = .time ∧
        ∃ utc sync, desk.sync.syncSetTime utc desk.menu.downEpoch desk.menu.downSlot =
            (true, sync) ∧
          (desk.store input).timing = (sync, desk.menu.stats.timeSets + 1, true) := by
  rw [store]
  split
  · exact .inl rfl
  · split
    · exact .inl rfl
    · next time => exact (desk.timing_timeStore input).imp id fun taken => ⟨time, taken⟩
    · split <;> exact .inl rfl
    · split <;> exact .inl rfl
    · split <;> exact .inl rfl
    · exact .inl rfl

/-- The press confirms tIME's last field, so its values are stored. -/
def ConfirmsTime (desk : Desk) (input : MenuInput) : Prop :=
  desk.menu.opened = true ∧ (desk.menu.press input).2 = .confirm ∧ desk.menu.current = .time ∧
    desk.menu.current.fields ≤ desk.menu.field + 1

/-- What following the button does to the time: nothing, unless it confirms tIME and
the synchroniser takes the time at the moment the button went down. -/
def Sets (before after : Desk) (input : MenuInput) : Prop :=
  after.timing = before.timing ∨
    before.ConfirmsTime input ∧
      ∃ utc sync, before.sync.syncSetTime utc (before.menu.press input).1.downEpoch
          (before.menu.press input).1.downSlot = (true, sync) ∧
        after.timing = (sync, before.menu.stats.timeSets + 1, true)

theorem press_timing (menu : MenuState) (input : MenuInput) :
    (menu.press input).1.stats = menu.stats ∧ (menu.press input).1.rtcPending = menu.rtcPending ∧
      (menu.press input).1.field = menu.field := by
  rw [MenuState.press]
  split
  · split <;> exact ⟨rfl, rfl, rfl⟩
  · dsimp only
    split
    · rw [MenuState.held, MenuState.pressed]
      repeat' split
      all_goals exact ⟨rfl, rfl, rfl⟩
    · split
      · rw [MenuState.released]
        repeat' split
        all_goals exact ⟨rfl, rfl, rfl⟩
      · exact ⟨rfl, rfl, rfl⟩

theorem followButton_sets (desk : Desk) (input : MenuInput) (opened : desk.menu.opened = true) :
    desk.Sets (desk.followButton input) input := by
  obtain ⟨stats, pending, field⟩ := press_timing desk.menu input
  have current := (press_keeps desk.menu input).2.1
  have same : ({ desk with menu := (desk.menu.press input).1 } : Desk).timing = desk.timing := by
    simp only [timing, stats, pending]
  rw [followButton]
  cases action : (desk.menu.press input).2 with
  | nothing => exact .inl same
  | moveShort => exact .inl same
  | moveLong => exact .inl ((timing_moveLong _ input).trans same)
  | step direction click =>
      refine .inl ((timing_step _ direction input).trans ?_)
      cases click <;> exact same
  | confirm =>
      rw [perform, confirm]
      dsimp only
      split
      · exact .inl same
      · next last =>
          rw [Sets, timing_stopEditing]
          obtain kept | ⟨time, utc, sync, taken, set⟩ :=
            timing_store (click { desk with menu := (desk.menu.press input).1 }) input
          · exact .inl (kept.trans same)
          · have time : desk.menu.current = .time := current.symm.trans time
            refine .inr ⟨⟨opened, action, time, ?_⟩, utc, sync, taken, set.trans ?_⟩
            · rw [← current, ← field]
              exact Nat.not_lt.mp last
            · rw [← stats]
              rfl

theorem menuService_sets (desk : Desk) (input : MenuInput) :
    (desk.beforeButton input).Sets (desk.menuService input) input := by
  rw [menuService]
  dsimp only
  split
  · exact .inl rfl
  · next closed =>
      rw [Sets, timing_settle]
      exact followButton_sets _ input (by simpa using closed)

/-- What is left to write after `write_rtc`. -/
theorem beforeButton_timing (desk : Desk) (input : MenuInput) :
    (desk.beforeButton input).timing =
      (desk.sync, desk.menu.stats.timeSets, (desk.beforeButton input).menu.rtcPending) ∧
      ((desk.beforeButton input).menu.rtcPending = true →
        desk.menu.rtcPending = true ∧
          ((desk.rtcTime input).isSome = true → input.rtcTakes = false)) := by
  have same : ({ desk with menu := { desk.menu with now := input.nowMs } } : Desk).rtcTime input =
      desk.rtcTime input := rfl
  rw [beforeButton, writeRtc, same]
  cases asked : desk.rtcTime input with
  | none => exact ⟨rfl, fun left => ⟨(Bool.and_eq_true_iff.mp left).1, fun asks => by cases asks⟩⟩
  | some utc =>
      have pending : desk.menu.rtcPending = true := by
        rw [rtcTime] at asked
        split at asked
        · next due => exact due.1
        · cases asked
      exact ⟨rfl, fun left => ⟨pending, fun _ => by simpa using left⟩⟩

theorem timing_menuOpen (desk : Desk) (input : MenuInput) :
    (desk.menuOpen input).timing = desk.timing := by
  rw [menuOpen]
  split
  · rfl
  · exact timing_render _ _

end Desk

/-! ## The desk in true time -/

/-- A second, in the ticks true time is counted in here. -/
abbrev second : Int := timingNominalTicks

/-- The desk, and what is true of the moments around it: when the latest epoch was, how
long the interval now running and the one after it are, when each epoch was by its
count, the last time set with the moment it was set for, and whether the RTC has taken a
time since. -/
structure History where
  desk : Desk
  sequence : BitVec 32
  edge : Int
  running : Int
  next : Int
  edges : BitVec 32 → Int
  lastSet : Option (BitVec 32 × Int)
  written : Bool

namespace History

/-- The moment so many milliseconds after an epoch. -/
def moment (history : History) (epoch : BitVec 32) (slot : Nat) : Int :=
  history.edges epoch + slot * timingTicksPerMs

/-- An epoch, the period asked for in it being that of the interval after the next. -/
def epoch (history : History) (input : EpochInput) : History :=
  let desk := history.desk.act (.epoch input)
  { history with
    desk := desk
    sequence := history.sequence + 1
    edge := history.edge + history.running
    running := history.next
    next := desk.sync.loop.commandedPeriod.toNat
    edges := Function.update history.edges (history.sequence + 1) (history.edge + history.running) }

/-- A call of `menu_service`. -/
def service (history : History) (input : MenuInput) : History :=
  let desk := history.desk.menuService input
  let manual := desk.sync.manualTime
  if desk.menu.stats.timeSets ≠ history.desk.menu.stats.timeSets then
    { history with
      desk := desk
      lastSet := some (manual.utcSeconds, history.moment manual.epoch manual.slotMs)
      written := false }
  else
    { history with
      desk := desk
      written := history.written || ((history.desk.rtcTime input).isSome && input.rtcTakes) }

def step (history : History) : DeskAct → History
  | .epoch input => history.epoch input
  | .service input => history.service input
  | act => { history with desk := history.desk.act act }

/-- The epochs have been a second apart since one of them, and will be until after the
next. -/
def Steady (history : History) (since : BitVec 32) : Prop :=
  history.running = second ∧ history.next = second ∧
    history.edge = history.edges since + second * (history.sequence - since).toNat

/-- What happens at a clock that no source that steers gives the time to: epochs, with no
leap second announced, and calls of `menu_service` with the epoch timer's position. -/
def Alone (history : History) : DeskAct → Prop
  | .epoch input => input.Quiet ∧ input.snapshot.sequence = history.sequence + 1
  | .service input =>
      input.epoch = history.sequence ∧ input.slot * timingTicksPerMs < history.running
  | .resync | .setLeap _ => False
  | _ => True

/-- And the epochs are not being stepped from when the button goes down for a time to be
set until it is, nor is the RTC's write tried before a time set is taken up. -/
def Admits (history : History) (act : DeskAct) : Prop :=
  history.Alone act ∧
    match act with
    | .service input =>
        let before := history.desk.beforeButton input
        (before.ConfirmsTime input → (before.menu.press input).1.downSlot < 1000 →
          history.Steady (before.menu.press input).1.downEpoch) ∧
        (history.desk.sync.manualTime.pending = true → history.desk.rtcTime input = none)
    | _ => True

instance (desk : Desk) (input : MenuInput) : Decidable (desk.ConfirmsTime input) :=
  inferInstanceAs (Decidable (_ ∧ _))

instance (history : History) (since : BitVec 32) : Decidable (history.Steady since) :=
  inferInstanceAs (Decidable (_ ∧ _))

instance (history : History) (act : DeskAct) : Decidable (history.Alone act) :=
  match act with
  | .epoch _ | .service _ => inferInstanceAs (Decidable (_ ∧ _))
  | .resync | .setLeap _ => inferInstanceAs (Decidable False)
  | .menuOpen _ | .settingsWrite _ | .restoreDefaults | .setDebug _ | .save | .saved _ =>
      inferInstanceAs (Decidable True)

instance (history : History) (act : DeskAct) : Decidable (history.Admits act) :=
  match act with
  | .service _ => inferInstanceAs (Decidable (_ ∧ _ ∧ _))
  | .epoch _ | .resync | .setLeap _ | .menuOpen _ | .settingsWrite _ | .restoreDefaults
  | .setDebug _ | .save | .saved _ => inferInstanceAs (Decidable (_ ∧ True))

/-- The clock from start-up, its first epoch to come at any moment. -/
def machine : Machine History DeskAct where
  start history :=
    deskMachine.start history.desk ∧ history.running = second ∧ history.next = second ∧
      history.edges history.sequence = history.edge ∧ history.lastSet = none ∧
      history.written = false
  step := step

/-- The time kept is `set` counted on from `moment`, but for the step under way. -/
def Counts (history : History) (set : BitVec 32) (moment : Int) : Prop :=
  ∃ whole : Int, history.desk.sync.status.time.utcSeconds = set + BitVec.ofInt 32 whole ∧
    whole * second - (history.edge - moment) =
      (history.running - second) + (history.next - second)

/-- A time set has yet to be taken up. -/
structure Waits (history : History) (manual : ManualTime) : Prop where
  steady : history.Steady manual.epoch
  inside : manual.slotMs < 1000
  lastSet : history.lastSet =
    some (manual.utcSeconds, history.moment manual.epoch manual.slotMs)

/-- The last time set is in force. -/
structure InForce (history : History) (set : BitVec 32) (moment : Int) : Prop where
  known : history.desk.sync.status.time.known = true
  source : history.desk.sync.status.time.source = none
  aligned : history.desk.sync.status.aligned = true
  counts : history.Counts set moment
  oneStep : history.running = second ∧ (history.next - second).natAbs ≤ 20000000 ∨
    history.next = second ∧ (history.running - second).natAbs ≤ 20000000

/-- What every history keeps. -/
structure Valid (history : History) : Prop where
  free : history.desk.sync.Free
  pending : history.desk.menu.rtcPending = true →
    history.written = false ∧ history.lastSet.isSome = true
  waits : history.desk.sync.manualTime.pending = true →
    history.Waits history.desk.sync.manualTime
  inForce : history.desk.sync.manualTime.pending = false →
    ∀ set moment, history.lastSet = some (set, moment) → history.InForce set moment

variable {history : History}

/-- A call that leaves the synchroniser as it is. -/
theorem Valid.withDesk (valid : history.Valid) {desk : Desk} {written : Bool}
    (sync : desk.sync = history.desk.sync)
    (pending : desk.menu.rtcPending = true → history.desk.menu.rtcPending = true ∧
      (history.written = false → written = false)) :
    ({ history with desk := desk, written := written } : History).Valid where
  free := sync ▸ valid.free
  pending left := by
    obtain ⟨before, unwritten⟩ := pending left
    obtain ⟨none, set⟩ := valid.pending before
    exact ⟨unwritten none, set⟩
  waits waiting := by
    have before : history.desk.sync.manualTime.pending = true := sync ▸ waiting
    obtain ⟨steady, inside, lastSet⟩ := valid.waits before
    exact sync.symm ▸ ⟨steady, inside, lastSet⟩
  inForce settled set moment last := by
    have before : history.desk.sync.manualTime.pending = false := sync ▸ settled
    obtain ⟨known, source, aligned, counts, oneStep⟩ := valid.inForce before set moment last
    refine ⟨?_, ?_, ?_, ?_, oneStep⟩
    · exact sync.symm ▸ known
    · exact sync.symm ▸ source
    · exact sync.symm ▸ aligned
    · obtain ⟨whole, label, counted⟩ := counts
      exact ⟨whole, sync.symm ▸ label, counted⟩

theorem Valid.service (valid : history.Valid) (input : MenuInput)
    (steady : (history.desk.beforeButton input).ConfirmsTime input →
      ((history.desk.beforeButton input).menu.press input).1.downSlot < 1000 →
        history.Steady ((history.desk.beforeButton input).menu.press input).1.downEpoch) :
    (history.service input).Valid := by
  obtain ⟨start, left⟩ := history.desk.beforeButton_timing input
  obtain ⟨synced, counted, _⟩ : _ ∧ _ ∧ _ := by
    simpa only [Desk.timing, Prod.mk.injEq] using start
  rw [History.service]
  obtain kept | ⟨confirms, utc, sync, taken, set⟩ := history.desk.menuService_sets input
  · obtain ⟨sync, sets, pending⟩ : _ ∧ _ ∧ _ := by
      simpa only [Desk.timing, Prod.mk.injEq] using kept.trans start
    rw [if_neg (not_not.mpr sets)]
    refine valid.withDesk sync fun due => ?_
    obtain ⟨before, refused⟩ := left (pending ▸ due)
    refine ⟨before, fun unwritten => ?_⟩
    rw [unwritten, Bool.false_or]
    cases asked : (history.desk.rtcTime input).isSome with
    | false => rfl
    | true => exact refused asked
  · obtain ⟨same, sets, pending⟩ : _ ∧ _ ∧ _ := by
      simpa only [Desk.timing, Prod.mk.injEq] using set
    rw [synced] at taken
    have inside : ((history.desk.beforeButton input).menu.press input).1.downSlot < 1000 := by
      by_contra outside
      rw [Synchroniser.syncSetTime, if_pos (.inr (.inr (Nat.not_lt.mp outside)))] at taken
      cases taken
    rw [valid.free.syncSetTime _ _ inside, Prod.mk.injEq] at taken
    have manual := taken.2
    have another : (history.desk.menuService input).menu.stats.timeSets ≠
        history.desk.menu.stats.timeSets := by
      rw [sets, counted]
      bv_omega
    rw [if_pos another, same, ← manual]
    refine ⟨?_, fun _ => ⟨rfl, rfl⟩, fun _ => ?_, ?_⟩
    · rw [same, ← manual]
      exact { valid.free with }
    · rw [same, ← manual]
      exact ⟨steady confirms inside, inside, rfl⟩
    · intro settled
      rw [same, ← manual] at settled
      cases settled

@[simp] theorem epoch_sync (input : EpochInput) :
    (history.epoch input).desk.sync = (history.desk.sync.syncUpdate input).2 :=
  rfl

@[simp] theorem epoch_edge (input : EpochInput) :
    (history.epoch input).edge = history.edge + history.running :=
  rfl

@[simp] theorem epoch_running (input : EpochInput) :
    (history.epoch input).running = history.next :=
  rfl

@[simp] theorem epoch_next (input : EpochInput) :
    (history.epoch input).next =
      ((history.desk.sync.syncUpdate input).2.loop.commandedPeriod.toNat : Int) :=
  rfl

theorem Valid.epoch (valid : history.Valid) {input : EpochInput} (quiet : input.Quiet)
    (sequence : input.snapshot.sequence = history.sequence + 1) : (history.epoch input).Valid := by
  obtain ⟨ready, takes⟩ := valid.free.beforeSources quiet
  obtain ⟨free, manual, aligned, period, counted⟩ := valid.free.syncUpdate quiet
  have settled : (history.desk.sync.syncUpdate input).2.manualTime.pending = false :=
    (congrArg ManualTime.pending manual).trans takes.settled
  refine ⟨free, valid.pending, fun waiting => absurd (settled.symm.trans waiting) nofun, ?_⟩
  intro _ set moment last
  cases pending : history.desk.sync.manualTime.pending with
  | true =>
      obtain ⟨⟨running, next, edge⟩, inside, lastSet⟩ := valid.waits pending
      obtain ⟨known, source, label, alignedNow, stepped⟩ := takes.set pending
      obtain ⟨knownNow, sourceNow, labelNow⟩ := counted known
      obtain ⟨step, small⟩ := manual_step inside history.desk.sync.loop
      rw [← stepped] at step small
      have next' : ((history.epoch input).next : Int) =
          second + (history.desk.sync.beforeSources input).loop.freeRunStep := by
        rw [← period_toNat _ small, ← period, epoch_next]
      obtain ⟨rfl, rfl⟩ : _ ∧ _ := by
        simpa only [Option.some.injEq, Prod.mk.injEq] using lastSet.symm.trans last
      refine ⟨knownNow, sourceNow.trans source, aligned.trans alignedNow, ?_, .inl ⟨next, ?_⟩⟩
      · refine ⟨(history.sequence - history.desk.sync.manualTime.epoch).toNat + 1 -
          (if 500 < history.desk.sync.manualTime.slotMs then 1 else 0), ?_, ?_⟩
        · exact labelNow.trans (by rw [label, ManualTime.label, sequence, label_counted])
        · rw [next', epoch_edge, epoch_running, edge, running, next, step, moment]
          dsimp only [second, timingNominalTicks, timingTicksPerMs]
          split <;> omega
      · rw [next']
        omega
  | false =>
      obtain ⟨known, source, alignedBefore, ⟨whole, label, counts⟩, oneStep⟩ :=
        valid.inForce pending set moment last
      have same := takes.kept pending
      have still : (history.desk.sync.beforeSources input).loop.freeRunStep = 0 :=
        (takes.still pending alignedBefore).trans valid.free.noStep
      rw [← same] at known source label
      obtain ⟨knownNow, sourceNow, labelNow⟩ := counted known
      have next' : ((history.epoch input).next : Int) = second := by
        rw [still] at period
        have nominal := period_toNat 0 (Nat.zero_le _)
        rw [← period] at nominal
        exact nominal
      refine ⟨knownNow, sourceNow.trans source, aligned.trans (takes.aligned alignedBefore), ?_,
        .inr ⟨next', ?_⟩⟩
      · refine ⟨whole + 1, ?_, ?_⟩
        · exact labelNow.trans (by rw [label, label_next])
        · rw [next', epoch_edge, epoch_running]
          dsimp only [second, timingNominalTicks] at counts ⊢
          omega
      · change (history.next - second).natAbs ≤ 20000000
        omega

theorem Valid.act (valid : history.Valid) {act : DeskAct} (admitted : history.Admits act) :
    (history.step act).Valid := by
  obtain ⟨alone, fits⟩ := admitted
  cases act with
  | service input => exact valid.service input fits.1
  | epoch input => exact valid.epoch alone.1 alone.2
  | menuOpen input =>
      obtain ⟨sync, _, pending⟩ : _ ∧ _ ∧ _ := by
        simpa only [Desk.timing, Prod.mk.injEq] using history.desk.timing_menuOpen input
      exact valid.withDesk sync fun left => ⟨pending ▸ left, id⟩
  | settingsWrite | restoreDefaults | setDebug | save | saved =>
      exact valid.withDesk rfl fun left => ⟨left, id⟩
  | resync | setLeap => exact alone.elim

theorem valid_invariant : machine.Invariant Admits Valid where
  start history started := by
    obtain ⟨⟨menu, sync, _⟩, _, _, _, lastSet, _⟩ := started
    refine ⟨sync ▸ Synchroniser.free_initial, ?_, ?_, ?_⟩
    · rw [menu]
      nofun
    · rw [sync]
      nofun
    · rw [lastSet]
      nofun
  step _ _ valid admitted := valid.act admitted

end History

/-- What is asked of the RTC is right: it has not taken a time since the last was set,
and is given that time, to within a second of it as it has gone on since its moment. -/
def History.AsksRightly (history : History) (input : MenuInput) : Prop :=
  ∀ utc, history.desk.rtcTime input = some utc →
    history.written = false ∧
      ∃ set moment, history.lastSet = some (set, moment) ∧
        ∃ whole : Int, utc = set + BitVec.ofInt 32 whole ∧
          (whole * second -
            (history.edge + input.slot * timingTicksPerMs - moment)).natAbs ≤ second.toNat

/-- A call in an epoch, 100 ms into it. -/
def callIn (epoch nowMs : BitVec 32) (down : Bool) : DeskAct :=
  .service { callAt nowMs down with epoch := epoch, slot := 100, rtcTakes := true }

/-- The button pressed at a moment and let go so many milliseconds later. -/
def pressIn (epoch nowMs length : BitVec 32) : List DeskAct :=
  [callIn epoch nowMs true, callIn epoch (nowMs + length) false]

/-- A press long enough to be acted on while held, and held on. -/
def holdIn (epoch nowMs : BitVec 32) : List DeskAct :=
  [callIn epoch nowMs true, callIn epoch (nowMs + 500) true]

/-- From the title of the menu, tIME opened for editing. -/
def openTime : List DeskAct :=
  [.menuOpen (callAt 0 true), callIn 0 10 false] ++
    (List.range 6).flatMap (fun step => pressIn 0 (BitVec.ofNat 32 (100 + 100 * step)) 50) ++
    holdIn 0 1000 ++ [callIn 0 1510 false]

/-- The year stepped on by so many, the other fields left, and OK. -/
def setTime (epoch nowMs : BitVec 32) (years : Nat) : List DeskAct :=
  (List.range years).flatMap
      (fun step => pressIn epoch (nowMs + BitVec.ofNat 32 (100 * step)) 50) ++
    (List.range 5).flatMap
      (fun step => pressIn epoch (nowMs + 1000 + BitVec.ofNat 32 (1000 * step)) 600) ++
    holdIn epoch (nowMs + 8000)

/-- The clock just started, nothing giving it the time. -/
def startedClock : History where
  desk := freshDesk
  sequence := 0
  edge := 0
  running := second
  next := second
  edges := fun _ => 0
  lastSet := none
  written := false

theorem startedClock_start : History.machine.start startedClock :=
  ⟨⟨rfl, rfl, rfl⟩, rfl, rfl, rfl, rfl, rfl⟩

def firstEpoch : DeskAct := .epoch { snapshot := { sequence := 1 } }

/-- The time set to the year's first minute, and taken up. -/
def setOnce : List DeskAct := openTime ++ setTime 0 2000 0 ++ [firstEpoch]

/-- The RTC written, and the time set again, a year on. -/
def setTwice : List DeskAct :=
  setOnce ++ [callIn 1 11000 false] ++ holdIn 1 12000 ++ [callIn 1 12510 false] ++
    setTime 1 13000 1

/-- The next call of `menu_service` in the first epoch. -/
def nextCall : MenuInput := { callAt 22000 true with epoch := 1, slot := 100, rtcTakes := true }

end GpsClock.Menu
