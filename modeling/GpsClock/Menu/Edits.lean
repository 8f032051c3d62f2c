import GpsClock.Menu.Menu

/-! # What the menu's writes leave alone

An edit works on a copy of the settings taken as it begins, and a confirmed value
writes that copy whole. So everything the item does not edit goes back to what it was
when the edit began, whatever the ESP has written since (`GpsClock.Menu.write_lost`).
Where nothing else is changed during edits but what the item itself edits, each
confirmed value leaves everything else as it is
(`GpsClock.Menu.menu_leaves_others`).
-/

namespace GpsClock.Menu

open Settings TimeZone

/-- The settings without what an item edits. -/
def MenuItem.others (item : MenuItem) (body : SmlSettingsBody) : SmlSettingsBody :=
  match item with
  | .tzAuto => setFlag body smlSettingTzAuto false
  | .tzOffset => { body with baseOffsetS := 0 }
  | .dstAuto => setFlag body smlSettingDstAuto false
  | .dstActive => setFlag body smlSettingDstActive false
  | .dstOffset => { body with dstOffsetS := 0 }
  | .alarmOn => setFlag body smlSettingAlarmEnabled false
  | .alarmTime => { body with alarmOffsetS := 0 }
  | .beep => setFlag body smlSettingBeepEnabled false
  | .hours => setFlag body smlSettingFormat12h false
  | .mode => { body with selectedDisplay := 0 }
  | .brightness => { setFlag body smlSettingBriAuto false with brightness := 0 }
  | _ => body

/-- An item of rSt. -/
def MenuItem.resets (item : MenuItem) : Prop := item ∈ MenuSection.reset.items

instance (item : MenuItem) : Decidable item.resets := inferInstanceAs (Decidable (_ ∈ _))

/-- The settings in force. -/
def Desk.body (desk : Desk) : SmlSettingsBody := desk.settings.running.body

/-- A setting changed from elsewhere during an edit is one the item edits. -/
def Desk.Undisturbed (desk : Desk) : DeskAct → Prop
  | .settingsWrite body =>
      desk.menu.editing = true → settingsCheck body = .none →
        desk.menu.current.others body = desk.menu.current.others desk.body
  | .restoreDefaults =>
      desk.menu.editing = true →
        desk.menu.current.others settingsDefaults = desk.menu.current.others desk.body
  | _ => True

theorem setFlag_setFlag (body : SmlSettingsBody) (bit : Word) (on : Bool) :
    setFlag (setFlag body bit on) bit false = setFlag body bit false := by
  have cleared : (if on then body.flags ||| bit else body.flags &&& ~~~bit) &&& ~~~bit =
      body.flags &&& ~~~bit := by
    have bits (x y : Bool) : ((x || y) && !y) = (x && !y) := by
      cases x <;> cases y <;> rfl
    ext index inside
    cases on <;> simp [bits]
  simp only [setFlag, Bool.false_eq_true, if_false, cleared]

/-- A store makes a body that differs in nothing but what its item edits. -/
theorem MenuItem.others_edit {item : MenuItem} {values : Fields} {work body : SmlSettingsBody}
    (edited : item.edit values work = some body) : item.others body = item.others work := by
  cases item with
  | tzAuto | dstAuto | dstActive | alarmOn | beep | hours =>
      cases edited
      exact setFlag_setFlag _ _ _
  | tzOffset | dstOffset | alarmTime | mode =>
      cases edited
      rfl
  | brightness =>
      cases edited
      have cleared := setFlag_setFlag work smlSettingBriAuto (values.at 0 == 0)
      simp only [others, brightnessStore]
      split
      · exact congrArg (fun body : SmlSettingsBody => { body with brightness := 0 }) cleared
      · rw [cleared]
  | title | opens | remote | time | resetWifi | resetSettings | resetAll | back | exit =>
      cases edited

namespace Desk

/-! ## What leaves the settings and the edit as they are -/

theorem preview_eq (desk : Desk) (on : Bool) :
    (desk.preview on).menu = desk.menu ∧ (desk.preview on).settings = desk.settings ∧
      (desk.preview on).sync = desk.sync := by
  rw [preview]
  split
  · exact ⟨rfl, rfl, rfl⟩
  · split <;> exact ⟨rfl, rfl, rfl⟩

@[simp] theorem preview_menu (desk : Desk) (on : Bool) : (desk.preview on).menu = desk.menu :=
  (desk.preview_eq on).1

@[simp] theorem preview_settings (desk : Desk) (on : Bool) :
    (desk.preview on).settings = desk.settings :=
  (desk.preview_eq on).2.1

@[simp] theorem preview_sync (desk : Desk) (on : Bool) : (desk.preview on).sync = desk.sync :=
  (desk.preview_eq on).2.2

theorem render_eq (desk : Desk) (input : MenuInput) :
    (desk.render input).menu = desk.menu ∧ (desk.render input).settings = desk.settings ∧
      (desk.render input).sync = desk.sync := by
  rw [render]
  dsimp only
  split <;> exact ⟨rfl, rfl, rfl⟩

theorem saveChanges_body (desk : Desk) : desk.saveChanges.body = desk.body := by
  rw [saveChanges]
  dsimp only
  split <;> split <;> rfl

theorem saveChanges_editing (desk : Desk) :
    desk.saveChanges.menu.editing = desk.menu.editing := by
  rw [saveChanges]
  dsimp only
  split <;> split <;> rfl

theorem stopEditing_body (desk : Desk) : desk.stopEditing.body = desk.body :=
  congrArg (·.running.body) (preview_settings desk false)

theorem closeMenu_body (desk : Desk) : desk.closeMenu.body = desk.body := by
  rw [closeMenu]
  dsimp only
  rw [saveChanges_body]
  split
  · exact desk.stopEditing_body
  · rfl

theorem closeMenu_editing (desk : Desk) : desk.closeMenu.menu.editing = false := by
  rw [closeMenu]
  dsimp only
  rw [saveChanges_editing]
  cases editing : desk.menu.editing with
  | true => rfl
  | false => exact editing

theorem beforeButton_eq (desk : Desk) (input : MenuInput) :
    (desk.beforeButton input).settings = desk.settings ∧
      (desk.beforeButton input).sync = desk.sync ∧
      ∃ pending, (desk.beforeButton input).menu =
        { desk.menu with now := input.nowMs, rtcPending := pending } := by
  rw [beforeButton, writeRtc]
  split <;> exact ⟨rfl, rfl, _, rfl⟩

/-! ## What a press does -/

/-- The button is followed without touching the edit. -/
theorem press_keeps (menu : MenuState) (input : MenuInput) :
    (menu.press input).1.editing = menu.editing ∧ (menu.press input).1.current = menu.current ∧
      (menu.press input).1.work = menu.work := by
  rw [MenuState.press]
  split
  · split <;> exact ⟨rfl, rfl, rfl⟩
  · dsimp only
    split
    · have start : (menu.pressed input).editing = menu.editing ∧
          (menu.pressed input).current = menu.current ∧
          (menu.pressed input).work = menu.work := by
        rw [MenuState.pressed]
        split <;> exact ⟨rfl, rfl, rfl⟩
      rw [MenuState.held]
      repeat' split
      all_goals exact start
    · split
      · rw [MenuState.released]
        repeat' split
        all_goals exact ⟨rfl, rfl, rfl⟩
      · exact ⟨rfl, rfl, rfl⟩

/-- An edit goes on as it was. -/
structure Kept (before after : Desk) : Prop where
  body : after.body = before.body
  editing : before.menu.editing = true
  current : after.menu.current = before.menu.current
  work : after.menu.work = before.menu.work

/-- What a call does to the edit: it goes on, or there is none, or one has just begun. -/
def Follows (before after : Desk) : Prop :=
  after.menu.editing = true → Kept before after ∨ after.menu.work = after.body

/-- What a call makes of the settings: nothing, or what an edited item that does not
reset them makes of the menu's copy. -/
def Writes (before after : Desk) : Prop :=
  before.menu.current.resets ∨ after.body = before.body ∨
    before.menu.editing = true ∧
      before.menu.current.others after.body = before.menu.current.others before.menu.work

theorem Follows.not {before after : Desk} (stopped : after.menu.editing = false) :
    Follows before after :=
  fun editing => absurd editing (by rw [stopped]; exact Bool.false_ne_true)

theorem store_body (desk : Desk) (input : MenuInput) :
    desk.menu.current.resets ∨ (desk.store input).body = desk.body ∨
      desk.menu.current.others (desk.store input).body =
        desk.menu.current.others desk.menu.work := by
  rw [store]
  split
  · next body edited =>
      obtain ⟨_, same⟩ | ⟨_, _, same⟩ | ⟨_, _, changed⟩ := desk.settings.settingsWrite_cases body
      · refine .inr (.inl ?_)
        rw [writeSettings, same]
        rfl
      · refine .inr (.inl ?_)
        rw [writeSettings, same]
        rfl
      · refine .inr (.inr ?_)
        rw [writeSettings, changed]
        exact MenuItem.others_edit edited
  · split
    · exact .inr (.inl rfl)
    · refine .inr (.inl ?_)
      rw [timeStore]
      split <;> rfl
    · next reset => exact .inl (by rw [reset]; decide)
    · next reset => exact .inl (by rw [reset]; decide)
    · next reset => exact .inl (by rw [reset]; decide)
    · exact .inr (.inl rfl)

theorem confirm_spec (desk : Desk) (input : MenuInput) (editing : desk.menu.editing = true) :
    Follows desk (desk.confirm input) ∧ Writes desk (desk.confirm input) := by
  rw [confirm]
  dsimp only
  split
  · exact ⟨fun _ => .inl ⟨rfl, editing, rfl, rfl⟩, .inr (.inl rfl)⟩
  · refine ⟨.not rfl, ?_⟩
    rw [Writes, stopEditing_body]
    obtain resets | same | edited := desk.store_body input
    · exact .inl resets
    · exact .inr (.inl same)
    · exact .inr (.inr ⟨editing, edited⟩)

theorem step_spec (desk : Desk) (direction : Int) (input : MenuInput) :
    Follows desk (desk.step direction input) ∧ (desk.step direction input).body = desk.body := by
  rw [step]
  dsimp only
  split
  · exact ⟨fun editing => .inl ⟨rfl, editing, rfl, rfl⟩, rfl⟩
  · refine ⟨fun editing => .inl ?_, ?_⟩
    · rw [preview_menu] at editing
      exact ⟨by rw [body, preview_settings]; rfl, editing, by rw [preview_menu]; rfl,
        by rw [preview_menu]⟩
    · rw [body, preview_settings]
      rfl

theorem moveLong_spec (desk : Desk) (input : MenuInput) (moving : desk.menu.editing = false) :
    Follows desk (desk.moveLong input) ∧ (desk.moveLong input).body = desk.body := by
  have starts : Follows desk (desk.startEditing input) ∧
      (desk.startEditing input).body = desk.body := by
    have same : (desk.startEditing input).body = desk.body := by
      rw [startEditing, body, preview_settings]
      rfl
    refine ⟨fun _ => .inr ?_, same⟩
    rw [same, startEditing, preview_menu]
    rfl
  rw [moveLong]
  split
  · exact ⟨.not desk.closeMenu_editing, desk.closeMenu_body⟩
  · exact ⟨.not desk.closeMenu_editing, desk.closeMenu_body⟩
  · exact ⟨.not moving, rfl⟩
  · exact ⟨.not moving, rfl⟩
  · exact starts

/-- A press is told to confirm or to step only while something is edited, and to move
only while nothing is. -/
theorem press_action (menu : MenuState) (input : MenuInput) :
    ((menu.press input).2 = .confirm → menu.editing = true) ∧
      ((menu.press input).2 = .moveLong → menu.editing = false) ∧
      ((menu.press input).2 = .moveShort → menu.editing = false) := by
  rw [MenuState.press]
  split
  · exact ⟨nofun, nofun, nofun⟩
  · dsimp only
    split
    · have start : (menu.pressed input).editing = menu.editing := by
        rw [MenuState.pressed]
        split <;> rfl
      rw [MenuState.held, start]
      cases editing : menu.editing with
      | false =>
          simp only [Bool.not_false, if_true]
          split
          · exact ⟨nofun, fun _ => trivial, nofun⟩
          · exact ⟨nofun, nofun, nofun⟩
      | true =>
          refine ⟨fun _ => rfl, ?_, ?_⟩
          all_goals
            simp only [Bool.not_true, Bool.false_eq_true, if_false]
            repeat' split
            all_goals exact nofun
    · split
      · rw [MenuState.released]
        cases editing : menu.editing with
        | false => exact ⟨nofun, nofun, fun _ => rfl⟩
        | true =>
            refine ⟨fun _ => rfl, ?_, ?_⟩
            all_goals
              simp only [Bool.not_true, Bool.false_eq_true, if_false]
              repeat' split
              all_goals exact nofun
      · exact ⟨nofun, nofun, nofun⟩

theorem perform_spec (desk : Desk) (input : MenuInput) (action : MenuAction)
    (confirms : action = .confirm → desk.menu.editing = true)
    (moves : action = .moveLong → desk.menu.editing = false)
    (movesOn : action = .moveShort → desk.menu.editing = false) :
    Follows desk (desk.perform input action) ∧ Writes desk (desk.perform input action) := by
  cases action with
  | nothing => exact ⟨fun editing => .inl ⟨rfl, editing, rfl, rfl⟩, .inr (.inl rfl)⟩
  | moveShort => exact ⟨.not (movesOn rfl), .inr (.inl rfl)⟩
  | moveLong =>
      obtain ⟨follows, same⟩ := desk.click.moveLong_spec input (moves rfl)
      refine ⟨fun editing => (follows editing).imp (fun kept => ?_) id, .inr (.inl same)⟩
      exact ⟨kept.body, kept.editing, kept.current, kept.work⟩
  | confirm =>
      obtain ⟨follows, writes⟩ := desk.click.confirm_spec input (confirms rfl)
      refine ⟨fun editing => (follows editing).imp (fun kept => ?_) id, writes⟩
      exact ⟨kept.body, kept.editing, kept.current, kept.work⟩
  | step direction click =>
      have clicked : (if click then desk.click else desk).menu = desk.menu ∧
          (if click then desk.click else desk).body = desk.body := by
        cases click <;> exact ⟨rfl, rfl⟩
      obtain ⟨follows, same⟩ := (if click then desk.click else desk).step_spec direction input
      refine ⟨fun editing => (follows editing).imp (fun kept => ?_) id,
        .inr (.inl (same.trans clicked.2))⟩
      obtain ⟨body, before, current, work⟩ := kept
      rw [clicked.1] at before current work
      exact ⟨body.trans clicked.2, before, current, work⟩

theorem followButton_spec (desk : Desk) (input : MenuInput) :
    Follows desk (desk.followButton input) ∧ Writes desk (desk.followButton input) := by
  obtain ⟨editing, current, work⟩ := press_keeps desk.menu input
  obtain ⟨confirms, moves, movesOn⟩ := press_action desk.menu input
  obtain ⟨follows, writes⟩ :=
    perform_spec { desk with menu := (desk.menu.press input).1 } input (desk.menu.press input).2
      (fun confirm => editing.trans (confirms confirm))
      (fun move => editing.trans (moves move)) (fun move => editing.trans (movesOn move))
  refine ⟨fun still => (follows still).imp (fun kept => ?_) id, ?_⟩
  · exact ⟨kept.body, editing ▸ kept.editing, kept.current.trans current, kept.work.trans work⟩
  · simp only [Writes, editing, current, work] at writes
    exact writes

theorem settle_spec (desk : Desk) (input : MenuInput) :
    ((desk.settle input).menu.editing = true → Kept desk (desk.settle input)) ∧
      (desk.settle input).body = desk.body := by
  have not {after : Desk} (stopped : after.menu.editing = false)
      (editing : after.menu.editing = true) : Kept desk after :=
    absurd editing (by rw [stopped]; exact Bool.false_ne_true)
  rw [settle]
  split
  · exact ⟨fun editing => ⟨rfl, editing, rfl, rfl⟩, rfl⟩
  · split
    · exact ⟨not (closeMenu_editing _), closeMenu_body _⟩
    · dsimp only
      split
      · next hidden =>
          have moving : desk.menu.editing = false := by
            cases editing : desk.menu.editing with
            | false => rfl
            | true => simp [editing] at hidden
          refine ⟨not ?_, ?_⟩
          · rw [(render_eq _ input).1]
            exact moving
          · rw [body, (render_eq _ input).2.1]
            rfl
      · obtain ⟨menu, settings, _⟩ := desk.render_eq input
        refine ⟨fun editing => ?_, ?_⟩
        · rw [menu] at editing
          exact ⟨by rw [body, settings]; rfl, editing, by rw [menu], by rw [menu]⟩
        · rw [body, settings]
          rfl

theorem Follows.trans {first second third : Desk} (earlier : Follows first second)
    (later : third.menu.editing = true → Kept second third) : Follows first third := by
  intro editing
  have kept := later editing
  obtain before | fresh := earlier kept.editing
  · exact .inl ⟨kept.body.trans before.body, before.editing, kept.current.trans before.current,
      kept.work.trans before.work⟩
  · exact .inr (kept.work.trans (fresh.trans kept.body.symm))

/-- What `menu_service` does to the edit and to the settings. -/
theorem menuService_spec (desk : Desk) (input : MenuInput) :
    Follows desk (desk.menuService input) ∧ Writes desk (desk.menuService input) := by
  obtain ⟨settings, _, pending, menu⟩ := desk.beforeButton_eq input
  rw [menuService]
  generalize desk.beforeButton input = after at settings menu
  have same : after.body = desk.body := by
    rw [body, settings]
    rfl
  have alike : after.menu.editing = desk.menu.editing ∧ after.menu.current = desk.menu.current ∧
      after.menu.work = desk.menu.work := by
    rw [menu]
    exact ⟨rfl, rfl, rfl⟩
  obtain ⟨editing, current, work⟩ := alike
  dsimp only
  split
  · exact ⟨fun still => .inl ⟨same, editing ▸ still, current, work⟩, .inr (.inl same)⟩
  · obtain ⟨follows, writes⟩ := after.followButton_spec input
    obtain ⟨settles, settled⟩ := (after.followButton input).settle_spec input
    refine ⟨fun still => (follows.trans settles still).imp (fun kept => ?_) id, ?_⟩
    · exact ⟨kept.body.trans same, editing ▸ kept.editing, kept.current.trans current,
        kept.work.trans work⟩
    · simp only [Writes, editing, current, work, same] at writes
      rw [Writes, settled]
      exact writes

/-- During an edit, what the item does not edit is in force as the menu holds it. -/
def Synced (desk : Desk) : Prop :=
  desk.menu.editing = true →
    desk.menu.current.others desk.menu.work = desk.menu.current.others desk.body

theorem Synced.service {desk : Desk} (synced : desk.Synced) (input : MenuInput) :
    (desk.menuService input).Synced := by
  intro editing
  obtain kept | fresh := (desk.menuService_spec input).1 editing
  · rw [kept.current, kept.work, kept.body]
    exact synced kept.editing
  · rw [fresh]

/-- A body written elsewhere, or the one in force if it is refused. -/
theorem Synced.write {desk : Desk} (synced : desk.Synced) (body : SmlSettingsBody)
    (same : desk.menu.editing = true → settingsCheck body = .none →
      desk.menu.current.others body = desk.menu.current.others desk.body) :
    ({ desk with settings := (desk.settings.settingsWrite body).2 } : Desk).Synced := by
  intro editing
  obtain ⟨_, unchanged⟩ | ⟨_, _, unchanged⟩ | ⟨checked, _, changed⟩ :=
    desk.settings.settingsWrite_cases body
  · rw [unchanged]
    exact synced editing
  · rw [unchanged]
    exact synced editing
  · rw [changed]
    exact (synced editing).trans (same editing checked).symm

theorem menuOpen_synced {desk : Desk} (synced : desk.Synced) (input : MenuInput) :
    (desk.menuOpen input).Synced := by
  rw [menuOpen]
  split
  · exact synced
  · intro editing
    rw [(render_eq _ _).1] at editing
    cases editing

theorem deskMachine_synced : deskMachine.Invariant Undisturbed Synced where
  start desk started := by
    intro editing
    rw [started.1] at editing
    cases editing
  step desk act synced undisturbed := by
    cases act with
    | service input => exact synced.service input
    | menuOpen input => exact menuOpen_synced synced input
    | settingsWrite body => exact synced.write body undisturbed
    | restoreDefaults => exact synced.write settingsDefaults fun editing _ => undisturbed editing
    | saved result =>
        intro editing
        have same : (desk.settings.saveSettings result).running = desk.settings.running := by
          rw [Settings.State.saveSettings]
          dsimp only
          repeat' split
          all_goals rfl
        exact (synced editing).trans (congrArg (fun running => desk.menu.current.others running.body)
          same.symm)
    | epoch | setDebug | save | resync | setLeap => exact synced

end Desk

/-- **What a confirmed value leaves alone.** In every run in which nothing is changed
from elsewhere during an edit but what the item itself edits, a call of `menu_service`
leaves all that the item in hand does not edit as it was in force, unless the item
resets the settings. And in any run, a value written leaves the rest as the menu read
it when the edit began, which keeps it exactly if that is still what is in force. -/
theorem menu_leaves_others (desk : Desk) :
    (deskMachine.Reachable Desk.Undisturbed desk → ∀ input,
      ¬desk.menu.current.resets →
        desk.menu.current.others (desk.menuService input).body =
          desk.menu.current.others desk.body) ∧
    (deskMachine.Reachable (fun _ _ => True) desk → ∀ input,
      ¬desk.menu.current.resets → (desk.menuService input).body ≠ desk.body →
        (desk.menu.current.others (desk.menuService input).body =
            desk.menu.current.others desk.body ↔
          desk.menu.current.others desk.menu.work = desk.menu.current.others desk.body)) := by
  refine ⟨fun reached input keeps => ?_, fun _ input keeps written => ?_⟩
  · obtain resets | same | ⟨editing, others⟩ := (desk.menuService_spec input).2
    · exact absurd resets keeps
    · rw [same]
    · exact others.trans (Desk.deskMachine_synced.reachable reached editing)
  · obtain resets | same | ⟨_, others⟩ := (desk.menuService_spec input).2
    · exact absurd resets keeps
    · exact absurd same written
    · rw [others]

/-! ## A change lost -/

/-- A call at a moment, the button up or down, with nothing known of the rest. -/
def callAt (nowMs : BitVec 32) (down : Bool) : MenuInput where
  nowMs := nowMs
  down := down
  epoch := 0
  slot := 0
  linked := false
  remoteTz := none
  requests := fun _ => false
  zone := timezoneInit
  rtcTakes := false

/-- The menu opened, tZ opened, and its AUtO edited. -/
def editingTz : List DeskAct :=
  [.menuOpen (callAt 0 true), .service (callAt 10 false), .service (callAt 20 true),
    .service (callAt 30 false), .service (callAt 40 true), .service (callAt 540 true),
    .service (callAt 550 false), .service (callAt 560 true), .service (callAt 1060 true),
    .service (callAt 1070 false)]

/-- A press long enough to confirm, let go. -/
def confirmed : List DeskAct := [.service (callAt 2000 true), .service (callAt 2600 true)]

/-- A desk started with the factory settings. -/
def freshDesk : Desk where
  menu := {}
  settings :=
    { running := { body := settingsDefaults, debugMask := 0 }
      stored := { body := settingsDefaults, debugMask := 0 }
      revision := 0
      haveRecord := false
      saveRequested := false
      saveError := .none }
  sync := {}

theorem menu_leaves_others_unchanged :
    ∃ desk, deskMachine.Reachable Desk.Undisturbed desk ∧
      desk.menu.current.others (desk.menuService (callAt 2610 false)).body =
        desk.menu.current.others desk.body := by
  have undisturbed (acts : List DeskAct) (desk : Desk) (inside : acts ⊆ editingTz ++ confirmed)
      (reached : deskMachine.Reachable Desk.Undisturbed desk) :
      deskMachine.Reachable Desk.Undisturbed (acts.foldl Desk.act desk) := by
    induction acts generalizing desk with
    | nil => exact reached
    | cons act acts ih =>
        have free : desk.Undisturbed act := by
          have member := inside (List.mem_cons_self)
          simp only [editingTz, confirmed, List.cons_append, List.nil_append, List.mem_cons,
            List.not_mem_nil, or_false] at member
          rcases member with rfl | rfl | rfl | rfl | rfl | rfl | rfl | rfl | rfl | rfl | rfl | rfl
          all_goals exact trivial
        exact ih _ (fun act member => inside (List.mem_cons_of_mem _ member)) (reached.step act free)
  have reached := undisturbed (editingTz ++ confirmed) freshDesk (fun _ => id) (.start ⟨rfl, rfl, rfl⟩)
  exact ⟨_, reached, (menu_leaves_others _).1 reached _ (by decide)⟩

/-- **A change lost.** While AUtO of tZ is edited, the ESP writes another brightness; the
value confirmed puts the brightness back. -/
theorem write_lost :
    ¬∀ desk, deskMachine.Reachable (fun _ _ => True) desk → ∀ input,
      ¬desk.menu.current.resets →
        desk.menu.current.others (desk.menuService input).body =
          desk.menu.current.others desk.body := by
  intro claimed
  have started : deskMachine.Reachable (fun _ _ => True) freshDesk := .start ⟨rfl, rfl, rfl⟩
  have reached := started.run (Machine.Run.foldl (fun _ _ => trivial)
    (editingTz ++ [.settingsWrite { settingsDefaults with brightness := 1000 }] ++ confirmed)
    freshDesk)
  have kept := claimed _ reached (callAt 2610 false) (by decide)
  exact absurd kept (by decide)

end GpsClock.Menu
