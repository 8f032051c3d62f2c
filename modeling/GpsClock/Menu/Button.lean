import GpsClock.Menu.Edits

/-! # The button in the menu

The menu times a press itself. What a press comes to never touches the menu's notes of the
button, so a call leaves them as following the button has (`Desk.menuService_latches`); and a
press that has come to anything but a step comes to nothing more
(`MenuState.press_latches`).
-/

namespace GpsClock.Menu

/-- The notes of the button: a release waited for, whether it was down, and steps repeating. -/
structure Latches where
  waitingRelease : Bool
  wasDown : Bool
  repeating : Bool
  deriving DecidableEq, Repr

def MenuState.latches (menu : MenuState) : Latches where
  waitingRelease := menu.waitingRelease
  wasDown := menu.wasDown
  repeating := menu.repeating

/-- What a call makes of the notes, by what the press comes to. -/
inductive Pressing : (before : Latches) → (down : Bool) → MenuAction → (after : Latches) → Prop
  | waits (wasDown repeating : Bool) :
      Pressing ⟨true, wasDown, repeating⟩ true .nothing ⟨true, true, repeating⟩
  | letGo (wasDown repeating : Bool) :
      Pressing ⟨true, wasDown, repeating⟩ false .nothing ⟨false, false, repeating⟩
  | up (repeating : Bool) : Pressing ⟨false, false, repeating⟩ false .nothing ⟨false, false, repeating⟩
  | holds (wasDown repeating repeats : Bool) (onward : repeats = (wasDown && repeating)) :
      Pressing ⟨false, wasDown, repeating⟩ true .nothing ⟨false, true, repeats⟩
  | steps (wasDown repeating : Bool) (direction : Int) (click : Bool) :
      Pressing ⟨false, wasDown, repeating⟩ true (.step direction click) ⟨false, true, true⟩
  | acts (wasDown repeating repeats : Bool) (action : MenuAction) (done : action ≠ .nothing) :
      Pressing ⟨false, wasDown, repeating⟩ true action ⟨true, true, repeats⟩
  | released (repeating : Bool) (action : MenuAction) (done : action ≠ .nothing ∨ repeating = true) :
      Pressing ⟨false, true, repeating⟩ false action ⟨false, false, repeating⟩

theorem MenuState.held_latches (menu : MenuState) (input : MenuInput)
    (free : menu.waitingRelease = false) (wasDown repeating : Bool)
    (onward : menu.repeating = (wasDown && repeating)) :
    Pressing ⟨false, wasDown, repeating⟩ true (menu.held input).2
      ⟨(menu.held input).1.waitingRelease, true, (menu.held input).1.repeating⟩ := by
  have quiet : Pressing ⟨false, wasDown, repeating⟩ true .nothing
      ⟨menu.waitingRelease, true, menu.repeating⟩ := by
    rw [free]
    exact .holds _ _ _ onward
  rw [MenuState.held]
  split
  · split
    · exact .acts _ _ _ .moveLong (by decide)
    · exact quiet
  · split
    · split
      · exact .acts _ _ _ .confirm (by decide)
      · exact quiet
    · split
      · rw [free]
        exact .steps _ _ _ _
      · split
        · next repeats =>
            simp only [Bool.and_eq_true] at repeats
            rw [free, repeats.1]
            exact .steps _ _ _ _
        · exact quiet

theorem MenuState.released_latches (menu : MenuState) (input : MenuInput)
    (free : menu.waitingRelease = false) :
    Pressing ⟨false, true, menu.repeating⟩ false (menu.released input).2
      ⟨(menu.released input).1.waitingRelease, false, (menu.released input).1.repeating⟩ := by
  rw [MenuState.released]
  split
  · rw [free]
    exact .released _ .moveShort (.inl (by decide))
  · split
    · next repeats =>
        rw [free, repeats]
        exact .released _ _ (.inr rfl)
    · split
      · rw [free]
        exact .released _ _ (.inl fun none => by cases none)
      · rw [free]
        exact .released _ .confirm (.inl (by decide))

/-- Following the button moves its notes as `Pressing` has it. -/
theorem MenuState.press_latches (menu : MenuState) (input : MenuInput) :
    Pressing menu.latches input.down (menu.press input).2 (menu.press input).1.latches := by
  rw [MenuState.latches, MenuState.press]
  cases waits : menu.waitingRelease with
  | true =>
      rw [if_pos rfl]
      cases down : input.down with
      | true =>
          rw [if_pos rfl]
          exact .waits _ _
      | false =>
          rw [if_neg Bool.false_ne_true]
          exact .letGo _ _
  | false =>
      rw [if_neg Bool.false_ne_true]
      cases down : input.down with
      | true =>
          rw [if_pos rfl]
          have free : (menu.pressed input).waitingRelease = false := by
            rw [MenuState.pressed]
            split <;> exact waits
          have onward : (menu.pressed input).repeating = (menu.wasDown && menu.repeating) := by
            rw [MenuState.pressed, down]
            cases was : menu.wasDown <;> rfl
          exact (menu.pressed input).held_latches input free _ _ onward
      | false =>
          rw [if_neg Bool.false_ne_true]
          cases was : menu.wasDown with
          | true =>
              rw [if_pos rfl]
              exact menu.released_latches input waits
          | false =>
              rw [if_neg Bool.false_ne_true]
              change Pressing _ false .nothing ⟨menu.waitingRelease, false, menu.repeating⟩
              rw [waits]
              exact .up _

theorem MenuState.opened_press (menu : MenuState) (input : MenuInput) :
    (menu.press input).1.opened = menu.opened := by
  rw [MenuState.press]
  split
  · split <;> rfl
  · dsimp only
    split
    · have start : (menu.pressed input).opened = menu.opened := by
        rw [MenuState.pressed]
        split <;> rfl
      rw [MenuState.held]
      repeat' split
      all_goals exact start
    · split
      · rw [MenuState.released]
        repeat' split
        all_goals rfl
      · rfl

namespace Desk

def latches (desk : Desk) : Latches := desk.menu.latches

theorem latches_preview (desk : Desk) (on : Bool) : (desk.preview on).latches = desk.latches := by
  rw [latches, preview_menu]
  rfl

theorem latches_saveChanges (desk : Desk) : desk.saveChanges.latches = desk.latches := by
  rw [saveChanges]
  dsimp only
  split <;> split <;> rfl

theorem opened_saveChanges (desk : Desk) : desk.saveChanges.menu.opened = desk.menu.opened := by
  rw [saveChanges]
  dsimp only
  split <;> split <;> rfl

theorem latches_closeMenu (desk : Desk) : desk.closeMenu.latches = desk.latches := by
  rw [closeMenu, latches_saveChanges]
  cases editing : desk.menu.editing <;> rfl

theorem opened_closeMenu (desk : Desk) : desk.closeMenu.menu.opened = false := by
  rw [closeMenu, opened_saveChanges]

theorem latches_writeSettings (desk : Desk) (body : SmlSettingsBody) :
    (desk.writeSettings body).latches = desk.latches := rfl

theorem latches_store (desk : Desk) (input : MenuInput) :
    (desk.store input).latches = desk.latches := by
  rw [store]
  split
  · rfl
  · split
    · rfl
    · rw [timeStore]
      split <;> rfl
    all_goals
      first
      | rfl
      | split <;> rfl

theorem latches_step (desk : Desk) (direction : Int) (input : MenuInput) :
    (desk.step direction input).latches = desk.latches := by
  rw [step]
  dsimp only
  split
  · rfl
  · exact latches_preview _ _

theorem latches_confirm (desk : Desk) (input : MenuInput) :
    (desk.confirm input).latches = desk.latches := by
  rw [confirm]
  dsimp only
  split
  · rfl
  · exact desk.latches_store input

theorem latches_moveLong (desk : Desk) (input : MenuInput) :
    (desk.moveLong input).latches = desk.latches := by
  rw [moveLong]
  split
  · exact desk.latches_closeMenu
  · exact desk.latches_closeMenu
  · rfl
  · rfl
  · exact latches_preview _ _

theorem latches_perform (desk : Desk) (input : MenuInput) (action : MenuAction) :
    (desk.perform input action).latches = desk.latches := by
  cases action with
  | nothing | moveShort => rfl
  | moveLong => exact latches_moveLong _ input
  | confirm => exact latches_confirm _ input
  | step direction click =>
      refine (latches_step _ direction input).trans ?_
      cases click <;> rfl

theorem latches_render (desk : Desk) (input : MenuInput) :
    (desk.render input).latches = desk.latches := by
  rw [latches, (desk.render_eq input).1]
  rfl

theorem latches_settle (desk : Desk) (input : MenuInput) :
    (desk.settle input).latches = desk.latches := by
  rw [settle]
  split
  · rfl
  · split
    · exact latches_closeMenu _
    · dsimp only
      rw [latches_render]
      split <;> rfl

/-- What a press comes to, in a call while the menu is open. -/
def menuAction (desk : Desk) (input : MenuInput) : MenuAction :=
  if desk.menu.opened then ((desk.beforeButton input).menu.press input).2 else .nothing

theorem beforeButton_menu (desk : Desk) (input : MenuInput) :
    (desk.beforeButton input).menu.opened = desk.menu.opened ∧
      (desk.beforeButton input).latches = desk.latches := by
  obtain ⟨-, -, pending, menu⟩ := desk.beforeButton_eq input
  rw [latches, menu]
  exact ⟨rfl, rfl⟩

/-- A call while the menu is closed leaves it closed. -/
theorem menuService_closed (desk : Desk) (input : MenuInput) (closed : desk.menu.opened = false) :
    (desk.menuService input).menu.opened = false ∧ desk.menuAction input = .nothing := by
  have before := (desk.beforeButton_menu input).1.trans closed
  have service : desk.menuService input =
      { desk.beforeButton input with
        menu := { (desk.beforeButton input).menu with wasDown := input.down } } :=
    if_pos (by rw [before]; rfl)
  rw [service, menuAction, closed]
  exact ⟨before, rfl⟩

/-- A call while it is open moves the notes of the button as the press comes to something. -/
theorem menuService_latches (desk : Desk) (input : MenuInput) (opened : desk.menu.opened = true) :
    Pressing desk.latches input.down (desk.menuAction input) (desk.menuService input).latches := by
  obtain ⟨same, latches⟩ := desk.beforeButton_menu input
  have pressing := (desk.beforeButton input).menu.press_latches input
  have service : desk.menuService input =
      ((desk.beforeButton input).followButton input).settle input :=
    if_neg (by rw [same.trans opened]; decide)
  rw [service, menuAction, opened, if_pos rfl, latches_settle, followButton, latches_perform]
  exact latches ▸ pressing

theorem opened_preview (desk : Desk) (on : Bool) :
    (desk.preview on).menu.opened = desk.menu.opened := by
  rw [preview_menu]

theorem opened_store (desk : Desk) (input : MenuInput) :
    (desk.store input).menu.opened = desk.menu.opened := by
  rw [store]
  split
  · rfl
  · split
    · rfl
    · rw [timeStore]
      split <;> rfl
    all_goals
      first
      | rfl
      | split <;> rfl

theorem opened_step (desk : Desk) (direction : Int) (input : MenuInput) :
    (desk.step direction input).menu.opened = desk.menu.opened := by
  rw [step]
  dsimp only
  split
  · rfl
  · exact opened_preview _ _

/-- Only a long press moving through closes the menu. -/
theorem opened_perform (desk : Desk) (input : MenuInput) {action : MenuAction}
    (stays : action ≠ .moveLong) :
    (desk.perform input action).menu.opened = desk.menu.opened := by
  cases action with
  | nothing | moveShort => rfl
  | moveLong => exact absurd rfl stays
  | confirm =>
      rw [perform, confirm]
      dsimp only
      split
      · rfl
      · exact opened_store _ input
  | step direction click =>
      refine (opened_step _ direction input).trans ?_
      cases click <;> rfl

/-- While the button is down the menu does not time out. -/
theorem menuService_opened (desk : Desk) (input : MenuInput) (opened : desk.menu.opened = true)
    (down : input.down = true) (stays : desk.menuAction input ≠ .moveLong) :
    (desk.menuService input).menu.opened = true := by
  have same := (desk.beforeButton_menu input).1.trans opened
  have service : desk.menuService input =
      ((desk.beforeButton input).followButton input).settle input :=
    if_neg (by rw [same]; decide)
  have pressed : ((desk.beforeButton input).menu.press input).1.opened = true := by
    rw [MenuState.opened_press]
    exact same
  rw [menuAction, if_pos opened] at stays
  have followed : ((desk.beforeButton input).followButton input).menu.opened = true :=
    (opened_perform _ input stays).trans pressed
  rw [service, settle, if_neg (by rw [followed]; decide), down]
  dsimp only
  rw [Bool.not_true, Bool.false_and, if_neg Bool.false_ne_true, (render_eq _ input).1]
  split <;> exact followed

end Desk

end GpsClock.Menu
