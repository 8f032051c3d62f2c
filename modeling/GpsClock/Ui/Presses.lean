import GpsClock.Menu.Button
import GpsClock.Ui.Alarm
import GpsClock.Ui.Controls

/-! # One press, one action

`service_controls` in `main.c`: each pass the button and the switch are sampled, and a press
goes to the alarm if it sounds, else to the menu if it is open, else to the clock. A press is
reported once, or never if the clock started with it; it acts in one place only, the one it
began in; and once it has done anything but step a value it does nothing more, however long
it is held (`GpsClock.Ui.Presses.one_press_one_action`).
-/

namespace GpsClock.Ui

open Menu Settings

/-- What `service_controls` works on, with its own statics, and how often the display has
been cycled. -/
structure Panel where
  controls : Controls := {}
  alarm : Alarm := {}
  desk : Desk
  presses : BitVec 32 := 0
  wasDown : Bool := false
  spent : Bool := false
  menuPress : Bool := false
  cycles : BitVec 32 := 0

/-- The pins as they are sampled, and what the menu is called with: its moment is the
sample's, and whether the button is down is for the controls to say. -/
structure PanelInput where
  buttonPressed : Bool
  switchOn : Bool
  menu : MenuInput

namespace Panel

/-- The controls after their service. -/
def sampled (panel : Panel) (input : PanelInput) : Controls :=
  panel.controls.service input.menu.nowMs input.buttonPressed input.switchOn

/-- The alarm, once it has the switch. -/
def switched (panel : Panel) (input : PanelInput) : Alarm :=
  panel.alarm.setSwitch (panel.sampled input).switchOn

/-- A press begins. -/
def begins (panel : Panel) (input : PanelInput) : Bool :=
  (panel.sampled input).buttonDown && !panel.wasDown

/-- `service_controls` as far as the press: who has it. -/
def follow (panel : Panel) (input : PanelInput) : Panel :=
  let pressed := (panel.switched input).press
  { panel with
    controls := panel.sampled input
    alarm := if panel.begins input then pressed.2 else panel.switched input
    wasDown := (panel.sampled input).buttonDown
    spent := if panel.begins input then pressed.1 else panel.spent
    menuPress := if panel.begins input then panel.desk.menu.opened else panel.menuPress }

/-- What the menu is called with. -/
def menuInput (panel : Panel) (input : PanelInput) : MenuInput :=
  { input.menu with down := panel.controls.buttonDown && !panel.spent }

/-- A press the clock acts on, once the menu has been served. -/
def forClock (panel : Panel) (served : Desk) : Bool :=
  panel.controls.pressCount != panel.presses && !panel.spent && !panel.menuPress &&
    !served.menu.opened

/-- The press acted on by the clock. -/
def onClock (panel : Panel) (input : MenuInput) : Panel :=
  let clicked := panel.desk.click
  match panel.controls.lastPress with
  | .short => { panel with desk := clicked, cycles := panel.cycles + 1 }
  | .long => { panel with desk := clicked.menuOpen input }
  | .none | .hold => { panel with desk := clicked }

/-- `service_controls`. -/
def serviceControls (panel : Panel) (input : PanelInput) : Panel :=
  let followed := panel.follow input
  let menuInput := followed.menuInput input
  let served := followed.desk.menuService menuInput
  let next := { followed with desk := served, presses := followed.controls.pressCount }
  if followed.forClock served then next.onClock menuInput else next

end Panel

/-! ## What each press has come to -/

/-- Where a press belongs as it begins. -/
inductive Place
  | alarm
  | menu
  | clock
  deriving DecidableEq, Repr

inductive Effect
  | stopsAlarm
  | menu (action : MenuAction)
  | clock (press : ControlsPress)
  deriving DecidableEq, Repr

/-- A press, how it has been reported and what it has done, the latest first. -/
structure Press where
  startUp : Bool
  place : Place
  reports : List ControlsPress := []
  effects : List Effect := []
  deriving DecidableEq, Repr

/-- The panel with its presses, the latest first; and anything reported or done while there
has been none. -/
structure Presses where
  panel : Panel
  presses : List Press := []
  stray : List ControlsPress × List Effect := ([], [])

namespace Panel

/-- The press that begins. -/
def begun (panel : Panel) (input : PanelInput) : Press where
  startUp := !panel.controls.started
  place :=
    if (panel.switched input).sounding then .alarm
    else if panel.desk.menu.opened then .menu else .clock

/-- What is reported in a pass. -/
def reported (panel : Panel) (input : PanelInput) : List ControlsPress :=
  if (panel.sampled input).pressCount = panel.controls.pressCount then []
  else [(panel.sampled input).lastPress]

/-- What is done in a pass, the latest first. -/
def done (panel : Panel) (input : PanelInput) : List Effect :=
  let followed := panel.follow input
  let menuInput := followed.menuInput input
  let action := followed.desk.menuAction menuInput
  (if followed.forClock (followed.desk.menuService menuInput) then
      [.clock followed.controls.lastPress] else []) ++
    (if action = .nothing then [] else [.menu action]) ++
    if panel.begins input && (panel.switched input).sounding then [.stopsAlarm] else []

end Panel

namespace Presses

/-- One pass. -/
def service (run : Presses) (input : PanelInput) : Presses :=
  let begun :=
    if run.panel.begins input then run.panel.begun input :: run.presses else run.presses
  let reported := run.panel.reported input
  let done := run.panel.done input
  { panel := run.panel.serviceControls input
    presses :=
      match begun with
      | [] => []
      | press :: earlier =>
          { press with reports := reported ++ press.reports, effects := done ++ press.effects } ::
            earlier
    stray :=
      if begun.isEmpty then (reported ++ run.stray.1, done ++ run.stray.2) else run.stray }

end Presses

/-- What happens at the panel: a pass, an epoch or another setting of the alarm, and what is
done at the desk elsewhere than in a pass. -/
inductive PanelAct
  | service (input : PanelInput)
  | alarmEpoch (known : Bool) (localSeconds : BitVec 32)
  | alarmSet (on : Bool) (timeOfDayS : BitVec 32)
  | desk (act : DeskAct)

namespace Presses

def act (run : Presses) : PanelAct → Presses
  | .service input => run.service input
  | .alarmEpoch known localSeconds =>
      { run with panel := { run.panel with alarm := run.panel.alarm.epoch known localSeconds } }
  | .alarmSet on timeOfDayS =>
      { run with panel := { run.panel with alarm := run.panel.alarm.set on timeOfDayS } }
  | .desk act => { run with panel := { run.panel with desk := run.panel.desk.act act } }

/-- The menu is opened and served in passes only. -/
def Admits (_ : Presses) : PanelAct → Prop
  | .desk (.service _) | .desk (.menuOpen _) => False
  | _ => True

/-- The panel as `main` leaves it before the first pass. -/
structure Fresh (run : Presses) : Prop where
  controls : run.panel.controls = {}
  menu : run.panel.desk.menu = {}
  presses : run.panel.presses = 0
  wasDown : run.panel.wasDown = false
  none : run.presses = []
  stray : run.stray = ([], [])

def machine : Machine Presses PanelAct where
  start := Fresh
  step := act

end Presses

/-! ## What a press may have come to -/

namespace Press

/-- What has been done is done where the press belongs: the alarm stopped once, what the
press came to in the menu, or what was reported acted on by the clock. In the menu a value
may have been stepped any number of times before. -/
def Placed (press : Press) : Prop :=
  match press.place with
  | .alarm => press.effects = [.stopsAlarm]
  | .menu =>
      ∃ actions : List MenuAction, press.effects = actions.map .menu ∧
        ∀ action ∈ actions.tail, ∃ direction click, action = .step direction click
  | .clock => press.effects = press.reports.map .clock

/-- What every press keeps to. -/
structure Valid (press : Press) : Prop where
  placed : press.Placed
  once : press.reports.length ≤ 1
  startUp : press.startUp = true → press.reports = []

/-- What a press has come to once the button is up. -/
structure Complete (press : Press) : Prop extends Valid press where
  reported : press.startUp = false → press.reports.length = 1
  acted : press.startUp = false → press.effects ≠ []

end Press

namespace Panel

/-- What has been reported of the press that is down. -/
structure Told (panel : Panel) (press : Press) : Prop where
  reports : press.startUp = false →
    press.reports = if panel.controls.longReported then [.long] else []
  startUp : press.startUp = true → press.reports = [] ∧ panel.controls.longReported = true

/-- The menu is closed, or waits for a press. -/
def Quiet (panel : Panel) : Prop :=
  panel.desk.menu.opened = true →
    panel.desk.latches.waitingRelease = false ∧ panel.desk.latches.wasDown = false

/-- The menu's notes of a press that has come to some actions. -/
structure Timing (opened : Bool) (notes : Latches) (actions : List MenuAction) : Prop where
  tail : ∀ action ∈ actions.tail, ∃ direction click, action = .step direction click
  all : opened = true → notes.waitingRelease = false →
    ∀ action ∈ actions, ∃ direction click, action = .step direction click
  acted : opened = true →
    notes.waitingRelease = true ∨ notes.wasDown = true ∧ notes.repeating = true → actions ≠ []
  closed : opened = false → actions ≠ []

/-- The panel while a press is down, by where the press belongs. -/
inductive Has (panel : Panel) (press : Press) : Prop
  | alarm (place : press.place = .alarm) (spent : panel.spent = true)
      (effects : press.effects = [.stopsAlarm]) (quiet : panel.Quiet)
  | menu (actions : List MenuAction) (place : press.place = .menu) (fresh : panel.spent = false)
      (menuPress : panel.menuPress = true) (started : press.startUp = false)
      (effects : press.effects = actions.map .menu)
      (timing : Timing panel.desk.menu.opened panel.desk.latches actions)
      (down : panel.desk.menu.opened = true → panel.desk.latches.wasDown = true)
  | clock (place : press.place = .clock) (fresh : panel.spent = false)
      (other : panel.menuPress = false) (effects : press.effects = press.reports.map .clock)
      (early : panel.controls.longReported = false ∨ press.startUp = true →
        panel.desk.menu.opened = false)
      (waits : panel.desk.menu.opened = true → panel.desk.latches.waitingRelease = true)

end Panel


/-! ## A pass -/

namespace Panel

theorem onClock_keeps (panel : Panel) (input : MenuInput) :
    (panel.onClock input).controls = panel.controls ∧
      (panel.onClock input).presses = panel.presses ∧
      (panel.onClock input).wasDown = panel.wasDown ∧
      (panel.onClock input).spent = panel.spent ∧
      (panel.onClock input).menuPress = panel.menuPress := by
  rw [onClock]
  split <;> exact ⟨rfl, rfl, rfl, rfl, rfl⟩

/-- A pass leaves who has the press as it was found out. -/
theorem serviceControls_keeps (panel : Panel) (input : PanelInput) :
    (panel.serviceControls input).controls = panel.sampled input ∧
      (panel.serviceControls input).presses = (panel.sampled input).pressCount ∧
      (panel.serviceControls input).wasDown = (panel.sampled input).buttonDown ∧
      (panel.serviceControls input).spent = (panel.follow input).spent ∧
      (panel.serviceControls input).menuPress = (panel.follow input).menuPress := by
  rw [serviceControls]
  split
  · exact onClock_keeps _ _
  · exact ⟨rfl, rfl, rfl, rfl, rfl⟩

/-- The menu as a pass serves it. -/
def served (panel : Panel) (input : PanelInput) : Desk :=
  panel.desk.menuService ((panel.follow input).menuInput input)

/-- What the press comes to in the menu. -/
def action (panel : Panel) (input : PanelInput) : MenuAction :=
  panel.desk.menuAction ((panel.follow input).menuInput input)

theorem serviceControls_desk (panel : Panel) (input : PanelInput)
    (notClock : (panel.follow input).forClock (panel.served input) = false) :
    (panel.serviceControls input).desk = panel.served input := by
  have quiet : panel.serviceControls input =
      { panel.follow input with
        desk := panel.served input
        presses := (panel.follow input).controls.pressCount } :=
    if_neg (by
      change ¬(panel.follow input).forClock (panel.served input) = true
      rw [notClock]
      exact Bool.false_ne_true)
  rw [quiet]

/-- A press the clock acts on opens the menu, waiting for its release, or leaves it closed. -/
theorem serviceControls_clock (panel : Panel) (input : PanelInput)
    (forClock : (panel.follow input).forClock (panel.served input) = true) :
    ((panel.serviceControls input).desk.menu.opened = true →
        (panel.sampled input).lastPress = .long) ∧
      ((panel.serviceControls input).desk.menu.opened = true →
        (panel.serviceControls input).desk.latches.waitingRelease = true) := by
  have acts : panel.serviceControls input =
      { panel.follow input with
        desk := panel.served input
        presses := (panel.follow input).controls.pressCount }.onClock
          ((panel.follow input).menuInput input) :=
    if_pos forClock
  have closed : (panel.served input).menu.opened = false := by
    rw [Panel.forClock] at forClock
    simp only [Bool.and_eq_true, Bool.not_eq_true'] at forClock
    exact forClock.2
  rw [acts, onClock]
  dsimp only
  split
  · exact ⟨fun opened => absurd opened (by rw [Desk.click, Desk.call, closed]; decide),
      fun opened => absurd opened (by rw [Desk.click, Desk.call, closed]; decide)⟩
  · next long =>
      refine ⟨fun _ => long, fun _ => ?_⟩
      rw [Desk.menuOpen, if_neg (by rw [Desk.click, Desk.call, closed]; decide),
        Desk.latches_render]
      rfl
  all_goals
    exact ⟨fun opened => absurd opened (by rw [Desk.click, Desk.call, closed]; decide),
      fun opened => absurd opened (by rw [Desk.click, Desk.call, closed]; decide)⟩

/-- A menu that sees no press goes on waiting for one, or closes. -/
theorem served_quiet (panel : Panel) (input : PanelInput) (quiet : panel.Quiet)
    (away : ((panel.follow input).menuInput input).down = false) :
    panel.action input = .nothing ∧
      ((panel.served input).menu.opened = true →
        (panel.served input).latches.waitingRelease = false ∧
          (panel.served input).latches.wasDown = false) := by
  cases opened : panel.desk.menu.opened with
  | false =>
      obtain ⟨closed, nothing⟩ := panel.desk.menuService_closed _ opened
      exact ⟨nothing, fun opened => absurd opened (by rw [served, closed]; exact Bool.false_ne_true)⟩
  | true =>
      obtain ⟨free, up⟩ := quiet opened
      have pressing := panel.desk.menuService_latches ((panel.follow input).menuInput input) opened
      rw [away] at pressing
      rw [action, served]
      generalize panel.desk.menuAction _ = action at pressing ⊢
      generalize (panel.desk.menuService _).latches = after at pressing ⊢
      generalize panel.desk.latches = before at pressing free up
      cases pressing with
      | letGo => cases free
      | up => exact ⟨rfl, fun _ => ⟨rfl, rfl⟩⟩
      | released => cases up

/-- What a press has come to, with what it comes to now. -/
def withAction (action : MenuAction) (actions : List MenuAction) : List MenuAction :=
  if action = .nothing then actions else action :: actions

theorem withAction_append (action : MenuAction) (actions : List MenuAction) :
    withAction action [] ++ actions = withAction action actions := by
  rw [withAction, withAction]
  split <;> rfl

/-- A press held comes to steps, until it comes to something else. -/
theorem Timing.held {before after : Latches} {actions : List MenuAction} {action : MenuAction}
    (timing : Timing true before actions) (pressing : Pressing before true action after)
    (opened : Bool) (closes : opened = false → action = .moveLong) :
    Timing opened after (withAction action actions) ∧ after.wasDown = true := by
  cases pressing with
  | waits wasDown repeating =>
      refine ⟨⟨timing.tail, fun _ free => (by cases free), fun _ _ => ?_, fun closed => ?_⟩, rfl⟩
      · exact timing.acted rfl (.inl rfl)
      · cases closes closed
  | holds wasDown repeating repeats onward =>
      refine ⟨⟨timing.tail, fun _ => timing.all rfl, fun _ acted => ?_, fun closed => ?_⟩, rfl⟩
      · obtain waits | ⟨-, again⟩ := acted
        · cases waits
        · refine timing.acted rfl (.inr ?_)
          rw [onward] at again
          exact (Bool.and_eq_true _ _).mp again
      · cases closes closed
  | steps wasDown repeating direction click =>
      have before := timing.all rfl rfl
      refine ⟨⟨before, fun _ _ => ?_, fun _ _ => List.cons_ne_nil _ _,
        fun _ => List.cons_ne_nil _ _⟩, rfl⟩
      exact List.forall_mem_cons.mpr ⟨⟨direction, click, rfl⟩, before⟩
  | acts wasDown repeating repeats action done =>
      rw [withAction, if_neg done]
      exact ⟨⟨timing.all rfl rfl, fun _ free => (by cases free), fun _ _ => List.cons_ne_nil _ _,
        fun _ => List.cons_ne_nil _ _⟩, rfl⟩

/-- A press let go has come to something, and to nothing after anything but steps. -/
theorem Timing.letGo {before after : Latches} {actions : List MenuAction} {action : MenuAction}
    (timing : Timing true before actions) (was : before.wasDown = true)
    (pressing : Pressing before false action after) :
    withAction action actions ≠ [] ∧
      (∀ each ∈ (withAction action actions).tail,
        ∃ direction click, each = .step direction click) ∧
      after.waitingRelease = false ∧ after.wasDown = false := by
  cases pressing with
  | letGo wasDown repeating => exact ⟨timing.acted rfl (.inl rfl), timing.tail, rfl, rfl⟩
  | up repeating => cases was
  | released repeating action done =>
      rw [withAction]
      split
      · next nothing =>
          have again := done.resolve_left fun acts => acts nothing
          exact ⟨timing.acted rfl (.inr ⟨rfl, again⟩), timing.tail, rfl, rfl⟩
      · exact ⟨List.cons_ne_nil _ _, timing.all rfl rfl, rfl, rfl⟩

/-- A pass while a press is down, or lets it go, with what is reported of the button. -/
structure Pass (panel : Panel) (input : PanelInput) (told : Option ControlsPress) : Prop where
  seen : panel.presses = panel.controls.pressCount
  reports : panel.controls.Reports (panel.sampled input) told

theorem count_moves (count : BitVec 32) : count + 1 ≠ count := by
  bv_omega

theorem Pass.reported {panel : Panel} {input : PanelInput} {told : Option ControlsPress}
    (pass : panel.Pass input told) : panel.reported input = told.toList := by
  rw [Panel.reported, pass.reports.count]
  cases told with
  | none => exact if_pos (add_zero _)
  | some kind =>
      exact (if_neg (count_moves _)).trans (congrArg ([·]) (pass.reports.last kind rfl))

theorem Pass.forClock {panel : Panel} {input : PanelInput} {told : Option ControlsPress}
    (pass : panel.Pass input told) :
    (panel.follow input).forClock (panel.served input) =
      (told.isSome && !(panel.follow input).spent && !(panel.follow input).menuPress &&
        !(panel.served input).menu.opened) := by
  have counted : ((panel.sampled input).pressCount != panel.presses) = told.isSome := by
    rw [pass.seen, pass.reports.count]
    cases told with
    | none => exact bne_eq_false_iff_eq.mpr (add_zero _)
    | some kind =>
        exact bne_iff_ne.mpr (count_moves _)
  rw [← counted]
  rfl

/-- What a pass does, when no press stops the alarm in it. -/
theorem Pass.done {panel : Panel} {input : PanelInput} {told : Option ControlsPress}
    (pass : panel.Pass input told)
    (silent : (panel.begins input && (panel.switched input).sounding) = false) :
    panel.done input =
      (if (panel.follow input).forClock (panel.served input) then told.toList.map .clock
        else []) ++ (withAction (panel.action input) []).map .menu := by
  have clock : (if (panel.follow input).forClock (panel.served input) then
      [Effect.clock (panel.sampled input).lastPress] else []) =
      if (panel.follow input).forClock (panel.served input) then told.toList.map .clock
        else [] := by
    split
    · next forClock =>
        rw [pass.forClock] at forClock
        cases told with
        | none => cases forClock
        | some kind => rw [pass.reports.last kind rfl]; rfl
    · rfl
  have menu : (if panel.action input = .nothing then [] else [Effect.menu (panel.action input)]) =
      (withAction (panel.action input) []).map .menu := by
    rw [withAction]
    split <;> rfl
  rw [Panel.done, silent, if_neg Bool.false_ne_true, List.append_nil]
  exact congrArg₂ (· ++ ·) clock menu

/-- A press that stops the alarm does nothing else. -/
theorem Pass.alarm {panel : Panel} {input : PanelInput} {told : Option ControlsPress}
    (pass : panel.Pass input told) (spent : (panel.follow input).spent = true)
    (quiet : panel.Quiet) :
    (panel.follow input).forClock (panel.served input) = false ∧
      panel.action input = .nothing ∧ (panel.serviceControls input).Quiet := by
  have notClock : (panel.follow input).forClock (panel.served input) = false := by
    rw [pass.forClock, spent, Bool.not_true, Bool.and_false, Bool.false_and, Bool.false_and]
  have away : ((panel.follow input).menuInput input).down = false := by
    rw [menuInput, spent, Bool.not_true, Bool.and_false]
  obtain ⟨nothing, still⟩ := panel.served_quiet input quiet away
  refine ⟨notClock, nothing, ?_⟩
  rw [Quiet, panel.serviceControls_desk input notClock]
  exact still

/-- A press of the menu comes to something there only. -/
theorem Pass.menu {panel : Panel} {input : PanelInput} {told : Option ControlsPress}
    (pass : panel.Pass input told) (fresh : (panel.follow input).spent = false)
    (menuPress : (panel.follow input).menuPress = true) {actions : List MenuAction}
    (timing : Timing panel.desk.menu.opened panel.desk.latches actions) :
    (panel.follow input).forClock (panel.served input) = false ∧
      ((panel.sampled input).buttonDown = true →
        Timing (panel.serviceControls input).desk.menu.opened
            (panel.serviceControls input).desk.latches
            (withAction (panel.action input) actions) ∧
          ((panel.serviceControls input).desk.menu.opened = true →
            (panel.serviceControls input).desk.latches.wasDown = true)) ∧
      ((panel.sampled input).buttonDown = false →
        (panel.desk.menu.opened = true → panel.desk.latches.wasDown = true) →
        withAction (panel.action input) actions ≠ [] ∧
          (∀ each ∈ (withAction (panel.action input) actions).tail,
            ∃ direction click, each = .step direction click) ∧
          (panel.serviceControls input).Quiet) := by
  have notClock : (panel.follow input).forClock (panel.served input) = false := by
    rw [pass.forClock, menuPress, Bool.not_true, Bool.and_false, Bool.false_and]
  have seen : ((panel.follow input).menuInput input).down = (panel.sampled input).buttonDown := by
    rw [menuInput, fresh, Bool.not_false, Bool.and_true]
    rfl
  refine ⟨notClock, ?_⟩
  rw [Quiet, panel.serviceControls_desk input notClock]
  rw [← seen]
  cases opened : panel.desk.menu.opened with
  | false =>
      obtain ⟨closed, nothing⟩ := panel.desk.menuService_closed
        ((panel.follow input).menuInput input) opened
      rw [action, nothing]
      rw [opened] at timing
      have not (now : (panel.served input).menu.opened = true) : False := by
        rw [served, closed] at now
        cases now
      exact ⟨fun _ => ⟨⟨timing.tail, fun now => (not now).elim, fun now => (not now).elim,
        fun _ => timing.closed rfl⟩, fun now => (not now).elim⟩,
        fun _ _ => ⟨timing.closed rfl, timing.tail, fun now => (not now).elim⟩⟩
  | true =>
      have pressing := panel.desk.menuService_latches ((panel.follow input).menuInput input) opened
      rw [opened] at timing
      refine ⟨fun down => ?_, fun up was => ?_⟩
      · rw [down] at pressing
        have closes (closed : (panel.served input).menu.opened = false) :
            panel.action input = .moveLong := by
          by_contra stays
          rw [served, panel.desk.menuService_opened _ opened down stays] at closed
          cases closed
        obtain ⟨held, wasDown⟩ := timing.held pressing _ closes
        exact ⟨held, fun _ => wasDown⟩
      · rw [up] at pressing
        obtain ⟨acted, tail, free, notDown⟩ := timing.letGo (was rfl) pressing
        exact ⟨acted, tail, fun _ => ⟨free, notDown⟩⟩

/-- A press of the clock acts as it is reported, while the menu is closed. -/
theorem Pass.clock {panel : Panel} {input : PanelInput} {told : Option ControlsPress}
    (pass : panel.Pass input told) (fresh : (panel.follow input).spent = false)
    (other : (panel.follow input).menuPress = false)
    (early : told.isSome → panel.desk.menu.opened = false)
    (waits : panel.desk.menu.opened = true → panel.desk.latches.waitingRelease = true) :
    (panel.follow input).forClock (panel.served input) = told.isSome ∧
      panel.action input = .nothing ∧
      ((panel.serviceControls input).desk.menu.opened = true →
        panel.desk.menu.opened = true ∨ told = some .long) ∧
      ((panel.sampled input).buttonDown = true →
        (panel.serviceControls input).desk.menu.opened = true →
          (panel.serviceControls input).desk.latches.waitingRelease = true) ∧
      ((panel.sampled input).buttonDown = false → told ≠ some .long →
        (panel.serviceControls input).Quiet) := by
  have seen : ((panel.follow input).menuInput input).down = (panel.sampled input).buttonDown := by
    rw [menuInput, fresh, Bool.not_false, Bool.and_true]
    rfl
  cases opened : panel.desk.menu.opened with
  | false =>
      obtain ⟨closed, nothing⟩ := panel.desk.menuService_closed
        ((panel.follow input).menuInput input) opened
      have forClock : (panel.follow input).forClock (panel.served input) = told.isSome := by
        rw [pass.forClock, fresh, other, served, closed]
        simp only [Bool.not_false, Bool.and_true]
      have opens (now : (panel.serviceControls input).desk.menu.opened = true) :
          told = some .long ∧ (panel.serviceControls input).desk.latches.waitingRelease = true := by
        cases told with
        | none =>
            rw [panel.serviceControls_desk input forClock, served, closed] at now
            cases now
        | some kind =>
            obtain ⟨long, waiting⟩ := panel.serviceControls_clock input forClock
            exact ⟨congrArg some ((pass.reports.last kind rfl).symm.trans (long now)), waiting now⟩
      exact ⟨forClock, nothing, fun now => .inr (opens now).1, fun _ now => (opens now).2,
        fun _ short now => absurd (opens now).1 short⟩
  | true =>
      have none : told.isSome = false := by
        cases some : told.isSome with
        | false => rfl
        | true => exact absurd (early some) (by rw [opened]; decide)
      have notClock : (panel.follow input).forClock (panel.served input) = false := by
        rw [pass.forClock, none, Bool.false_and, Bool.false_and, Bool.false_and]
      have pressing := panel.desk.menuService_latches ((panel.follow input).menuInput input) opened
      have waiting := waits opened
      rw [Quiet, panel.serviceControls_desk input notClock, none]
      rw [action, served, ← seen]
      generalize panel.desk.menuAction _ = action at pressing ⊢
      generalize (panel.desk.menuService _).latches = after at pressing ⊢
      generalize panel.desk.latches = before at pressing waiting
      generalize ((panel.follow input).menuInput input).down = down at pressing ⊢
      cases pressing with
      | waits =>
          exact ⟨notClock, rfl, fun _ => .inl rfl, fun _ _ => rfl, fun up => (by cases up)⟩
      | letGo =>
          exact ⟨notClock, rfl, fun _ => .inl rfl, fun down => (by cases down),
            fun _ _ _ => ⟨rfl, rfl⟩⟩
      | up | holds | steps | acts | released => cases waiting

end Panel

/-! ## The presses -/

namespace Presses

/-- What holds of the presses: the one that is down has come to what `Has` says, those before
it have come to all they will, and with the button up the menu waits for the next. -/
structure Sound (run : Presses) : Prop where
  seen : run.panel.presses = run.panel.controls.pressCount
  wasDown : run.panel.wasDown = run.panel.controls.buttonDown
  first : run.panel.controls.started = false →
    run.panel.controls.buttonDown = false ∧ run.panel.controls.longReported = false ∧
      run.panel.desk.menu.opened = false
  stray : run.stray = ([], [])
  up : run.panel.controls.buttonDown = false →
    (∀ press ∈ run.presses, press.Complete) ∧ run.panel.Quiet
  down : run.panel.controls.buttonDown = true → ∃ press earlier, run.presses = press :: earlier ∧
    (∀ press ∈ earlier, press.Complete) ∧ run.panel.Told press ∧ run.panel.Has press

end Presses

namespace Panel

/-- A press down is as every press. -/
theorem valid_of_has {panel : Panel} {press : Press} (told : panel.Told press)
    (has : panel.Has press) : press.Valid where
  placed := by
    rw [Press.Placed]
    cases has with
    | alarm place spent effects quiet => rw [place]; exact effects
    | menu actions place fresh menuPress started effects timing down =>
        rw [place]
        exact ⟨actions, effects, timing.tail⟩
    | clock place fresh other effects early waits => rw [place]; exact effects
  once := by
    cases startUp : press.startUp with
    | true => rw [(told.startUp startUp).1]; exact Nat.zero_le 1
    | false =>
        rw [told.reports startUp]
        split
        · exact Nat.le_refl 1
        · exact Nat.zero_le 1
  startUp startUp := (told.startUp startUp).1

theorem follow_begins {panel : Panel} {input : PanelInput} (begins : panel.begins input = true) :
    (panel.follow input).spent = (panel.switched input).sounding ∧
      (panel.follow input).menuPress = panel.desk.menu.opened := by
  rw [follow, begins]
  refine ⟨?_, rfl⟩
  change (panel.switched input).press.1 = _
  rw [Alarm.press]
  cases (panel.switched input).sounding <;> rfl

theorem follow_later {panel : Panel} {input : PanelInput} (later : panel.begins input = false) :
    (panel.follow input).spent = panel.spent ∧
      (panel.follow input).menuPress = panel.menuPress := by
  rw [follow, later]
  exact ⟨rfl, rfl⟩

/-- A press begins. -/
theorem Pass.begin {panel : Panel} {input : PanelInput} {told : Option ControlsPress}
    (pass : panel.Pass input told) (begins : panel.begins input = true) (quiet : panel.Quiet)
    (closed : (panel.begun input).startUp = true → panel.desk.menu.opened = false)
    (long : told = none ∨ told = some .long)
    (reported : (panel.begun input).startUp = false →
      told.toList = if (panel.sampled input).longReported then [.long] else [])
    (startUp : (panel.begun input).startUp = true →
      told.toList = [] ∧ (panel.sampled input).longReported = true) :
    let press := { panel.begun input with
      reports := panel.reported input ++ [], effects := panel.done input ++ [] }
    (panel.serviceControls input).Told press ∧ (panel.serviceControls input).Has press := by
  obtain ⟨controls, -, -, sameSpent, sameMenu⟩ := panel.serviceControls_keeps input
  obtain ⟨spent, menuPress⟩ := follow_begins begins
  have down : (panel.sampled input).buttonDown = true := by
    rw [Panel.begins, Bool.and_eq_true] at begins
    exact begins.1
  rw [pass.reported, List.append_nil, List.append_nil]
  refine ⟨⟨fun notStart => ?_, fun start => ?_⟩, ?_⟩
  · rw [controls]
    exact reported notStart
  · rw [controls]
    exact startUp start
  cases sounding : (panel.switched input).sounding with
  | true =>
      have place : (panel.begun input).place = .alarm := if_pos sounding
      obtain ⟨notClock, nothing, still⟩ := pass.alarm (spent.trans sounding) quiet
      have done : panel.done input = [.stopsAlarm] := by
        rw [Panel.done]
        change (if (panel.follow input).forClock (panel.served input) = true then _ else _) ++
          (if panel.action input = .nothing then _ else _) ++ _ = _
        rw [notClock, nothing, begins, sounding]
        rfl
      exact .alarm place (sameSpent.trans (spent.trans sounding)) done still
  | false =>
      have done := pass.done (by rw [sounding, Bool.and_false])
      have fresh := spent.trans sounding
      cases opened : panel.desk.menu.opened with
      | true =>
          have place : (panel.begun input).place = .menu := by
            rw [begun, sounding, opened]
            rfl
          have timing : Timing panel.desk.menu.opened panel.desk.latches [] := by
            obtain ⟨free, up⟩ := quiet opened
            refine ⟨fun _ none => (by cases none), fun _ _ _ none => (by cases none), ?_, ?_⟩
            · rintro - (waiting | ⟨was, -⟩)
              · rw [free] at waiting
                cases waiting
              · rw [up] at was
                cases was
            · intro notOpened
              rw [opened] at notOpened
              cases notOpened
          obtain ⟨notClock, held, -⟩ := pass.menu fresh (menuPress.trans opened) timing
          have started : (panel.begun input).startUp = false := by
            cases start : (panel.begun input).startUp with
            | false => rfl
            | true => exact absurd (closed start) (by rw [opened]; decide)
          refine .menu (withAction (panel.action input) []) place (sameSpent.trans fresh)
            (sameMenu.trans (menuPress.trans opened)) started ?_ (held down).1 (held down).2
          rw [done, notClock]
          rfl
      | false =>
          have place : (panel.begun input).place = .clock := by
            rw [begun, sounding, opened]
            rfl
          obtain ⟨forClock, nothing, opens, waiting, -⟩ :=
            pass.clock fresh (menuPress.trans opened) (fun _ => opened)
              (fun now => absurd now (by rw [opened]; decide))
          refine .clock place (sameSpent.trans fresh) (sameMenu.trans (menuPress.trans opened))
            ?_ (fun notLong => ?_) (waiting down)
          · rw [done, forClock, nothing]
            cases told <;> rfl
          · rw [controls] at notLong
            have none : told.toList = [] := by
              obtain notLong | start := notLong
              · cases start : (panel.begun input).startUp with
                | false => rw [reported start, notLong]; rfl
                | true => exact (startUp start).1
              · exact (startUp start).1
            cases still : (panel.serviceControls input).desk.menu.opened with
            | false => rfl
            | true =>
                obtain before | wasLong := opens still
                · rw [opened] at before
                  cases before
                · rw [wasLong] at none
                  cases none

/-- A press goes on, and may be reported long. -/
theorem Pass.hold {panel : Panel} {input : PanelInput} {told : Option ControlsPress} {press : Press}
    (pass : panel.Pass input told) (later : panel.begins input = false)
    (down : (panel.sampled input).buttonDown = true) (before : panel.Told press)
    (has : panel.Has press)
    (reporting : told = none ∧
        (panel.sampled input).longReported = panel.controls.longReported ∨
      told = some .long ∧ panel.controls.longReported = false ∧
        (panel.sampled input).longReported = true) :
    let next := { press with
      reports := panel.reported input ++ press.reports
      effects := panel.done input ++ press.effects }
    (panel.serviceControls input).Told next ∧ (panel.serviceControls input).Has next := by
  obtain ⟨controls, -, -, sameSpent, sameMenu⟩ := panel.serviceControls_keeps input
  obtain ⟨spent, menuPress⟩ := follow_later later
  have done := pass.done (by rw [later, Bool.false_and])
  rw [pass.reported]
  refine ⟨⟨fun notStart => ?_, fun start => ?_⟩, ?_⟩
  · obtain ⟨rfl, same⟩ | ⟨rfl, was, now⟩ := reporting
    · rw [controls, same]
      exact before.reports notStart
    · rw [controls, now]
      have none := before.reports notStart
      rw [was] at none
      exact congrArg (.long :: ·) none
  · obtain ⟨none, long⟩ := before.startUp start
    obtain ⟨rfl, same⟩ | ⟨rfl, was, -⟩ := reporting
    · rw [controls, same]
      exact ⟨none, long⟩
    · rw [long] at was
      cases was
  cases has with
  | alarm place nowSpent effects quiet =>
      obtain ⟨notClock, nothing, still⟩ := pass.alarm (spent.trans nowSpent) quiet
      refine .alarm place (sameSpent.trans (spent.trans nowSpent)) ?_ still
      rw [done, notClock, nothing]
      exact effects
  | menu actions place fresh isMenu started effects timing wasDown =>
      obtain ⟨notClock, held, -⟩ := pass.menu (spent.trans fresh) (menuPress.trans isMenu) timing
      refine .menu (withAction (panel.action input) actions) place
        (sameSpent.trans (spent.trans fresh)) (sameMenu.trans (menuPress.trans isMenu)) started ?_
        (held down).1 (held down).2
      rw [done, notClock, effects]
      exact List.map_append.symm.trans (congrArg _ (withAction_append _ actions))
  | clock place fresh other effects early waits =>
      have notYet : told.isSome → panel.desk.menu.opened = false := by
        obtain ⟨rfl, -⟩ | ⟨rfl, was, -⟩ := reporting
        · exact fun some => (by cases some)
        · exact fun _ => early (.inl was)
      obtain ⟨forClock, nothing, opens, waiting, -⟩ :=
        pass.clock (spent.trans fresh) (menuPress.trans other) notYet waits
      refine .clock place (sameSpent.trans (spent.trans fresh)) (sameMenu.trans (menuPress.trans other))
        ?_ (fun notLong => ?_) (waiting down)
      · rw [done, forClock, nothing, effects, List.map_append]
        cases told <;> rfl
      · rw [controls] at notLong
        obtain ⟨none, was⟩ : told = none ∧
            (panel.controls.longReported = false ∨ press.startUp = true) := by
          obtain ⟨none, same⟩ | ⟨-, was, now⟩ := reporting
          · exact ⟨none, same ▸ notLong⟩
          · obtain notNow | start := notLong
            · rw [now] at notNow
              cases notNow
            · rw [(before.startUp start).2] at was
              cases was
        cases still : (panel.serviceControls input).desk.menu.opened with
        | false => rfl
        | true =>
            obtain wasOpen | long := opens still
            · rw [early was] at wasOpen
              cases wasOpen
            · rw [none] at long
              cases long

/-- A press ends, and is reported short unless it has been reported long. -/
theorem Pass.release {panel : Panel} {input : PanelInput} {told : Option ControlsPress}
    {press : Press} (pass : panel.Pass input told) (later : panel.begins input = false)
    (up : (panel.sampled input).buttonDown = false) (before : panel.Told press)
    (has : panel.Has press)
    (reporting : told = none ∧ panel.controls.longReported = true ∨
      told = some .short ∧ panel.controls.longReported = false) :
    let next := { press with
      reports := panel.reported input ++ press.reports
      effects := panel.done input ++ press.effects }
    next.Complete ∧ (panel.serviceControls input).Quiet := by
  obtain ⟨spent, menuPress⟩ := follow_later later
  have done := pass.done (by rw [later, Bool.false_and])
  rw [pass.reported]
  have once (notStart : press.startUp = false) : (told.toList ++ press.reports).length = 1 := by
    obtain ⟨rfl, was⟩ | ⟨rfl, was⟩ := reporting
    all_goals
      rw [before.reports notStart, was]
      rfl
  have never (start : press.startUp = true) : told.toList ++ press.reports = [] := by
    obtain ⟨none, long⟩ := before.startUp start
    obtain ⟨rfl, -⟩ | ⟨rfl, was⟩ := reporting
    · exact none
    · rw [long] at was
      cases was
  have complete (placed : Press.Placed { press with
        reports := told.toList ++ press.reports, effects := panel.done input ++ press.effects })
      (acted : press.startUp = false → panel.done input ++ press.effects ≠ []) :
      Press.Complete { press with
        reports := told.toList ++ press.reports, effects := panel.done input ++ press.effects } := by
    refine ⟨⟨placed, ?_, never⟩, once, acted⟩
    cases start : press.startUp with
    | false => exact (once start).le
    | true => exact (never start).symm ▸ Nat.zero_le 1
  cases has with
  | alarm place nowSpent effects quiet =>
      obtain ⟨notClock, nothing, still⟩ := pass.alarm (spent.trans nowSpent) quiet
      have same : panel.done input ++ press.effects = [.stopsAlarm] := by
        rw [done, notClock, nothing]
        exact effects
      refine ⟨complete ?_ fun _ => ?_, still⟩
      · rw [Press.Placed, place]
        exact same
      · rw [same]
        exact List.cons_ne_nil _ _
  | menu actions place fresh isMenu started effects timing wasDown =>
      obtain ⟨notClock, -, letGo⟩ := pass.menu (spent.trans fresh) (menuPress.trans isMenu) timing
      obtain ⟨acted, tail, quiet⟩ := letGo up wasDown
      have same : panel.done input ++ press.effects =
          (withAction (panel.action input) actions).map .menu := by
        rw [done, notClock, effects]
        exact List.map_append.symm.trans (congrArg _ (withAction_append _ actions))
      refine ⟨complete ?_ fun _ => ?_, quiet⟩
      · rw [Press.Placed, place]
        exact ⟨_, same, tail⟩
      · rw [same]
        exact fun none => acted (List.map_eq_nil_iff.mp none)
  | clock place fresh other effects early waits =>
      have notYet : told.isSome → panel.desk.menu.opened = false := by
        obtain ⟨rfl, -⟩ | ⟨rfl, was⟩ := reporting
        · exact fun some => (by cases some)
        · exact fun _ => early (.inl was)
      have notLong : told ≠ some .long := by
        obtain ⟨rfl, -⟩ | ⟨rfl, -⟩ := reporting
        · exact fun none => (by cases none)
        · exact fun short => (by cases short)
      obtain ⟨forClock, nothing, -, -, quiet⟩ :=
        pass.clock (spent.trans fresh) (menuPress.trans other) notYet waits
      have same : panel.done input ++ press.effects = (told.toList ++ press.reports).map .clock := by
        rw [done, forClock, nothing, effects, List.map_append]
        cases told <;> rfl
      refine ⟨complete ?_ fun notStart => ?_, quiet up notLong⟩
      · rw [Press.Placed, place]
        exact same
      · rw [same]
        intro none
        have length := once notStart
        rw [List.map_eq_nil_iff.mp none] at length
        cases length

/-- A pass with the button up does nothing. -/
theorem Pass.idle {panel : Panel} {input : PanelInput} (pass : panel.Pass input none)
    (up : (panel.sampled input).buttonDown = false) (quiet : panel.Quiet) :
    panel.reported input = [] ∧ panel.done input = [] ∧ (panel.serviceControls input).Quiet := by
  have silent : (panel.begins input && (panel.switched input).sounding) = false := by
    rw [begins, up, Bool.false_and, Bool.false_and]
  have notClock : (panel.follow input).forClock (panel.served input) = false := pass.forClock
  have away : ((panel.follow input).menuInput input).down = false := by
    rw [menuInput]
    change ((panel.sampled input).buttonDown && _) = false
    rw [up, Bool.false_and]
  obtain ⟨nothing, still⟩ := panel.served_quiet input quiet away
  refine ⟨pass.reported, ?_, ?_⟩
  · rw [pass.done silent, notClock, nothing]
    rfl
  · rw [Quiet, panel.serviceControls_desk input notClock]
    exact still

end Panel

namespace Presses

theorem service_begins {run : Presses} {input : PanelInput} (begins : run.panel.begins input = true) :
    run.service input =
      { panel := run.panel.serviceControls input
        presses :=
          { run.panel.begun input with
            reports := run.panel.reported input ++ []
            effects := run.panel.done input ++ [] } :: run.presses
        stray := run.stray } := by
  rw [service, begins]
  rfl

theorem service_later {run : Presses} {input : PanelInput} {press : Press} {earlier : List Press}
    (later : run.panel.begins input = false) (presses : run.presses = press :: earlier) :
    run.service input =
      { panel := run.panel.serviceControls input
        presses :=
          { press with
            reports := run.panel.reported input ++ press.reports
            effects := run.panel.done input ++ press.effects } :: earlier
        stray := run.stray } := by
  rw [service, later, presses]
  rfl

/-- With nothing reported or done the presses are as they were. -/
theorem service_idle {run : Presses} {input : PanelInput}
    (later : run.panel.begins input = false) (reported : run.panel.reported input = [])
    (done : run.panel.done input = []) :
    run.service input = { run with panel := run.panel.serviceControls input } := by
  rw [service, later, reported, done]
  cases presses : run.presses <;> rfl

/-- A pass that leaves the button up. -/
theorem sound_up {run : Presses} {input : PanelInput} {told : Option ControlsPress}
    (pass : run.panel.Pass input told) (up : (run.panel.sampled input).buttonDown = false)
    (presses : List Press) (complete : ∀ press ∈ presses, press.Complete)
    (quiet : (run.panel.serviceControls input).Quiet) :
    Sound { panel := run.panel.serviceControls input, presses, stray := ([], []) } := by
  obtain ⟨controls, count, wasDown, -, -⟩ := run.panel.serviceControls_keeps input
  refine ⟨by rw [count, controls], by rw [wasDown, controls], ?_, rfl, fun _ => ⟨complete, quiet⟩,
    fun down => ?_⟩
  · rw [controls, pass.reports.started]
    exact fun notStarted => (by cases notStarted)
  · rw [controls, up] at down
    cases down

/-- A pass that leaves the button down. -/
theorem sound_down {run : Presses} {input : PanelInput} {told : Option ControlsPress}
    (pass : run.panel.Pass input told) (down : (run.panel.sampled input).buttonDown = true)
    (press : Press) (earlier : List Press) (complete : ∀ press ∈ earlier, press.Complete)
    (has : (run.panel.serviceControls input).Told press ∧
      (run.panel.serviceControls input).Has press) :
    Sound
      { panel := run.panel.serviceControls input, presses := press :: earlier,
        stray := ([], []) } := by
  obtain ⟨controls, count, wasDown, -, -⟩ := run.panel.serviceControls_keeps input
  refine ⟨by rw [count, controls], by rw [wasDown, controls], ?_, rfl, fun up => ?_,
    fun _ => ⟨press, earlier, rfl, complete, has⟩⟩
  · rw [controls, pass.reports.started]
    exact fun notStarted => (by cases notStarted)
  · rw [controls, down] at up
    cases up

theorem Sound.idle {run : Presses} (sound : run.Sound) {input : PanelInput}
    (pass : run.panel.Pass input none) (was : run.panel.controls.buttonDown = false)
    (up : (run.panel.sampled input).buttonDown = false) : (run.service input).Sound := by
  obtain ⟨complete, quiet⟩ := sound.up was
  obtain ⟨reported, done, still⟩ := pass.idle up quiet
  rw [service_idle (by rw [Panel.begins, up, Bool.false_and]) reported done, sound.stray]
  exact sound_up pass up _ complete still

theorem Sound.begin {run : Presses} (sound : run.Sound) {input : PanelInput}
    {told : Option ControlsPress} (pass : run.panel.Pass input told)
    (was : run.panel.controls.buttonDown = false)
    (down : (run.panel.sampled input).buttonDown = true)
    (long : told = none ∨ told = some .long)
    (reported : run.panel.controls.started = true →
      told.toList = if (run.panel.sampled input).longReported then [.long] else [])
    (startUp : run.panel.controls.started = false →
      told.toList = [] ∧ (run.panel.sampled input).longReported = true) :
    (run.service input).Sound := by
  obtain ⟨complete, quiet⟩ := sound.up was
  have begins : run.panel.begins input = true := by
    rw [Panel.begins, down, sound.wasDown, was]
    rfl
  rw [service_begins begins, sound.stray]
  refine sound_down pass down _ _ complete (pass.begin begins quiet (fun start => ?_) long
    (fun notStart => ?_) (fun start => ?_))
  · exact (sound.first ((Bool.not_eq_true' _).mp start)).2.2
  · exact reported ((Bool.not_eq_false' _).mp notStart)
  · exact startUp ((Bool.not_eq_true' _).mp start)

theorem service_sound {run : Presses} (sound : run.Sound) (input : PanelInput) :
    (run.service input).Sound := by
  cases started : run.panel.controls.started with
  | false =>
      obtain ⟨was, -, -⟩ := sound.first started
      obtain ⟨level, long, starts, count⟩ := run.panel.controls.service_first input.menu.nowMs
        input.buttonPressed input.switchOn started
      have pass : run.panel.Pass input none :=
        ⟨sound.seen, starts, count.trans (add_zero _).symm, fun _ none => (by cases none)⟩
      cases pressed : input.buttonPressed with
      | false => exact sound.idle pass was (level.trans pressed)
      | true =>
          refine sound.begin pass was (level.trans pressed) (.inl rfl) (fun already => ?_)
            fun _ => ⟨rfl, long.trans pressed⟩
          rw [started] at already
          cases already
  | true =>
      obtain ⟨told, reporting, reports⟩ := run.panel.controls.service_reports input.menu.nowMs
        input.buttonPressed input.switchOn started
      have pass : run.panel.Pass input told := ⟨sound.seen, reports⟩
      have same : run.panel.controls.service input.menu.nowMs input.buttonPressed input.switchOn =
        run.panel.sampled input := rfl
      rw [same] at reporting
      have already {property : Prop} (not : run.panel.controls.started = false) : property := by
        rw [started] at not
        cases not
      have later (down : run.panel.controls.buttonDown = true) :
          run.panel.begins input = false := by
        rw [Panel.begins, sound.wasDown, down, Bool.not_true, Bool.and_false]
      generalize wasDown : run.panel.controls.buttonDown = was at reporting
      generalize wasLong : run.panel.controls.longReported = long at reporting
      generalize nowDown : (run.panel.sampled input).buttonDown = now at reporting
      generalize nowLong : (run.panel.sampled input).longReported = nowReported at reporting
      cases reporting with
      | up => exact sound.idle pass wasDown nowDown
      | begins =>
          exact sound.begin pass wasDown nowDown (.inl rfl) (fun _ => by rw [nowLong]; rfl) already
      | beginsLong =>
          exact sound.begin pass wasDown nowDown (.inr rfl) (fun _ => by rw [nowLong]; rfl) already
      | down =>
          obtain ⟨press, earlier, presses, complete, told, has⟩ := sound.down wasDown
          rw [service_later (later wasDown) presses, sound.stray]
          exact sound_down pass nowDown _ _ complete
            (pass.hold (later wasDown) nowDown told has (.inl ⟨rfl, nowLong.trans wasLong.symm⟩))
      | long =>
          obtain ⟨press, earlier, presses, complete, told, has⟩ := sound.down wasDown
          rw [service_later (later wasDown) presses, sound.stray]
          exact sound_down pass nowDown _ _ complete
            (pass.hold (later wasDown) nowDown told has (.inr ⟨rfl, wasLong, nowLong⟩))
      | short =>
          obtain ⟨press, earlier, presses, complete, told, has⟩ := sound.down wasDown
          obtain ⟨ended, quiet⟩ :=
            pass.release (later wasDown) nowDown told has (.inr ⟨rfl, wasLong⟩)
          rw [service_later (later wasDown) presses, sound.stray]
          exact sound_up pass nowDown _ (List.forall_mem_cons.mpr ⟨ended, complete⟩) quiet
      | ends =>
          obtain ⟨press, earlier, presses, complete, told, has⟩ := sound.down wasDown
          obtain ⟨ended, quiet⟩ :=
            pass.release (later wasDown) nowDown told has (.inl ⟨rfl, wasLong⟩)
          rw [service_later (later wasDown) presses, sound.stray]
          exact sound_up pass nowDown _ (List.forall_mem_cons.mpr ⟨ended, complete⟩) quiet

/-- What is done at the desk elsewhere leaves the menu's notes of the button. -/
theorem act_notes (desk : Desk) (act : DeskAct) (run : Presses) (admitted : run.Admits (.desk act)) :
    (desk.act act).menu.opened = desk.menu.opened ∧ (desk.act act).latches = desk.latches := by
  cases act with
  | service | menuOpen => exact admitted.elim
  | epoch | settingsWrite | restoreDefaults | setDebug | save | saved | resync | setLeap =>
      exact ⟨rfl, rfl⟩

/-- `Sound` is about the controls, who has the press, and the menu's notes. -/
theorem Sound.same {run other : Presses} (sound : run.Sound)
    (controls : other.panel.controls = run.panel.controls)
    (presses : other.panel.presses = run.panel.presses)
    (wasDown : other.panel.wasDown = run.panel.wasDown)
    (spent : other.panel.spent = run.panel.spent)
    (menuPress : other.panel.menuPress = run.panel.menuPress)
    (opened : other.panel.desk.menu.opened = run.panel.desk.menu.opened)
    (notes : other.panel.desk.latches = run.panel.desk.latches)
    (all : other.presses = run.presses) (stray : other.stray = run.stray) : other.Sound := by
  have quiet (still : run.panel.Quiet) : other.panel.Quiet := by
    rw [Panel.Quiet, opened, notes]
    exact still
  refine ⟨by rw [presses, controls, sound.seen], by rw [wasDown, controls, sound.wasDown], ?_,
    stray.trans sound.stray, fun up => ?_, fun down => ?_⟩
  · rw [controls, opened]
    exact sound.first
  · rw [controls] at up
    rw [all]
    exact ⟨(sound.up up).1, quiet (sound.up up).2⟩
  · rw [controls] at down
    obtain ⟨press, earlier, is, complete, told, has⟩ := sound.down down
    refine ⟨press, earlier, all.trans is, complete,
      ⟨by rw [controls]; exact told.reports, by rw [controls]; exact told.startUp⟩, ?_⟩
    cases has with
    | alarm place nowSpent effects still =>
        exact .alarm place (spent.trans nowSpent) effects (quiet still)
    | menu actions place fresh isMenu started effects timing held =>
        refine .menu actions place (spent.trans fresh) (menuPress.trans isMenu) started effects ?_ ?_
        · rw [opened, notes]
          exact timing
        · rw [opened, notes]
          exact held
    | clock place fresh isOther effects early waits =>
        refine .clock place (spent.trans fresh) (menuPress.trans isOther) effects ?_ ?_
        · rw [controls, opened]
          exact early
        · rw [opened, notes]
          exact waits

theorem act_sound {run : Presses} (sound : run.Sound) (act : PanelAct) (admitted : run.Admits act) :
    (run.act act).Sound := by
  cases act with
  | service input => exact service_sound sound input
  | alarmEpoch | alarmSet => exact sound.same rfl rfl rfl rfl rfl rfl rfl rfl rfl
  | desk act =>
      obtain ⟨opened, notes⟩ := act_notes run.panel.desk act run admitted
      exact sound.same rfl rfl rfl rfl rfl opened notes rfl rfl

theorem sound_invariant : machine.Invariant Admits Sound where
  start run fresh := by
    have up : run.panel.controls.buttonDown = false := by rw [fresh.controls]; rfl
    have closed : run.panel.desk.menu.opened = false := by rw [fresh.menu]
    refine ⟨by rw [fresh.presses, fresh.controls], by rw [fresh.wasDown, up], fun _ => ⟨up, ?_, closed⟩,
      fresh.stray, fun _ => ⟨?_, fun opened => ?_⟩, fun down => ?_⟩
    · rw [fresh.controls]
    · rw [fresh.none]
      exact fun press none => (by cases none)
    · rw [closed] at opened
      cases opened
    · rw [up] at down
      cases down
  step _ act sound admitted := act_sound sound act admitted

/-- A pass at a moment, with the button as it is. -/
def passAt (nowMs : BitVec 32) (pressed : Bool) : PanelAct :=
  .service { buttonPressed := pressed, switchOn := false, menu := callAt nowMs false }

/-- The panel with the defaults. -/
def panelDefaults : Panel where
  desk :=
    { menu := {}
      settings :=
        { running := { body := settingsDefaults, debugMask := 0 }
          stored := { body := settingsDefaults, debugMask := 0 }
          revision := 0
          haveRecord := false
          saveRequested := false
          saveError := .none }
      sync := {} }

end Presses

end GpsClock.Ui
