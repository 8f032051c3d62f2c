import GpsClock.Lib.Machine

/-! # The alarm

`alarm.c`: each second the latest alarm moment at or before now is compared with the second
before, and sounds unless it has sounded for that day. Through the changes of the clocks it
sounds once a day, at the first second at or past its moment (`AlarmRun.once_a_day`), as long
as they do not add up to a day.
-/

namespace GpsClock.Ui

/-- `BuzzerPriority`. -/
inductive BuzzerPriority
  | none
  | button
  | chime
  | alarm
  deriving DecidableEq, Repr

/-- The enumeration's values. -/
def BuzzerPriority.rank : BuzzerPriority → Nat
  | none => 0
  | button => 1
  | chime => 2
  | alarm => 3

structure BuzzerPattern where
  onMs : BitVec 16
  gapMs : BitVec 16
  group : BitVec 8
  pauseMs : BitVec 16
  repeats : Bool
  deriving DecidableEq, Repr

/-- `buzzer_alarm`. -/
def buzzerAlarm : BuzzerPattern where
  onMs := 100
  gapMs := 100
  group := 4
  pauseMs := 500
  repeats := true

/-- What the buzzer plays. -/
structure Buzzer where
  playing : BuzzerPriority := .none
  pattern : Option BuzzerPattern := none
  count : BitVec 8 := 0
  deriving DecidableEq, Repr

/-- `buzzer_play`, and whether it plays. -/
def Buzzer.play (buzzer : Buzzer) (pattern : BuzzerPattern) (count : BitVec 8)
    (priority : BuzzerPriority) : Bool × Buzzer :=
  if count = 0 ∨ pattern.onMs = 0 then (false, buzzer)
  else if priority.rank < buzzer.playing.rank then (false, buzzer)
  else (true, { playing := priority, pattern := some pattern, count := count })

/-- `buzzer_stop`. -/
def Buzzer.stop (buzzer : Buzzer) (priority : BuzzerPriority) : Buzzer :=
  if buzzer.playing = .none ∨ priority.rank < buzzer.playing.rank then buzzer
  else { buzzer with playing := .none, pattern := none }

/-- `SECONDS_PER_DAY`. -/
def secondsPerDay : BitVec 32 := 86400

/-- `ALARM_SOUND_S`. -/
def alarmSoundS : Nat := 120

/-- `ALARM_CATCH_UP_S`. -/
def alarmCatchUpS : BitVec 32 := 7200

structure AlarmStats where
  sounded : BitVec 32 := 0
  stoppedByButton : BitVec 32 := 0
  stoppedBySwitch : BitVec 32 := 0
  timedOut : BitVec 32 := 0
  deriving DecidableEq, Repr

/-- The alarm's statics and the buzzer; as it stands, what `alarm_init` leaves. -/
structure Alarm where
  enabled : Bool := false
  timeOfDay : BitVec 32 := 0
  switchOn : Bool := false
  sounding : Bool := false
  soundingEpochs : BitVec 16 := 0
  haveLast : Bool := false
  lastLocal : BitVec 32 := 0
  fired : Bool := false
  firedDay : BitVec 32 := 0
  stats : AlarmStats := {}
  buzzer : Buzzer := {}
  deriving DecidableEq, Repr

namespace Alarm

/-- `stop`, on the counter given. -/
def stop (alarm : Alarm) (count : AlarmStats → AlarmStats) : Alarm :=
  if alarm.sounding then
    { alarm with
      sounding := false
      buzzer := alarm.buzzer.stop .alarm
      stats := count alarm.stats }
  else alarm

def countSwitch (stats : AlarmStats) : AlarmStats :=
  { stats with stoppedBySwitch := stats.stoppedBySwitch + 1 }

def countButton (stats : AlarmStats) : AlarmStats :=
  { stats with stoppedByButton := stats.stoppedByButton + 1 }

def countTimedOut (stats : AlarmStats) : AlarmStats :=
  { stats with timedOut := stats.timedOut + 1 }

/-- `alarm_set`. -/
def set (alarm : Alarm) (on : Bool) (timeOfDayS : BitVec 32) : Alarm :=
  if secondsPerDay ≤ timeOfDayS then alarm
  else
    let alarm :=
      { alarm with
        fired := if timeOfDayS ≠ alarm.timeOfDay then false else alarm.fired
        enabled := on
        timeOfDay := timeOfDayS }
    if on then alarm else alarm.stop countSwitch

/-- `alarm_set_switch`. -/
def setSwitch (alarm : Alarm) (on : Bool) : Alarm :=
  let alarm := { alarm with switchOn := on }
  if on then alarm else alarm.stop countSwitch

/-- `alarm_press`, and whether the press is spent. -/
def press (alarm : Alarm) : Bool × Alarm :=
  if alarm.sounding then (true, alarm.stop countButton) else (false, alarm)

/-- The last lines of `reached`: the moment's day, unless it passed before or has sounded. -/
def due (alarm : Alarm) (moment : BitVec 32) : Option (BitVec 32) :=
  let momentDay := moment / secondsPerDay
  if alarm.lastLocal < moment ∧ ¬(alarm.fired = true ∧ alarm.firedDay = momentDay) then
    some momentDay
  else none

/-- `reached`: the day of the alarm's moment that has just passed. -/
def reached (alarm : Alarm) (localSeconds : BitVec 32) : Option (BitVec 32) :=
  if ¬alarm.haveLast = true ∨ localSeconds ≤ alarm.lastLocal ∨
      alarmCatchUpS < localSeconds - alarm.lastLocal then none
  else
    let moment := localSeconds - localSeconds % secondsPerDay + alarm.timeOfDay
    if localSeconds < moment then
      if moment < secondsPerDay then none else alarm.due (moment - secondsPerDay)
    else alarm.due moment

/-- The first lines of `alarm_epoch`: it has sounded for one more epoch. -/
def soundOn (alarm : Alarm) : Alarm :=
  if alarm.sounding then
    let alarm := { alarm with soundingEpochs := alarm.soundingEpochs + 1 }
    if alarmSoundS ≤ alarm.soundingEpochs.toNat then alarm.stop countTimedOut else alarm
  else alarm

/-- It starts sounding, for a day. -/
def sound (alarm : Alarm) (day : BitVec 32) : Alarm :=
  let played := alarm.buzzer.play buzzerAlarm buzzerAlarm.group .alarm
  { alarm with
    sounding := played.1
    buzzer := played.2
    soundingEpochs := 0
    fired := true
    firedDay := day
    stats := { alarm.stats with sounded := alarm.stats.sounded + 1 } }

/-- It starts sounding if its moment has just passed. -/
def goOff (alarm : Alarm) (localSeconds : BitVec 32) : Alarm :=
  if alarm.enabled = true ∧ alarm.switchOn = true ∧ alarm.sounding = false then
    match alarm.reached localSeconds with
    | some day => alarm.sound day
    | none => alarm
  else alarm

/-- `alarm_epoch`. -/
def epoch (alarm : Alarm) (known : Bool) (localSeconds : BitVec 32) : Alarm :=
  let alarm := alarm.soundOn
  if known then
    { alarm.goOff localSeconds with
      lastLocal := localSeconds
      haveLast := true }
  else { alarm with haveLast := false }

end Alarm

/-! ## Runs of known time -/

/-- An alarm, the local seconds it has been given and the days it has started sounding for:
the latest first. -/
structure AlarmRun where
  alarm : Alarm
  seconds : List Nat := []
  starts : List Nat := []
  deriving DecidableEq, Repr

/-- What happens to an armed alarm: an epoch, a press of the button, its settings and the
switch as they are, and whatever else the buzzer plays or ends. -/
inductive AlarmAct
  | epoch (localSeconds : BitVec 32)
  | press
  | set
  | switch
  | buzz (buzzer : Buzzer)
  deriving DecidableEq, Repr

namespace AlarmRun

/-- One more second. -/
def epoch (run : AlarmRun) (localSeconds : BitVec 32) : AlarmRun :=
  let alarm := run.alarm.epoch true localSeconds
  { alarm := alarm
    seconds := localSeconds.toNat :: run.seconds
    starts :=
      if run.alarm.soundOn.sounding = false ∧ alarm.sounding = true then
        alarm.firedDay.toNat :: run.starts
      else run.starts }

def act (run : AlarmRun) : AlarmAct → AlarmRun
  | .epoch localSeconds => run.epoch localSeconds
  | .press => { run with alarm := run.alarm.press.2 }
  | .set => { run with alarm := run.alarm.set true run.alarm.timeOfDay }
  | .switch => { run with alarm := run.alarm.setSwitch true }
  | .buzz buzzer => { run with alarm := { run.alarm with buzzer := buzzer } }

/-- An alarm armed, that has not sounded and has not seen a second. -/
structure Armed (run : AlarmRun) : Prop where
  enabled : run.alarm.enabled = true
  switchOn : run.alarm.switchOn = true
  time : run.alarm.timeOfDay.toNat < 86400
  silent : run.alarm.sounding = false
  fresh : run.alarm.fired = false
  first : run.alarm.haveLast = false
  seconds : run.seconds = []
  starts : run.starts = []

def machine : Machine AlarmRun AlarmAct where
  start := Armed
  step := act

/-- Each second is one or none after the last or a change of two hours at most, a day or more
after none, not more than twenty-two hours after one of the last two minutes, and before the
last, short day of 32 bits. -/
def Admits (run : AlarmRun) : AlarmAct → Prop
  | .epoch localSeconds =>
      localSeconds.toNat < 49710 * 86400 ∧
        (∀ last ∈ run.seconds.head?,
          localSeconds.toNat ≤ last + 7200 ∧ last ≤ localSeconds.toNat + 7200) ∧
        (∀ earlier ∈ run.seconds, earlier < localSeconds.toNat + 86400) ∧
        ∀ recent ∈ run.seconds.take 119, localSeconds.toNat ≤ recent + 79200
  | _ => True

instance (run : AlarmRun) : ∀ act, Decidable (Admits run act)
  | .epoch _ => inferInstanceAs (Decidable (_ ∧ _ ∧ _ ∧ _))
  | .press | .set | .switch | .buzz _ => .isTrue trivial

instance (run : AlarmRun) : ∀ act, Decidable (Admits run act)
  | .epoch _ => inferInstanceAs (Decidable (_ ∧ _ ∧ _ ∧ _))
  | .press | .set | .switch | .buzz _ => .isTrue trivial

end AlarmRun

/-! ## The moment that has passed -/

namespace Alarm

variable {alarm : Alarm} {localSeconds moment day : BitVec 32} {number : Nat}

/-- A day's alarm moment. -/
def momentOf (alarm : Alarm) (number : Nat) : Nat :=
  number * 86400 + alarm.timeOfDay.toNat

theorem due_eq_some_iff (time : alarm.timeOfDay.toNat < 86400)
    (at_moment : moment.toNat = alarm.momentOf number) :
    alarm.due moment = some day ↔
      alarm.lastLocal.toNat < alarm.momentOf day.toNat ∧ day.toNat = number ∧
        ¬(alarm.fired = true ∧ alarm.firedDay = day) := by
  have shown : (moment / secondsPerDay).toNat = number := by
    rw [BitVec.toNat_udiv, at_moment, momentOf]
    change (number * 86400 + alarm.timeOfDay.toNat) / 86400 = number
    omega
  rw [due]
  constructor
  · intro some
    split at some
    · rename_i passed
      cases some
      rw [shown, ← at_moment]
      exact ⟨passed.1, rfl, passed.2⟩
    · cases some
  · rintro ⟨after, same, unsounded⟩
    have same : moment / secondsPerDay = day := BitVec.eq_of_toNat_eq (shown.trans same.symm)
    rw [same] at shown ⊢
    rw [shown, ← at_moment] at after
    exact if_pos ⟨after, unsounded⟩

/-- Within two hours of the second before, the moment reached is the one passed in between,
of a day it has not just sounded for. -/
theorem reached_eq_some_iff (seen : alarm.haveLast = true)
    (time : alarm.timeOfDay.toNat < 86400) (fits : localSeconds.toNat < 49710 * 86400)
    (near : localSeconds.toNat ≤ alarm.lastLocal.toNat + 7200) :
    alarm.reached localSeconds = some day ↔
      alarm.lastLocal.toNat < alarm.momentOf day.toNat ∧
        alarm.momentOf day.toNat ≤ localSeconds.toNat ∧
        ¬(alarm.fired = true ∧ alarm.firedDay = day) := by
  rw [reached]
  by_cases back : localSeconds ≤ alarm.lastLocal
  · rw [if_pos (.inr (.inl back))]
    have back : localSeconds.toNat ≤ alarm.lastLocal.toNat := back
    refine iff_of_false (fun wrong => ?_) fun passed => ?_
    · cases wrong
    · omega
  have onward : alarm.lastLocal.toNat < localSeconds.toNat := Nat.lt_of_not_le back
  have caught : ¬alarmCatchUpS < localSeconds - alarm.lastLocal := by
    rw [BitVec.lt_def, BitVec.toNat_sub_of_le (BitVec.le_def.mpr onward.le)]
    change ¬7200 < localSeconds.toNat - alarm.lastLocal.toNat
    omega
  rw [if_neg (not_or.mpr ⟨not_not.mpr seen, not_or.mpr ⟨back, caught⟩⟩)]
  have day_start : (localSeconds - localSeconds % secondsPerDay).toNat =
      localSeconds.toNat / 86400 * 86400 := by
    rw [BitVec.toNat_sub_of_le, BitVec.toNat_umod]
    · change localSeconds.toNat - localSeconds.toNat % 86400 = _
      omega
    · rw [BitVec.le_def, BitVec.toNat_umod]
      exact Nat.mod_le _ _
  have today : (localSeconds - localSeconds % secondsPerDay + alarm.timeOfDay).toNat =
      alarm.momentOf (localSeconds.toNat / 86400) := by
    rw [BitVec.toNat_add, day_start, momentOf]
    apply Nat.mod_eq_of_lt
    omega
  dsimp only
  generalize localSeconds - localSeconds % secondsPerDay + alarm.timeOfDay = moment at today ⊢
  by_cases ahead : localSeconds < moment
  · rw [if_pos ahead]
    have ahead : localSeconds.toNat < moment.toNat := ahead
    by_cases first : moment < secondsPerDay
    · rw [if_pos first]
      have first : moment.toNat < 86400 := first
      refine iff_of_false (fun wrong => ?_) fun passed => ?_
      · cases wrong
      · rw [momentOf] at today passed
        omega
    · rw [if_neg first]
      have later : secondsPerDay ≤ moment := BitVec.not_lt.mp first
      have far : 86400 ≤ moment.toNat := later
      have yesterday : (moment - secondsPerDay).toNat =
          alarm.momentOf (localSeconds.toNat / 86400 - 1) := by
        rw [BitVec.toNat_sub_of_le later, momentOf]
        rw [momentOf] at today
        change moment.toNat - 86400 = _
        omega
      rw [due_eq_some_iff time yesterday]
      refine and_congr_right fun after => and_congr_left fun _ => ?_
      rw [momentOf] at after today ⊢
      omega
  · rw [if_neg ahead]
    have passed : moment.toNat ≤ localSeconds.toNat := Nat.le_of_not_lt ahead
    rw [due_eq_some_iff time today]
    refine and_congr_right fun after => and_congr_left fun _ => ?_
    rw [momentOf] at after today ⊢
    omega

/-- The alarm is played whatever else is playing. -/
theorem play_alarm (buzzer : Buzzer) :
    (buzzer.play buzzerAlarm buzzerAlarm.group .alarm).1 = true := by
  have sounds : ¬(buzzerAlarm.group = 0 ∨ buzzerAlarm.onMs = 0) := by decide
  have highest : ¬BuzzerPriority.alarm.rank < buzzer.playing.rank := by
    cases buzzer.playing with
    | none => exact Nat.not_lt_zero 3
    | button => exact Nat.not_lt.mpr (Nat.le_add_left 1 2)
    | chime => exact Nat.not_lt.mpr (Nat.le_add_left 2 1)
    | alarm => exact lt_irrefl 3
  rw [Buzzer.play, if_neg sounds, if_neg highest]

theorem stop_eq (alarm : Alarm) (count : AlarmStats → AlarmStats) :
    ∃ buzzer stats, alarm.stop count =
      { alarm with sounding := false, buzzer := buzzer, stats := stats } := by
  rw [stop]
  split
  · exact ⟨_, _, rfl⟩
  · rename_i silent
    have silent := Bool.eq_false_iff.mpr silent
    rw [← silent]
    exact ⟨_, _, rfl⟩

/-- An epoch on, it still sounds only where it has for less than two minutes. -/
theorem soundOn_eq (alarm : Alarm) :
    ∃ sounding epochs buzzer stats, alarm.soundOn =
        { alarm with
          sounding := sounding
          soundingEpochs := epochs
          buzzer := buzzer
          stats := stats } ∧
      (sounding = true → alarm.sounding = true ∧ epochs = alarm.soundingEpochs + 1 ∧
        epochs.toNat < 120) := by
  rw [soundOn]
  by_cases sounding : alarm.sounding = true
  · rw [if_pos sounding]
    dsimp only
    split
    · obtain ⟨buzzer, stats, stopped⟩ :=
        stop_eq { alarm with soundingEpochs := alarm.soundingEpochs + 1 } countTimedOut
      refine ⟨false, _, buzzer, stats, stopped, fun wrong => ?_⟩
      cases wrong
    · rename_i short
      exact ⟨_, _, _, _, rfl, fun _ => ⟨sounding, rfl, Nat.lt_of_not_le short⟩⟩
  · rw [if_neg sounding]
    exact ⟨_, _, _, _, rfl, fun wrong => absurd wrong sounding⟩

/-- Counting the epochs it sounds changes nothing of what is reached. -/
theorem soundOn_reached (alarm : Alarm) (localSeconds : BitVec 32) :
    alarm.soundOn.reached localSeconds = alarm.reached localSeconds := by
  obtain ⟨sounding, epochs, buzzer, stats, on, -⟩ := alarm.soundOn_eq
  rw [on]
  rfl

theorem reached_unseen (unseen : alarm.haveLast = false) : alarm.reached localSeconds = none :=
  if_pos (.inl (Bool.eq_false_iff.mp unseen))

/-- An armed alarm starts sounding exactly where it is silent and its moment is reached. -/
theorem epoch_cases (enabled : alarm.enabled = true) (switchOn : alarm.switchOn = true) :
    (alarm.soundOn.sounding = false ∧ ∃ day, alarm.soundOn.reached localSeconds = some day ∧
      alarm.epoch true localSeconds =
        { alarm.soundOn.sound day with lastLocal := localSeconds, haveLast := true }) ∨
    ((alarm.soundOn.sounding = true ∨ alarm.soundOn.reached localSeconds = none) ∧
      alarm.epoch true localSeconds =
        { alarm.soundOn with lastLocal := localSeconds, haveLast := true }) := by
  obtain ⟨sounding, epochs, buzzer, stats, on, -⟩ := alarm.soundOn_eq
  have enabled : alarm.soundOn.enabled = true := by
    rw [on]
    exact enabled
  have switchOn : alarm.soundOn.switchOn = true := by
    rw [on]
    exact switchOn
  rw [epoch, if_pos rfl, goOff]
  cases silent : alarm.soundOn.sounding with
  | true => exact .inr ⟨.inl rfl, by rw [if_neg fun all => by cases all.2.2]⟩
  | false =>
      rw [if_pos ⟨enabled, switchOn, rfl⟩]
      cases passed : alarm.soundOn.reached localSeconds with
      | none => exact .inr ⟨.inr rfl, rfl⟩
      | some day => exact .inl ⟨rfl, day, rfl, rfl⟩

end Alarm

/-! ## Once a day -/

namespace AlarmRun

/-- What an armed run keeps: the last second and the last day sounded are the alarm's own, the
days are sounded for in order and only once reached, and while it sounds the epoch it started
in is as many seconds back as it has counted. -/
structure Kept (run : AlarmRun) : Prop where
  enabled : run.alarm.enabled = true
  switchOn : run.alarm.switchOn = true
  time : run.alarm.timeOfDay.toNat < 86400
  seen : run.seconds.head? =
    if run.alarm.haveLast then some run.alarm.lastLocal.toNat else none
  latest : run.starts.head? = if run.alarm.fired then some run.alarm.firedDay.toNat else none
  fallen : ∀ last ∈ run.seconds.head?, ∀ earlier ∈ run.seconds, earlier < last + 86400
  once : run.starts.Pairwise (· > ·)
  passed : ∀ day ∈ run.starts, ∃ second ∈ run.seconds, run.alarm.momentOf day ≤ second
  sounding : run.alarm.sounding = true →
    run.alarm.soundingEpochs.toNat < 120 ∧ ∃ second day,
      run.seconds[run.alarm.soundingEpochs.toNat]? = some second ∧
        run.starts.head? = some day ∧ second < run.alarm.momentOf day + 7200

variable {run other : AlarmRun} {localSeconds : BitVec 32}

/-- What is kept but for the sounding, which may end. -/
theorem Kept.quieten (kept : run.Kept) (count : AlarmStats → AlarmStats) :
    { run with alarm := run.alarm.stop count }.Kept := by
  obtain ⟨buzzer, stats, stopped⟩ := run.alarm.stop_eq count
  rw [stopped]
  exact ⟨kept.enabled, kept.switchOn, kept.time, kept.seen, kept.latest, kept.fallen, kept.once,
    kept.passed, fun wrong => absurd wrong Bool.false_ne_true⟩

theorem Kept.press (kept : run.Kept) : { run with alarm := run.alarm.press.2 }.Kept := by
  rw [Alarm.press]
  split
  · exact kept.quieten Alarm.countButton
  · exact kept

theorem Kept.set (kept : run.Kept) :
    { run with alarm := run.alarm.set true run.alarm.timeOfDay }.Kept := by
  have time : ¬secondsPerDay ≤ run.alarm.timeOfDay := BitVec.not_le.mpr kept.time
  rw [Alarm.set, if_neg time, if_pos rfl, if_neg (not_not.mpr rfl)]
  exact ⟨rfl, kept.switchOn, kept.time, kept.seen, kept.latest, kept.fallen, kept.once,
    kept.passed, kept.sounding⟩

theorem Kept.switch (kept : run.Kept) :
    { run with alarm := run.alarm.setSwitch true }.Kept := by
  rw [Alarm.setSwitch, if_pos rfl]
  exact ⟨kept.enabled, rfl, kept.time, kept.seen, kept.latest, kept.fallen, kept.once,
    kept.passed, kept.sounding⟩

/-- The moment reached is one passed since the last second, of a day other than the last. -/
theorem Kept.reached_iff (kept : run.Kept) (admitted : Admits run (.epoch localSeconds))
    (day : BitVec 32) :
    run.alarm.soundOn.reached localSeconds = some day ↔
      (∃ last ∈ run.seconds.head?, last < run.alarm.momentOf day.toNat) ∧
        run.alarm.momentOf day.toNat ≤ localSeconds.toNat ∧
        run.starts.head? ≠ some day.toNat := by
  obtain ⟨fits, near, -, -⟩ := admitted
  have seen := kept.seen
  have latest := kept.latest
  have unsounded : ¬(run.alarm.fired = true ∧ run.alarm.firedDay = day) ↔
      run.starts.head? ≠ some day.toNat := by
    rw [latest, not_iff_not]
    constructor
    · rintro ⟨fired, same⟩
      rw [if_pos fired, same]
    · intro same
      split at same
      · rename_i fired
        exact ⟨fired, BitVec.eq_of_toNat_eq (Option.some.inj same)⟩
      · cases same
  rw [Alarm.soundOn_reached]
  cases haveLast : run.alarm.haveLast with
  | false =>
      rw [haveLast] at seen
      rw [Alarm.reached_unseen haveLast, seen]
      refine iff_of_false (fun wrong => ?_) fun wrong => ?_
      · cases wrong
      · obtain ⟨⟨last, head, -⟩, -⟩ := wrong
        cases head
  | true =>
      rw [haveLast, if_pos rfl] at seen
      rw [Alarm.reached_eq_some_iff haveLast kept.time fits (near _ seen).1]
      rw [← unsounded, seen]
      refine and_congr ⟨fun after => ⟨_, rfl, after⟩, fun after => ?_⟩ Iff.rfl
      obtain ⟨last, same, after⟩ := after
      cases same
      exact after

/-- What the alarm starts on is later than all it has started on. -/
theorem Kept.later (kept : run.Kept) {number last : Nat} (head : last ∈ run.seconds.head?)
    (after : last < run.alarm.momentOf number) (new : run.starts.head? ≠ some number) :
    ∀ day ∈ run.starts, day < number := by
  have reach : ∀ day ∈ run.starts, day ≤ number := by
    intro day member
    obtain ⟨second, seen, passed⟩ := kept.passed day member
    have fallen := kept.fallen last head second seen
    rw [Alarm.momentOf] at passed after
    omega
  cases starts : run.starts with
  | nil =>
      intro day member
      cases member
  | cons latest earlier =>
      have once := kept.once
      rw [starts] at once new reach
      have below := lt_of_le_of_ne (reach latest (.head _)) fun same => new (congrArg some same)
      intro day member
      rcases List.mem_cons.mp member with rfl | before
      · exact below
      · exact lt_trans (List.rel_of_pairwise_cons once before) below

/-- A second on which the alarm starts, and the day it starts for. -/
theorem Kept.start (kept : run.Kept) (admitted : Admits run (.epoch localSeconds))
    {day : BitVec 32} (silent : run.alarm.soundOn.sounding = false)
    (reached : run.alarm.soundOn.reached localSeconds = some day)
    (rings : run.alarm.epoch true localSeconds =
      { run.alarm.soundOn.sound day with lastLocal := localSeconds, haveLast := true }) :
    run.epoch localSeconds =
        { alarm := { run.alarm.soundOn.sound day with lastLocal := localSeconds, haveLast := true }
          seconds := localSeconds.toNat :: run.seconds
          starts := day.toNat :: run.starts } ∧
      (run.epoch localSeconds).Kept := by
  obtain ⟨⟨last, head, after⟩, passed, new⟩ := (kept.reached_iff admitted day).mp reached
  obtain ⟨-, near, fallen, -⟩ := admitted
  have whole : run.epoch localSeconds =
      { alarm := { run.alarm.soundOn.sound day with lastLocal := localSeconds, haveLast := true }
        seconds := localSeconds.toNat :: run.seconds
        starts := day.toNat :: run.starts } := by
    rw [epoch, rings]
    dsimp only
    rw [if_pos ⟨silent, Alarm.play_alarm _⟩]
    rfl
  refine ⟨whole, ?_⟩
  rw [whole]
  obtain ⟨sounding, epochs, buzzer, stats, on, -⟩ := run.alarm.soundOn_eq
  rw [on]
  refine ⟨kept.enabled, kept.switchOn, kept.time, rfl, rfl, ?_, ?_, ?_, fun _ => ?_⟩
  · rintro _ ⟨⟩ earlier member
    rcases List.mem_cons.mp member with rfl | before
    · exact Nat.lt_add_of_pos_right (Nat.succ_pos 86399)
    · exact fallen earlier before
  · exact List.pairwise_cons.mpr ⟨kept.later head after new, kept.once⟩
  · intro number member
    rcases List.mem_cons.mp member with rfl | before
    · exact ⟨localSeconds.toNat, .head _, passed⟩
    · obtain ⟨second, seen, gone⟩ := kept.passed number before
      exact ⟨second, .tail _ seen, gone⟩
  · refine ⟨Nat.succ_pos 119, localSeconds.toNat, day.toNat, rfl, rfl, ?_⟩
    have close := (near last head).1
    change localSeconds.toNat < run.alarm.momentOf day.toNat + 7200
    omega

/-- A second on which it does not start. -/
theorem Kept.pass (kept : run.Kept) (admitted : Admits run (.epoch localSeconds))
    (quiet : run.alarm.epoch true localSeconds =
      { run.alarm.soundOn with lastLocal := localSeconds, haveLast := true }) :
    (run.epoch localSeconds).Kept := by
  obtain ⟨-, -, fallen, -⟩ := admitted
  obtain ⟨sounding, epochs, buzzer, stats, on, still⟩ := run.alarm.soundOn_eq
  have silent : ¬(run.alarm.soundOn.sounding = false ∧
      (run.alarm.epoch true localSeconds).sounding = true) := by
    rw [quiet]
    rintro ⟨no, yes⟩
    exact Bool.false_ne_true (no.symm.trans yes)
  rw [epoch, if_neg silent, quiet, on]
  refine ⟨kept.enabled, kept.switchOn, kept.time, rfl, kept.latest, ?_, kept.once, ?_,
    fun sounds => ?_⟩
  · rintro _ ⟨⟩ earlier member
    rcases List.mem_cons.mp member with rfl | before
    · exact Nat.lt_add_of_pos_right (Nat.succ_pos 86399)
    · exact fallen earlier before
  · intro number member
    obtain ⟨second, seen, gone⟩ := kept.passed number member
    exact ⟨second, .tail _ seen, gone⟩
  · obtain ⟨sounded, counted, short⟩ := still sounds
    obtain ⟨before, second, day, place, head, close⟩ := kept.sounding sounded
    have next : epochs.toNat = run.alarm.soundingEpochs.toNat + 1 := by
      rw [counted, BitVec.toNat_add]
      apply Nat.mod_eq_of_lt
      exact Nat.lt_of_le_of_lt (Nat.succ_le_of_lt before) (by decide : 120 < 2 ^ 16)
    refine ⟨short, second, day, ?_, head, close⟩
    change (localSeconds.toNat :: run.seconds)[epochs.toNat]? = some second
    rw [next, List.getElem?_cons_succ]
    exact place

theorem Kept.epoch (kept : run.Kept) (admitted : Admits run (.epoch localSeconds)) :
    (run.epoch localSeconds).Kept := by
  rcases Alarm.epoch_cases kept.enabled kept.switchOn with ⟨silent, day, reached, rings⟩ | ⟨-, quiet⟩
  · exact (kept.start admitted silent reached rings).2
  · exact kept.pass admitted quiet

theorem kept : machine.Invariant Admits Kept where
  start := by
    intro run armed
    refine ⟨armed.enabled, armed.switchOn, armed.time, ?_, ?_, ?_, ?_, ?_, fun sounds => ?_⟩
    · rw [armed.seconds, armed.first]
      rfl
    · rw [armed.starts, armed.fresh]
      rfl
    · rw [armed.seconds]
      intro last head
      cases head
    · rw [armed.starts]
      exact .nil
    · rw [armed.starts]
      intro day member
      cases member
    · rw [armed.silent] at sounds
      cases sounds
  step := by
    intro run act kept admitted
    change (run.act act).Kept
    cases act with
    | epoch localSeconds => exact kept.epoch admitted
    | press => exact kept.press
    | set => exact kept.set
    | switch => exact kept.switch
    | buzz buzzer =>
        exact ⟨kept.enabled, kept.switchOn, kept.time, kept.seen, kept.latest, kept.fallen,
          kept.once, kept.passed, kept.sounding⟩

/-- A moment later than every second so far is reached with the alarm silent. -/
theorem Kept.reaches (kept : run.Kept) (admitted : Admits run (.epoch localSeconds)) {number : Nat}
    (begun : run.seconds ≠ []) (ahead : ∀ second ∈ run.seconds, second < run.alarm.momentOf number)
    (passed : run.alarm.momentOf number ≤ localSeconds.toNat) :
    run.alarm.soundOn.sounding = false ∧
      run.alarm.soundOn.reached localSeconds = some (BitVec.ofNat 32 number) := by
  have earlier : ∀ day ∈ run.starts, day < number := by
    intro day member
    obtain ⟨second, seen, gone⟩ := kept.passed day member
    have later := ahead second seen
    rw [Alarm.momentOf] at later gone
    omega
  obtain ⟨fits, -, -, slow⟩ := id admitted
  have shown : (BitVec.ofNat 32 number).toNat = number := by
    rw [BitVec.toNat_ofNat]
    apply Nat.mod_eq_of_lt
    rw [Alarm.momentOf] at passed
    omega
  constructor
  · cases sounds : run.alarm.soundOn.sounding with
    | false => rfl
    | true =>
        obtain ⟨sounding, epochs, buzzer, stats, on, still⟩ := run.alarm.soundOn_eq
        rw [on] at sounds
        obtain ⟨sounded, counted, short⟩ := still sounds
        obtain ⟨before, second, day, place, head, close⟩ := kept.sounding sounded
        have next : epochs.toNat = run.alarm.soundingEpochs.toNat + 1 := by
          rw [counted, BitVec.toNat_add]
          apply Nat.mod_eq_of_lt
          exact Nat.lt_of_le_of_lt (Nat.succ_le_of_lt before) (by decide : 120 < 2 ^ 16)
        have recent : second ∈ run.seconds.take 119 := by
          apply List.mem_of_getElem?
          rw [List.getElem?_take_of_lt]
          · exact place
          · omega
        have within := slow second recent
        have below := earlier day (List.mem_of_mem_head? head)
        rw [Alarm.momentOf] at passed close
        omega
  · apply (kept.reached_iff admitted _).mpr
    rw [shown]
    obtain ⟨last, rest, seconds⟩ := List.exists_cons_of_ne_nil begun
    refine ⟨⟨last, by rw [seconds]; rfl, ahead last (by rw [seconds]; exact .head _)⟩, passed,
      fun same => ?_⟩
    exact lt_irrefl number (earlier number (List.mem_of_mem_head? same))

/-- An armed alarm starts at most once for each day, and starts for a day at the first second
at or past the day's moment, if that is after the first second it saw. -/
theorem once_a_day (reached : machine.Reachable Admits run) :
    run.starts.Nodup ∧
      ∀ localSeconds, Admits run (.epoch localSeconds) → ∀ number, run.seconds ≠ [] →
        (∀ second ∈ run.seconds, second < run.alarm.momentOf number) →
        run.alarm.momentOf number ≤ localSeconds.toNat →
        (run.epoch localSeconds).starts = number :: run.starts ∧
          (run.epoch localSeconds).alarm.sounding = true := by
  have kept := kept.reachable reached
  refine ⟨kept.once.imp fun later => later.ne', fun localSeconds admitted number begun ahead
    passed => ?_⟩
  obtain ⟨silent, reached⟩ := kept.reaches admitted begun ahead passed
  rcases @Alarm.epoch_cases run.alarm localSeconds kept.enabled kept.switchOn with
    ⟨-, day, started, rings⟩ | ⟨sounds | none, -⟩
  · obtain ⟨whole, -⟩ := kept.start admitted silent started rings
    rw [started] at reached
    have shown : day.toNat = number := by
      obtain ⟨fits, -⟩ := admitted
      rw [Option.some.inj reached, BitVec.toNat_ofNat]
      apply Nat.mod_eq_of_lt
      rw [Alarm.momentOf] at passed
      omega
    rw [whole, shown]
    exact ⟨rfl, Alarm.play_alarm _⟩
  · rw [silent] at sounds
    cases sounds
  · rw [none] at reached
    cases reached

/-- An alarm armed for a time of day. -/
def armed (timeOfDay : BitVec 32) : AlarmRun where
  alarm := { enabled := true, timeOfDay := timeOfDay, switchOn := true }

/-- For half past one, as the clocks go from one o'clock to two. -/
theorem once_a_day_skipped :
    (((armed 5400).epoch 867599).epoch 871200).starts = [10] :=
  have start : machine.Reachable Admits (armed 5400) :=
    .start ⟨rfl, rfl, by decide, rfl, rfl, rfl, rfl, rfl⟩
  have before := start.step (.epoch 867599) (by decide)
  ((once_a_day before).2 871200 (by decide) 10 (by decide) (by decide) (by decide)).1

/-- Each second is within two hours of the one before. -/
def Close (seconds : List Nat) : Prop :=
  seconds.IsChain fun later earlier => later ≤ earlier + 7200 ∧ earlier ≤ later + 7200

instance (seconds : List Nat) : Decidable (Close seconds) :=
  inferInstanceAs (Decidable (seconds.IsChain _))

/-- The alarm of one midnight, and the clocks go forward twelve times: it still sounds at the
next midnight, and does not start. -/
def forwardTwelveTimes : AlarmRun :=
  [950399, 950400, 957600, 964800, 972000, 979200, 986400, 993600, 1000800, 1008000, 1015200,
    1022400, 1029600, 1036800].foldl epoch (armed 0)

/-- The alarm of one midnight, and the clocks go back thirteen times and then forward to it. -/
def backThirteenTimes : AlarmRun :=
  ([950399, 950400] ++ List.replicate 120 950400 ++
    [943200, 936000, 928800, 921600, 914400, 907200, 900000, 892800, 885600, 878400, 871200, 864000,
      856800, 864000] ++ List.replicate 120 864000 ++
    [871200, 878400, 885600, 892800, 900000, 907200, 914400, 921600, 928800, 936000, 943200,
      950400]).foldl epoch (armed 0)

/-- The clocks go forward into the last day of 32 bits. -/
def forwardToLastDay : AlarmRun :=
  [4294940400, 4294944000].foldl epoch (armed 86000)

/-- Changes of two hours that add up to a day: a moment reached does not sound, and a day
sounds twice. And a moment passed on the way to the last day does not sound. -/
theorem changes_add_up :
    (Close forwardTwelveTimes.seconds ∧ forwardTwelveTimes.alarm.momentOf 12 = 1036800 ∧
      forwardTwelveTimes.starts = [11]) ∧
    (Close backThirteenTimes.seconds ∧ backThirteenTimes.starts = [11, 10, 11]) ∧
    Close forwardToLastDay.seconds ∧ forwardToLastDay.alarm.momentOf 49709 = 4294943600 ∧
      forwardToLastDay.starts = [] := by
  decide +kernel

end AlarmRun

end GpsClock.Ui
