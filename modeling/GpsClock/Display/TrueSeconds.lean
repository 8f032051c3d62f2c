import GpsClock.Display.Seconds
import GpsClock.Sync.KeptTime

/-! # The true second on the tubes

The clock from its sources to its tubes: in each epoch `run_epoch` updates the synchroniser
and prepares the display for the second after the one kept. With truthful sources, and
nothing but the menu's overlay drawn between an epoch and its update, the tubes show each
epoch's true second, from the second epoch with the time known on
(`GpsClock.Display.tubes_show_true_second`). The time zone may change at any moment; a
second is shown in the one that was held when it was prepared.
-/

namespace GpsClock.Display

open Platform Sync TimeZone Timing

/-- `sync_uncertainty`. -/
def syncUncertainty (status : SyncStatus) : Option Nat :=
  if !status.time.known then none
  else if status.state = .holdover ∧ status.holdover.ready = true then some status.holdover.boundNs
  else
    match status.isTracking && status.sourceUsable status.source && status.phaseValid,
      status.source with
    | true, some id =>
        some (saturate ((status.sources id).boundNs + ticksToNs status.phaseTicks))
    | _, _ =>
        -- free running on the time of a time-of-day source that is still good
        match status.time.source with
        | some id =>
            if status.state = .freeRun ∧ (definition id).steers = false ∧
                status.sourceGood (some id) = true then
              some (status.sources id).boundNs
            else none
        | none => none

/-- What `prepare_display` makes of the synchroniser's status. -/
def clockOf (status : SyncStatus) : DisplayClock where
  known := status.time.known
  synchronised := status.isSynchronised
  utcSeconds := status.time.utcSeconds
  leapSecond := status.time.leapSecond
  leap := status.time.leap
  uncertaintyValid := (syncUncertainty status).isSome
  uncertaintyNs := (syncUncertainty status).getD 0

/-- The synchroniser and the display with its tubes; the time zone held; what the next
second and the one shown were prepared with; and in how many epochs in a row the time has
been known. -/
structure Desk where
  keeper : Keeper
  rig : Rig
  zone : Timezone
  next : Constants
  shown : Constants
  since : Nat

inductive DeskAct
  | epoch
  | run (input : EpochInput)
  | sync (act : SyncAct)
  | zone (zone : Timezone)
  | pulseEnds
  | service
  | change (change : DisplayState.Change)
  | tick (slot : Nat)

namespace Desk

/-- `run_epoch`, as far as the time and the display go. -/
def runEpoch (desk : Desk) (input : EpochInput) : Desk :=
  let keeper := desk.keeper.step (.update input)
  let constants : Constants :=
    ⟨desk.zone, keeper.sync.status.isSynchronised, keeper.sync.status.time.leap⟩
  { desk with
    keeper := keeper
    rig := desk.rig.step constants (.prepare (clockOf keeper.sync.status))
    next := constants
    shown := desk.next
    since := if keeper.sync.status.time.known then desk.since + 1 else 0 }

def step (desk : Desk) : DeskAct → Desk
  | .epoch => { desk with rig := desk.rig.step desk.next .epoch }
  | .run input => desk.runEpoch input
  | .sync act => { desk with keeper := desk.keeper.step act }
  | .zone zone => { desk with zone := zone }
  | .pulseEnds => { desk with rig := desk.rig.step desk.next .pulseEnds }
  | .service => { desk with rig := desk.rig.step desk.next .service }
  | .change change => { desk with rig := desk.rig.step desk.next (.change change) }
  | .tick slot => { desk with rig := desk.rig.step desk.next (.tick slot) }

/-- From power-up, the first epoch still to come. -/
def machine : Machine Desk DeskAct where
  start desk := desk.keeper = ⟨{}, 0⟩ ∧ desk.rig.display = .displayInit ∧
    desk.rig.phase = .loaded ∧ desk.since = 0
  step := step

/-- Each epoch in order, its sources truthful; and between an epoch and its update nothing
but the menu's overlay drawn. -/
def OnTime (world : TrueTime) (desk : Desk) : DeskAct → Prop
  | .epoch => desk.rig.phase = .loaded
  | .run input => desk.rig.phase = .begun ∧ desk.keeper.Truthful world (.update input)
  | .sync act => (∀ input, act ≠ .update input) ∧ desk.keeper.Truthful world act
  | .zone _ => True
  | .pulseEnds => desk.rig.phase = .prepared
  | .service => desk.rig.phase = .closed
  | .change change => desk.rig.phase = .begun → 0 < desk.since →
      ∀ after, desk.rig.display.changed change = some after → after.overlayOn = true
  | .tick slot => desk.rig.phase = .begun → 0 < desk.since →
      desk.rig.display.tickDraws slot = false

/-- The outputs show the overlay in force, or the true second, in some mode. -/
def Shows (world : TrueTime) (desk : Desk) : Prop :=
  (desk.rig.display.overlayOn = true → desk.rig.display.tubes.outputs = desk.rig.display.overlay) ∧
    (desk.rig.display.overlayOn = false →
      ∃ second : DisplaySecond, ∃ mode : DisplayMode,
        second.Tells desk.shown (world.labelAt desk.keeper.count) ∧
        desk.rig.display.tubes.outputs = mode.draw desk.rig.display.settings second.view)

/-- What the display, with a second prepared and one on the tubes, is between acts. -/
structure Carried (rig : Rig) (since : Nat) : Prop where
  pulse : rig.display.tubes.pulse = true ↔ rig.phase = .begun ∨ rig.phase = .prepared
  known : 0 < since → rig.display.next.known = true
  shown : rig.phase ≠ .begun → 2 ≤ since → rig.display.shown.known = true
  prepared : 0 < since → rig.display.prepared = rig.display.render rig.display.next
  waiting : rig.phase = .prepared ∨ rig.phase = .closed → rig.display.preparedPending = true
  loaded : rig.phase = .loaded → 0 < since →
    rig.display.preparedPending = false ∧ rig.display.tubes.loadPending = true ∧
      rig.display.tubes.register = rig.display.prepared ∧
      rig.display.tubes.loaded = rig.display.prepared
  begun : rig.phase = .begun → 0 < since →
    rig.display.Drawn rig.display.next rig.display.tubes.outputs
  drawn : rig.phase ≠ .begun → 2 ≤ since →
    rig.display.Drawn rig.display.shown rig.display.tubes.outputs

namespace Carried

variable {rig : Rig} {since : Nat}

theorem epoch (carried : Carried rig since) (loaded : rig.phase = .loaded) (constants : Constants) :
    Carried (rig.step constants .epoch) since where
  pulse := iff_of_true rfl (.inl rfl)
  known := carried.known
  shown open_ := absurd rfl open_
  prepared := carried.prepared
  waiting := by rintro (impossible | impossible) <;> cases impossible
  loaded impossible := by cases impossible
  begun _ some := by
    obtain ⟨_, _, register, _⟩ := carried.loaded loaded some
    change rig.display.Drawn rig.display.next rig.display.tubes.register
    rw [register, carried.prepared some]
    exact DisplayState.drawn_render (carried.known some)
  drawn open_ := absurd rfl open_

/-- The second prepared goes onto the tubes, and the one after it is prepared. -/
theorem prepare (carried : Carried rig since) (begun : rig.phase = .begun) (constants : Constants)
    (clock : DisplayClock) :
    Carried (rig.step constants (.prepare clock)) (if clock.known then since + 1 else 0) := by
  have open_ : rig.display.tubes.tubesEpoch.pulse = true :=
    (Tubes.tubesEpoch_pulse _).trans (carried.pulse.mpr (.inl begun))
  have earlier (twice : 2 ≤ if clock.known then since + 1 else 0) : 0 < since := by
    split at twice <;> omega
  -- the button's mode giving way changes neither the seconds nor the frames
  obtain ⟨cycles, mode, followed⟩ := DisplayState.followCycle_eq
    { rig.display with
      tubes := rig.display.tubes.tubesEpoch
      shown := rig.display.next
      stats :=
        { rig.display.stats with
          missed :=
            if rig.display.preparedPending then rig.display.stats.missed + 1
            else rig.display.stats.missed } }
  simp only [Rig.step, DisplayState.displayPrepare, followed]
  refine ⟨iff_of_true open_ (.inr rfl), fun some => ?_, fun _ twice => carried.known (earlier twice),
    fun _ => rfl, fun _ => rfl, (fun impossible => by cases impossible),
    (fun impossible => by cases impossible), fun _ twice => ?_⟩
  · cases known : clock.known with
    | false =>
        rw [known, if_neg Bool.false_ne_true] at some
        cases some
    | true => simp only [DisplayState.secondAfter, known, Bool.not_true, Bool.false_eq_true, if_false]
  · dsimp only
    rw [Tubes.tubesEpoch_outputs]
    exact carried.begun begun (earlier twice)

theorem pulseEnds (carried : Carried rig since) (prepared : rig.phase = .prepared)
    (constants : Constants) : Carried (rig.step constants .pulseEnds) since where
  pulse := iff_of_false Bool.false_ne_true (by rintro (impossible | impossible) <;> cases impossible)
  known := carried.known
  shown _ := carried.shown (by rw [prepared]; decide)
  prepared := carried.prepared
  waiting _ := carried.waiting (.inl prepared)
  loaded impossible := by cases impossible
  begun impossible := by cases impossible
  drawn _ := carried.drawn (by rw [prepared]; decide)

/-- The latch is closed once the pulse has ended. -/
theorem low (carried : Carried rig since) (ended : rig.phase = .closed ∨ rig.phase = .loaded) :
    rig.display.tubes.pulse = false := by
  by_contra high
  rw [Bool.not_eq_false] at high
  rcases carried.pulse.mp high with phase | phase <;> rw [phase] at ended <;>
    rcases ended with impossible | impossible <;> cases impossible

theorem service (carried : Carried rig since) (closed : rig.phase = .closed) (constants : Constants) :
    Carried (rig.step constants .service) since := by
  have pending := carried.waiting (.inr closed)
  have low : rig.display.tubes.pulse = false := carried.low (.inl closed)
  have run : rig.phase ≠ .begun := by
    rw [closed]
    decide
  simp only [Rig.step, DisplayState.displayService, pending, Tubes.latchOpen, low, Bool.not_true,
    Bool.or_false, Bool.false_eq_true, if_false]
  refine ⟨iff_of_false ?_ ?_, carried.known, fun _ => carried.shown run, carried.prepared, ?_,
    fun _ _ => ⟨rfl, rfl, rfl, rfl⟩, (fun impossible => by cases impossible), fun _ twice => ?_⟩
  · exact fun high => by cases low.symm.trans high
  · rintro (impossible | impossible) <;> cases impossible
  · rintro (impossible | impossible) <;> cases impossible
  · dsimp only
    rw [Tubes.tubesLoad_outputs _ _ low]
    exact carried.drawn run twice

/-- What is changed is drawn at once, in both frames. -/
theorem redraw (carried : Carried rig since) {after : DisplayState}
    (seconds : DisplayState.SameSeconds rig.display after)
    (overlay : rig.phase = .begun → 0 < since → after.overlayOn = true) :
    Carried { rig with display := after.redraw } since := by
  obtain ⟨same, redraws⟩ := after.redraw_spec
  have known (some : 0 < since) : after.next.known = true := by
    rw [seconds.next]
    exact carried.known some
  have pulse : after.tubes.pulse = rig.display.tubes.pulse := by
    rw [seconds.tubes]
  have drawn {second : DisplaySecond} {frame : TubesFrame} (drawn : after.Drawn second frame) :
      after.redraw.Drawn second frame := by
    rw [DisplayState.Drawn, same.overlayOn, same.overlay, same.settings]
    exact drawn
  refine ⟨?_, fun some => ?_, fun open_ twice => ?_, fun some => ?_, fun phase => ?_,
    fun loaded some => ?_, fun begun some => ?_, fun open_ twice => ?_⟩
  · dsimp only
    rw [same.pulse, pulse]
    exact carried.pulse
  · dsimp only
    rw [same.next]
    exact known some
  · dsimp only
    rw [same.shown, seconds.shown]
    exact carried.shown open_ twice
  · dsimp only
    rw [(redraws (known some)).prepared, same.render, same.next]
  · exact same.pending.trans (seconds.pending.trans (carried.waiting phase))
  · obtain ⟨unpending, _⟩ := carried.loaded loaded some
    have low : after.tubes.pulse = false := pulse.trans (carried.low (.inr loaded))
    exact ⟨same.pending.trans (seconds.pending.trans unpending),
      (redraws (known some)).loaded (seconds.pending.trans unpending) low⟩
  · have on := overlay begun some
    refine drawn ⟨fun _ => ?_, fun off => absurd (on.symm.trans off) Bool.noConfusion⟩
    dsimp only
    rw [(redraws (known some)).outputs, DisplayState.render, if_pos on]
  · have some : 0 < since := Nat.lt_of_lt_of_le Nat.zero_lt_two twice
    dsimp only
    rw [(redraws (known some)).outputs, same.shown]
    refine drawn (DisplayState.drawn_render ?_)
    rw [seconds.shown]
    exact carried.shown open_ twice

/-- Hundredths are drawn into the second on the tubes. -/
theorem tick (carried : Carried rig since) (slot : Nat) (constants : Constants)
    (silent : rig.phase = .begun → 0 < since → rig.display.tickDraws slot = false) :
    Carried (rig.step constants (.tick slot)) since := by
  simp only [Rig.step, DisplayState.displayTick]
  cases draws : rig.display.tickDraws slot with
  | false => exact carried
  | true =>
      simp only [if_true, DisplayState.drawShown]
      refine ⟨?_, carried.known, carried.shown, carried.prepared, carried.waiting,
        fun loaded some => ?_,
        fun begun some => absurd ((silent begun some).symm.trans draws) Bool.false_ne_true,
        fun open_ twice => ?_⟩
      · dsimp only
        rw [Tubes.tubesShow_pulse]
        exact carried.pulse
      · obtain ⟨unpending, waiting, _, frame⟩ := carried.loaded loaded some
        obtain ⟨register, kept, still⟩ :=
          Tubes.tubesShow_waiting rig.display.tubes _ waiting (carried.low (.inr loaded))
        exact ⟨unpending, still, register.trans frame, kept.trans frame⟩
      · dsimp only
        rw [Tubes.tubesShow_outputs]
        exact DisplayState.drawn_render (carried.shown open_ twice)

end Carried

/-! ## Every run -/

/-- What every act of a run on time keeps. -/
structure Kept (world : TrueTime) (desk : Desk) : Prop where
  keeper : desk.keeper.Kept world
  carried : Carried desk.rig desk.since
  next : 0 < desk.since → desk.rig.display.next.Tells desk.next
    (world.labelAt (desk.keeper.count + 1))
  shown : desk.rig.phase ≠ .begun → 2 ≤ desk.since → desk.rig.display.shown.Tells desk.shown
    (world.labelAt desk.keeper.count)

variable {world : TrueTime} {desk : Desk}

/-- The two seconds once the next one is prepared. -/
theorem prepare_seconds (rig : Rig) (constants : Constants) (clock : DisplayClock) :
    (rig.step constants (.prepare clock)).display.shown = rig.display.next ∧
      (rig.step constants (.prepare clock)).display.next =
        rig.display.secondAfter clock constants.zone := by
  rw [Rig.step, DisplayState.displayPrepare]
  obtain ⟨cycles, mode, followed⟩ := DisplayState.followCycle_eq
    { rig.display with
      tubes := rig.display.tubes.tubesEpoch
      shown := rig.display.next
      stats :=
        { rig.display.stats with
          missed :=
            if rig.display.preparedPending then rig.display.stats.missed + 1
            else rig.display.stats.missed } }
  simp only [followed, and_self]

theorem Kept.run (kept : desk.Kept world) {input : EpochInput} (begun : desk.rig.phase = .begun)
    (truthful : desk.keeper.Truthful world (.update input)) : (desk.runEpoch input).Kept world := by
  have updated := kept.keeper.update truthful
  have count : (desk.keeper.step (.update input)).count = desk.keeper.count + 1 := rfl
  rw [runEpoch]
  generalize desk.keeper.step (.update input) = after at *
  obtain ⟨shown, next⟩ := prepare_seconds desk.rig
    ⟨desk.zone, after.sync.status.isSynchronised, after.sync.status.time.leap⟩
    (clockOf after.sync.status)
  have prepared := kept.carried.prepare begun
    ⟨desk.zone, after.sync.status.isSynchronised, after.sync.status.time.leap⟩
    (clockOf after.sync.status)
  refine ⟨updated, prepared, fun some => ?_, fun _ twice => ?_⟩
  · have known : after.sync.status.time.known = true := by
      by_contra unknown
      rw [if_neg unknown] at some
      cases some
    have counts := (updated.time.leap known).counts
    rw [← updated.time.label known] at counts
    dsimp only
    rw [next, ← counts]
    exact Rig.secondAfter_tells desk.rig.display known rfl rfl
  · have earlier : 0 < desk.since := by
      dsimp only at twice
      split at twice <;> omega
    dsimp only
    rw [shown, count]
    exact kept.next earlier

theorem kept_invariant (world : TrueTime) : machine.Invariant (OnTime world) (Kept world) where
  start desk started := by
    obtain ⟨keeper, display, phase, since⟩ := started
    have few (some : 0 < desk.since) : False := by omega
    refine ⟨?_, ⟨?_, fun some => (few some).elim, fun _ twice => (few (by omega)).elim,
      fun some => (few some).elim, ?_, fun _ some => (few some).elim,
      fun _ some => (few some).elim, fun _ twice => (few (by omega)).elim⟩,
      fun some => (few some).elim, fun _ twice => (few (by omega)).elim⟩
    · exact (Keeper.kept_invariant world).start _ keeper
    · rw [display, phase]
      decide
    · rw [phase]
      rintro (impossible | impossible) <;> cases impossible
  step desk act kept onTime := by
    cases act with
    | epoch =>
        exact ⟨kept.keeper, kept.carried.epoch onTime desk.next, kept.next, fun open_ => absurd rfl open_⟩
    | run input => exact kept.run onTime.1 onTime.2
    | sync act =>
        obtain ⟨between, truthful⟩ := onTime
        have count : (desk.keeper.step act).count = desk.keeper.count := by
          cases act with
          | update input => exact absurd rfl (between input)
          | resync => rfl
          | setLeap leap => rfl
          | setTime utcSeconds epochSequence slotMs => rfl
        refine ⟨(Keeper.kept_invariant world).step _ act kept.keeper truthful, kept.carried, ?_, ?_⟩ <;>
          simp only [machine, step, count]
        · exact kept.next
        · exact kept.shown
    | zone zone => exact ⟨kept.keeper, kept.carried, kept.next, kept.shown⟩
    | pulseEnds =>
        exact ⟨kept.keeper, kept.carried.pulseEnds onTime desk.next, kept.next,
          fun _ => kept.shown (by rw [show desk.rig.phase = .prepared from onTime]; decide)⟩
    | service =>
        have open_ : desk.rig.phase ≠ .begun := by
          rw [show desk.rig.phase = .closed from onTime]
          decide
        have same : desk.rig.display.displayService.next = desk.rig.display.next ∧
            desk.rig.display.displayService.shown = desk.rig.display.shown := by
          rw [DisplayState.displayService]
          split <;> exact ⟨rfl, rfl⟩
        refine ⟨kept.keeper, kept.carried.service onTime desk.next, ?_, fun _ => ?_⟩ <;>
          simp only [machine, step, Rig.step, same]
        · exact kept.next
        · exact kept.shown open_
    | change change =>
        simp only [machine, step, Rig.step, DisplayState.changing]
        cases effective : desk.rig.display.changed change with
        | none => exact ⟨kept.keeper, kept.carried, kept.next, kept.shown⟩
        | some after =>
            have seconds := DisplayState.changed_seconds effective
            obtain ⟨same, _⟩ := after.redraw_spec
            refine ⟨kept.keeper, kept.carried.redraw seconds fun begun some =>
              onTime begun some after effective, ?_, ?_⟩ <;> dsimp only
            · rw [same.next, seconds.next]
              exact kept.next
            · rw [same.shown, seconds.shown]
              exact kept.shown
    | tick slot =>
        refine ⟨kept.keeper, kept.carried.tick slot desk.next onTime, ?_, ?_⟩ <;>
          simp only [machine, step, Rig.step, DisplayState.displayTick] <;> split
        · exact kept.next
        · exact kept.next
        · exact fun open_ twice => Rig.tells_at (kept.shown open_ twice) _
        · exact kept.shown

end Desk

/-- **The tubes show the true second.** In every run in which the sources are truthful and the
leap second is known by the second before it, each epoch's update comes within its pulse and
nothing but the menu's overlay is drawn before it: in every epoch, from its update on, where
the time was known in it and in the one before, the outputs show the overlay in force, or the
true second of that epoch in the time zone held when it was prepared, in some mode. -/
theorem tubes_show_true_second {world : TrueTime} {desk : Desk}
    (reached : Desk.machine.Reachable (Desk.OnTime world) desk) (twice : 2 ≤ desk.since)
    (updated : desk.rig.phase ≠ .begun) : desk.Shows world := by
  have kept := (Desk.kept_invariant world).reachable reached
  obtain ⟨overlay, drawn⟩ := kept.carried.drawn updated twice
  refine ⟨overlay, fun off => ?_⟩
  obtain ⟨mode, frame⟩ := drawn off
  exact ⟨desk.rig.display.shown, mode, kept.shown updated twice, frame⟩

def freshDesk : Desk where
  keeper := ⟨{}, 0⟩
  rig := freshRig
  zone := timezoneInit
  next := plainConstants
  shown := plainConstants
  since := 0

/-- The last edge of 2016 is seen, and no other. -/
def intoLeapSecond : List DeskAct :=
  [.sync (.setLeap ⟨1483228800, 1⟩), .epoch, .run lastEdge, .pulseEnds, .service, .epoch, .run {}]

/-- The inserted second is on the tubes. -/
theorem tubes_show_true_second_2016 :
    let desk := intoLeapSecond.foldl Desk.machine.step freshDesk
    desk.Shows endOf2016 ∧ endOf2016.labelAt desk.keeper.count = (1483228799, true) := by
  have knows (count : Nat) : endOf2016.Knows ⟨1483228800, 1⟩ count := ⟨.inr rfl, fun _ => rfl⟩
  have begun : Desk.machine.Reachable (Desk.OnTime endOf2016)
      ((intoLeapSecond.take 2).foldl Desk.machine.step freshDesk) := by
    have started : Desk.machine.Reachable (Desk.OnTime endOf2016) freshDesk :=
      .start ⟨rfl, rfl, rfl, rfl⟩
    have honest : Desk.OnTime endOf2016 freshDesk (.sync (.setLeap ⟨1483228800, 1⟩)) :=
      ⟨fun input impossible => (by cases impossible), .inr rfl⟩
    exact (started.step _ honest).step DeskAct.epoch rfl
  have run : Desk.machine.Reachable (Desk.OnTime endOf2016)
      ((intoLeapSecond.take 3).foldl Desk.machine.step freshDesk) := by
    refine begun.step (.run lastEdge) ⟨rfl, fun id labelled => ?_, fun known => by cases known⟩
    cases id with
    | gnss =>
        refine ⟨⟨1, .inl rfl, rfl, ?_⟩, fun second _ => knows second, knows 1⟩
        exact ⟨40020000, 40000000, rfl, rfl, by decide, by decide⟩
    | ntp => cases labelled
    | rtc => cases labelled
  have again : Desk.machine.Reachable (Desk.OnTime endOf2016)
      ((intoLeapSecond.take 6).foldl Desk.machine.step freshDesk) :=
    ((run.step .pulseEnds rfl).step .service rfl).step .epoch rfl
  have final : Desk.machine.Reachable (Desk.OnTime endOf2016)
      (intoLeapSecond.foldl Desk.machine.step freshDesk) := by
    refine again.step (.run {}) ⟨rfl, fun id labelled => ?_, fun _ _ => rfl⟩
    cases id <;> cases labelled
  exact ⟨tubes_show_true_second final (by decide) (by decide), by decide⟩

end GpsClock.Display
