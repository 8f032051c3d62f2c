import GpsClock.Display.Display
import GpsClock.Lib.Machine

/-! # The second that is

The display over whole epochs: the pulse begins and latches what was loaded, the next
second is prepared, the pulse ends, and what was prepared is loaded. Until it is prepared
an epoch's second is still the display's next one, and what is drawn at once meanwhile is
the second before (`GpsClock.Display.earlier_second_shown`). Where nothing but the menu's
overlay is drawn then, the tubes show each epoch's own second from its preparation on
(`GpsClock.Display.tubes_show_labelled_second`).
-/

namespace GpsClock.Display

open Platform TimeZone

/-- How far an epoch has come. -/
inductive Phase
  | begun
  | prepared
  | closed
  | loaded
  deriving DecidableEq, Repr

/-- The display, with the latest label given and how many seconds have been prepared. -/
structure Rig where
  display : DisplayState
  phase : Phase
  label : BitVec 32 × Bool
  prepares : Nat

inductive RigAct
  | epoch
  | prepare (clock : DisplayClock)
  | pulseEnds
  | service
  | change (change : DisplayState.Change)
  | tick (slot : Nat)

/-- What is constant in a run: the time zone, whether the clock is synchronised, and the
leap second announced. -/
structure Constants where
  zone : Timezone
  synchronised : Bool
  leap : UtcLeap

/-- The second after a label. -/
def Constants.after (constants : Constants) (label : BitVec 32 × Bool) : BitVec 32 × Bool :=
  utcAdvance label.1 label.2 1 constants.leap.announced

/-- The second a label stands for. -/
structure DisplaySecond.Tells (second : DisplaySecond) (constants : Constants)
    (label : BitVec 32 × Bool) : Prop where
  known : second.known = true
  utc : second.view.utcSeconds = label.1
  zone : second.view.zone = constants.zone.offsetAt label.1
  civil : second.view.local_ =
    utcToCivil (label.1 + (constants.zone.offsetAt label.1).offsetS) label.2
  synchronised : second.view.synchronised = constants.synchronised

namespace Rig

def step (constants : Constants) (rig : Rig) : RigAct → Rig
  | .epoch =>
      { rig with
        display := rig.display.onTubes rig.display.tubes.pulseBegins
        phase := .begun }
  | .prepare clock =>
      { display := rig.display.displayPrepare clock constants.zone
        phase := .prepared
        label := (clock.utcSeconds, clock.leapSecond)
        prepares := rig.prepares + 1 }
  | .pulseEnds =>
      { rig with
        display := rig.display.onTubes rig.display.tubes.pulseEnds
        phase := .closed }
  | .service => { rig with display := rig.display.displayService, phase := .loaded }
  | .change change =>
      { rig with display := rig.display.changing (rig.display.changed change) }
  | .tick slot => { rig with display := rig.display.displayTick slot }

/-- The display from `display_init` on, its first epoch still to come. -/
def machine (constants : Constants) : Machine Rig RigAct where
  start rig := rig.display = .displayInit ∧ rig.phase = .loaded ∧ rig.prepares = 0
  step := step constants

/-- Each epoch in order: prepared within the pulse, with the time known and its label the
one after the last; the pulse ended; and what was prepared loaded. -/
def Ordered (constants : Constants) (rig : Rig) : RigAct → Prop
  | .epoch => rig.phase = .loaded
  | .prepare clock =>
      rig.phase = .begun ∧ clock.known = true ∧ clock.synchronised = constants.synchronised ∧
        clock.leap = constants.leap ∧
        (0 < rig.prepares → (clock.utcSeconds, clock.leapSecond) = constants.after rig.label)
  | .pulseEnds => rig.phase = .prepared
  | .service => rig.phase = .closed
  | _ => True

instance (constants : Constants) (rig : Rig) (act : RigAct) :
    Decidable (rig.Ordered constants act) :=
  match act with
  | .epoch | .pulseEnds | .service => inferInstanceAs (Decidable (_ = _))
  | .prepare _ => inferInstanceAs (Decidable (_ ∧ _))
  | .change _ | .tick _ => inferInstanceAs (Decidable True)

/-- And between an epoch and its preparation, where the epoch before was prepared, nothing
but the menu's overlay is drawn. -/
def OnTime (constants : Constants) (rig : Rig) (act : RigAct) : Prop :=
  rig.Ordered constants act ∧
    (rig.phase = .begun → 0 < rig.prepares →
      match act with
      | .change change => ∀ after, rig.display.changed change = some after → after.overlayOn = true
      | .tick slot => rig.display.tickDraws slot = false
      | _ => True)

/-- The outputs show the overlay in force, or the second labelled, in some mode. -/
def Shows (constants : Constants) (rig : Rig) : Prop :=
  (rig.display.overlayOn = true → rig.display.tubes.outputs = rig.display.overlay) ∧
    (rig.display.overlayOn = false →
      ∃ second : DisplaySecond, ∃ mode : DisplayMode, second.Tells constants rig.label ∧
        rig.display.tubes.outputs = mode.draw rig.display.settings second.view)

end Rig

namespace DisplayState

variable {display : DisplayState}

/-- A frame as the display draws a second, in some mode. -/
def Drawn (display : DisplayState) (second : DisplaySecond) (frame : TubesFrame) : Prop :=
  (display.overlayOn = true → frame = display.overlay) ∧
    (display.overlayOn = false → ∃ mode : DisplayMode,
      frame = mode.draw display.settings second.view)

theorem drawn_render {second : DisplaySecond} (known : second.known = true) :
    display.Drawn second (display.render second) := by
  rw [render]
  refine ⟨fun on => by rw [if_pos on], fun off => ⟨display.drawnMode, ?_⟩⟩
  rw [off, if_neg Bool.false_ne_true, if_pos known]

/-- What a redraw leaves of the display itself. -/
structure SameDrawing (before after : DisplayState) : Prop where
  overlayOn : after.overlayOn = before.overlayOn
  overlay : after.overlay = before.overlay
  settings : after.settings = before.settings
  shown : after.shown = before.shown
  next : after.next = before.next
  pending : after.preparedPending = before.preparedPending
  pulse : after.tubes.pulse = before.tubes.pulse
  render : after.render = before.render

/-- What a redraw of seconds prepared does to the frames. -/
structure Redraws (before after : DisplayState) : Prop where
  prepared : after.prepared = before.render before.next
  outputs : after.tubes.outputs = before.render before.shown
  unloaded : before.preparedPending = true → before.tubes.loadPending = false →
    after.tubes.loadPending = false
  loaded : before.preparedPending = false → before.tubes.pulse = false →
    after.tubes.loadPending = true ∧ after.tubes.register = after.prepared ∧
      after.tubes.loaded = after.prepared

theorem redraw_spec (display : DisplayState) :
    SameDrawing display display.redraw ∧
      (display.next.known = true → Redraws display display.redraw) := by
  have drawn : SameDrawing display
      { display with prepared := display.render display.next }.drawShown :=
    ⟨rfl, rfl, rfl, rfl, rfl, rfl, Tubes.tubesShow_pulse _ _, rfl⟩
  rw [redraw]
  split
  · next idle =>
      refine ⟨⟨rfl, rfl, rfl, rfl, rfl, rfl, rfl, rfl⟩, fun known => ?_⟩
      simp [known] at idle
  · dsimp only
    split
    · next load =>
        obtain ⟨unpending, closed⟩ := Bool.and_eq_true_iff.mp load
        have closed : display.tubes.pulse = false := by
          simpa [drawShown, Tubes.latchOpen] using closed
        refine ⟨⟨rfl, rfl, rfl, rfl, rfl, rfl, drawn.pulse, rfl⟩, fun _ => ⟨rfl, ?_, ?_, ?_⟩⟩
        · exact (Tubes.tubesLoad_outputs _ _ (drawn.pulse.trans closed)).trans
            (Tubes.tubesShow_outputs _ _)
        · intro pending
          have none : display.preparedPending = false := by
            simpa [drawShown] using unpending
          cases none.symm.trans pending
        · exact fun _ _ => ⟨rfl, rfl, rfl⟩
    · next unloaded =>
        refine ⟨drawn, fun _ => ⟨rfl, Tubes.tubesShow_outputs _ _, ?_, ?_⟩⟩
        · intro _ none
          simp [drawShown, Tubes.tubesShow, none]
        · intro unpending closed
          simp [drawShown, Tubes.latchOpen, unpending, closed] at unloaded

end DisplayState

namespace Rig

variable {constants : Constants} {rig : Rig}

/-- What holds after every act of a run in order. -/
structure Valid (constants : Constants) (rig : Rig) : Prop where
  pulse : rig.display.tubes.pulse = true ↔ rig.phase = .begun ∨ rig.phase = .prepared
  next : 0 < rig.prepares → rig.display.next.Tells constants (constants.after rig.label)
  prepared : 0 < rig.prepares → rig.display.prepared = rig.display.render rig.display.next
  shown : rig.phase ≠ .begun → 2 ≤ rig.prepares → rig.display.shown.Tells constants rig.label
  waiting : rig.phase = .prepared ∨ rig.phase = .closed →
    0 < rig.prepares ∧ rig.display.preparedPending = true ∧
      rig.display.tubes.loadPending = false
  loaded : rig.phase = .loaded → 0 < rig.prepares →
    rig.display.preparedPending = false ∧ rig.display.tubes.loadPending = true ∧
      rig.display.tubes.register = rig.display.prepared ∧
      rig.display.tubes.loaded = rig.display.prepared
  begun : rig.phase = .begun → 0 < rig.prepares →
    rig.display.Drawn rig.display.next rig.display.tubes.outputs
  drawn : rig.phase ≠ .begun → 2 ≤ rig.prepares →
    rig.display.Drawn rig.display.shown rig.display.tubes.outputs

theorem Valid.epoch (valid : rig.Valid constants) (loaded : rig.phase = .loaded) :
    (rig.step constants .epoch).Valid constants where
  pulse := iff_of_true rfl (.inl rfl)
  next := valid.next
  prepared := valid.prepared
  shown open_ := absurd rfl open_
  waiting := by rintro (impossible | impossible) <;> cases impossible
  loaded := nofun
  begun _ some := by
    obtain ⟨_, _, register, _⟩ := valid.loaded loaded some
    change rig.display.Drawn rig.display.next rig.display.tubes.register
    rw [register, valid.prepared some]
    exact DisplayState.drawn_render (valid.next some).known
  drawn open_ := absurd rfl open_

/-- The second filled in is the one after the clock's label. -/
theorem secondAfter_tells (display : DisplayState) {clock : DisplayClock}
    (known : clock.known = true) (synchronised : clock.synchronised = constants.synchronised)
    (leap : clock.leap = constants.leap) :
    (display.secondAfter clock constants.zone).Tells constants
      (constants.after (clock.utcSeconds, clock.leapSecond)) := by
  rw [DisplayState.secondAfter, known, leap]
  exact ⟨rfl, rfl, rfl, rfl, synchronised⟩

theorem Valid.prepare (valid : rig.Valid constants) {clock : DisplayClock}
    (begun : rig.phase = .begun) (known : clock.known = true)
    (synchronised : clock.synchronised = constants.synchronised)
    (leap : clock.leap = constants.leap)
    (follows : 0 < rig.prepares →
      (clock.utcSeconds, clock.leapSecond) = constants.after rig.label) :
    (rig.step constants (.prepare clock)).Valid constants := by
  have open_ : rig.display.tubes.tubesEpoch.pulse = true :=
    (Tubes.tubesEpoch_pulse _).trans (valid.pulse.mpr (.inl begun))
  have unloaded : rig.display.tubes.tubesEpoch.loadPending = false := by
    rw [Tubes.tubesEpoch]
    split
    · rfl
    · next none => simpa using none
  -- the button's mode giving way changes neither the seconds nor the frames
  obtain ⟨cycles, mode, followed⟩ := DisplayState.followCycle_eq
    { rig.display with
      tubes := rig.display.tubes.tubesEpoch
      shown := rig.display.next
      stats :=
        { rig.display.stats with
          missed :=
            if rig.display.preparedPending then rig.display.stats.missed + 1
            else rig.display.stats.missed } }
  simp only [step, DisplayState.displayPrepare, followed]
  refine ⟨iff_of_true open_ (.inr rfl), ?_, fun _ => rfl, ?_, ?_,
    (fun impossible => by cases impossible), (fun impossible => by cases impossible), ?_⟩
  · exact fun _ => secondAfter_tells rig.display known synchronised leap
  · intro _ twice
    have before : 0 < rig.prepares := Nat.lt_of_succ_lt_succ twice
    rw [follows before]
    exact valid.next before
  · exact fun _ => ⟨Nat.succ_pos _, rfl, unloaded⟩
  · intro _ twice
    have before : 0 < rig.prepares := Nat.lt_of_succ_lt_succ twice
    dsimp only
    rw [Tubes.tubesEpoch_outputs]
    exact valid.begun begun before

theorem Valid.pulseEnds (valid : rig.Valid constants) (prepared : rig.phase = .prepared) :
    (rig.step constants .pulseEnds).Valid constants where
  pulse := iff_of_false Bool.false_ne_true (by rintro (impossible | impossible) <;> cases impossible)
  next := valid.next
  prepared := valid.prepared
  shown _ := valid.shown (by rw [prepared]; nofun)
  waiting _ := valid.waiting (.inl prepared)
  loaded := nofun
  begun := nofun
  drawn _ := valid.drawn (by rw [prepared]; nofun)

/-- The latch is closed once the pulse has ended. -/
theorem Valid.low (valid : rig.Valid constants) (ended : rig.phase = .closed ∨ rig.phase = .loaded) :
    rig.display.tubes.pulse = false := by
  cases high : rig.display.tubes.pulse with
  | false => rfl
  | true =>
      rcases valid.pulse.mp high with begun | prepared
      · rcases ended with closed | loaded <;> simp_all
      · rcases ended with closed | loaded <;> simp_all

theorem Valid.service (valid : rig.Valid constants) (closed : rig.phase = .closed) :
    (rig.step constants .service).Valid constants := by
  obtain ⟨_, pending, _⟩ := valid.waiting (.inr closed)
  have low : rig.display.tubes.pulse = false := valid.low (.inl closed)
  have same : rig.phase ≠ .begun := by
    rw [closed]
    decide
  simp only [step, DisplayState.displayService, pending, Tubes.latchOpen, low, Bool.not_true,
    Bool.or_false, Bool.false_eq_true, if_false]
  refine ⟨iff_of_false ?_ ?_, valid.next, valid.prepared, fun _ => valid.shown same, ?_,
    fun _ _ => ⟨rfl, rfl, rfl, rfl⟩, (fun impossible => by cases impossible), fun _ twice => ?_⟩
  · exact fun high => by cases low.symm.trans high
  · rintro (impossible | impossible) <;> cases impossible
  · rintro (impossible | impossible) <;> cases impossible
  · dsimp only
    rw [Tubes.tubesLoad_outputs _ _ low]
    exact valid.drawn same twice

theorem Valid.redraw (valid : rig.Valid constants) {after : DisplayState}
    (seconds : DisplayState.SameSeconds rig.display after)
    (overlay : rig.phase = .begun → 0 < rig.prepares → after.overlayOn = true) :
    ({ rig with display := after.redraw } : Rig).Valid constants := by
  obtain ⟨same, redraws⟩ := after.redraw_spec
  have known (some : 0 < rig.prepares) : after.next.known = true := by
    rw [seconds.next]
    exact (valid.next some).known
  have pulse : after.tubes.pulse = rig.display.tubes.pulse := by
    rw [seconds.tubes]
  have drawn {second : DisplaySecond} {frame : TubesFrame} (drawn : after.Drawn second frame) :
      after.redraw.Drawn second frame := by
    rw [DisplayState.Drawn, same.overlayOn, same.overlay, same.settings]
    exact drawn
  refine ⟨?_, fun some => ?_, fun some => ?_, fun open_ twice => ?_, fun phase => ?_,
    fun loaded some => ?_, fun begun some => ?_, fun open_ twice => ?_⟩
  · dsimp only
    rw [same.pulse, pulse]
    exact valid.pulse
  · dsimp only
    rw [same.next, seconds.next]
    exact valid.next some
  · dsimp only
    rw [(redraws (known some)).prepared, same.render, same.next]
  · dsimp only
    rw [same.shown, seconds.shown]
    exact valid.shown open_ twice
  · obtain ⟨some, pending, unloaded⟩ := valid.waiting phase
    refine ⟨some, ?_, (redraws (known some)).unloaded (seconds.pending.trans pending) ?_⟩
    · exact same.pending.trans (seconds.pending.trans pending)
    · rw [seconds.tubes]
      exact unloaded
  · obtain ⟨unpending, _⟩ := valid.loaded loaded some
    have low : after.tubes.pulse = false := pulse.trans (valid.low (.inr loaded))
    exact ⟨same.pending.trans (seconds.pending.trans unpending),
      (redraws (known some)).loaded (seconds.pending.trans unpending) low⟩
  · have on := overlay begun some
    refine drawn ⟨fun _ => ?_, fun off => absurd (on.symm.trans off) nofun⟩
    dsimp only
    rw [(redraws (known some)).outputs, DisplayState.render, if_pos on]
  · have some : 0 < rig.prepares := Nat.lt_of_lt_of_le Nat.zero_lt_two twice
    dsimp only
    rw [(redraws (known some)).outputs, same.shown]
    refine drawn (DisplayState.drawn_render ?_)
    rw [seconds.shown]
    exact (valid.shown open_ twice).known

theorem tells_at {second : DisplaySecond} {label : BitVec 32 × Bool}
    (tells : second.Tells constants label) (hundredths : Nat) :
    (second.at hundredths).Tells constants label :=
  ⟨tells.known, tells.utc, tells.zone, tells.civil, tells.synchronised⟩

theorem Valid.tick (valid : rig.Valid constants) (slot : Nat)
    (silent : rig.phase = .begun → 0 < rig.prepares → rig.display.tickDraws slot = false) :
    (rig.step constants (.tick slot)).Valid constants := by
  simp only [step, DisplayState.displayTick]
  cases draws : rig.display.tickDraws slot with
  | false => exact valid
  | true =>
      simp only [if_true, DisplayState.drawShown]
      refine ⟨?_, valid.next, valid.prepared, fun open_ twice => ?_, fun phase => ?_,
        fun loaded some => ?_, fun begun some => absurd ((silent begun some).symm.trans draws) nofun,
        fun open_ twice => ?_⟩
      · dsimp only
        rw [Tubes.tubesShow_pulse]
        exact valid.pulse
      · exact tells_at (valid.shown open_ twice) _
      · obtain ⟨some, pending, unloaded⟩ := valid.waiting phase
        exact ⟨some, pending, by simp [Tubes.tubesShow, unloaded]⟩
      · obtain ⟨unpending, waiting, _, frame⟩ := valid.loaded loaded some
        obtain ⟨register, kept, still⟩ :=
          Tubes.tubesShow_waiting rig.display.tubes _ waiting (valid.low (.inr loaded))
        exact ⟨unpending, still, register.trans frame, kept.trans frame⟩
      · dsimp only
        rw [Tubes.tubesShow_outputs]
        exact DisplayState.drawn_render (valid.shown open_ twice).known

theorem Valid.act (valid : rig.Valid constants) {act : RigAct} (onTime : rig.OnTime constants act) :
    (rig.step constants act).Valid constants := by
  obtain ⟨ordered, quiet⟩ := onTime
  cases act with
  | epoch => exact valid.epoch ordered
  | prepare clock =>
      obtain ⟨begun, known, synchronised, leap, follows⟩ := ordered
      exact valid.prepare begun known synchronised leap follows
  | pulseEnds => exact valid.pulseEnds ordered
  | service => exact valid.service ordered
  | tick slot => exact valid.tick slot quiet
  | change change =>
      simp only [step, DisplayState.changing]
      cases effective : rig.display.changed change with
      | none => exact valid
      | some after =>
          exact valid.redraw (DisplayState.changed_seconds effective) fun begun some =>
            quiet begun some after effective

theorem valid_invariant (constants : Constants) :
    (machine constants).Invariant (OnTime constants) (Valid constants) where
  start rig started := by
    obtain ⟨display, phase, none⟩ := started
    have few (some : 0 < rig.prepares) : False := by omega
    refine ⟨?_, fun some => (few some).elim, fun some => (few some).elim,
      fun _ twice => (few (by omega)).elim, ?_, fun _ some => (few some).elim,
      fun _ some => (few some).elim, fun _ twice => (few (by omega)).elim⟩
    · rw [display, phase]
      decide
    · rw [phase]
      rintro (impossible | impossible) <;> cases impossible
  step _ _ valid onTime := valid.act onTime

end Rig

/-- **The tubes show the second that is.** In every run in which each epoch is prepared
within its pulse, with the time known and labels one after another, and loaded after
it, changes and hundredths drawn at any moment, but between an epoch and its
preparation nothing except the overlay: from the preparation of the second epoch on,
whenever the epoch is prepared, the outputs show the overlay in force, or the second
it is labelled with, in some mode. -/
theorem tubes_show_labelled_second {constants : Constants} {rig : Rig}
    (reached : (Rig.machine constants).Reachable (Rig.OnTime constants) rig)
    (twice : 2 ≤ rig.prepares) (prepared : rig.phase ≠ .begun) : rig.Shows constants := by
  have valid := (Rig.valid_invariant constants).reachable reached
  obtain ⟨overlay, drawn⟩ := valid.drawn prepared twice
  refine ⟨overlay, fun off => ?_⟩
  obtain ⟨mode, frame⟩ := drawn off
  exact ⟨rig.display.shown, mode, valid.shown prepared twice, frame⟩

/-! ## A change between an epoch and its preparation -/

/-- Nothing synchronised, UTC, and no leap second. -/
def plainConstants : Constants where
  zone := timezoneInit
  synchronised := false
  leap := ⟨0, 0⟩

/-- The clock at so many seconds past the hour. -/
def clockAt (seconds : Nat) : DisplayClock where
  known := true
  synchronised := false
  utcSeconds := 1767225600 + BitVec.ofNat 32 seconds
  leapSecond := false
  leap := ⟨0, 0⟩
  uncertaintyValid := false
  uncertaintyNs := 0

def wholeEpoch (seconds : Nat) : List RigAct :=
  [.epoch, .prepare (clockAt seconds), .pulseEnds, .service]

/-- Two epochs in MMSS, a third begun, the alarm's dot put on, and the third prepared. -/
def dotBetween : List RigAct :=
  [.change (.setMode .mmss)] ++ wholeEpoch 0 ++ wholeEpoch 1 ++
    [.epoch, .change (.setAlarmDot true), .prepare (clockAt 2)]

def freshRig : Rig where
  display := .displayInit
  phase := .loaded
  label := (0, false)
  prepares := 0

theorem tubes_show_labelled_second_plain :
    ∃ rig, (Rig.machine plainConstants).Reachable (Rig.OnTime plainConstants) rig ∧
      rig.Shows plainConstants := by
  have started : (Rig.machine plainConstants).Reachable (Rig.OnTime plainConstants) freshRig :=
    .start ⟨rfl, rfl, rfl⟩
  have first := (((started.step .epoch ⟨rfl, nofun⟩).step (.prepare (clockAt 0))
    ⟨⟨rfl, rfl, rfl, rfl, nofun⟩, fun _ _ => trivial⟩).step .pulseEnds ⟨rfl, nofun⟩).step .service
    ⟨rfl, nofun⟩
  have second := (first.step .epoch ⟨rfl, nofun⟩).step (.prepare (clockAt 1))
    ⟨⟨rfl, rfl, rfl, rfl, fun _ => by decide⟩, fun _ _ => trivial⟩
  exact ⟨_, second, tubes_show_labelled_second second (by decide) nofun⟩

/-- What the tubes show of the second past the hour is no rendering of the next. -/
theorem draw_clockAt_ne {second : DisplaySecond} {settings : DisplaySettings}
    (tells : second.Tells plainConstants (1767225602, false))
    (utcDelta : settings.deltaEpoch = 0 ∧ settings.deltaLocal = false) (mode : DisplayMode)
    {frame : TubesFrame} (left : frame.tube 0 = 0x3F ∧ frame.tube 1 = 0x3F)
    (right : frame.tube 3 = 0x06) : frame ≠ mode.draw settings second.view := by
  intro same
  have tubes (tube : Nat) :
      frame.tube tube = (mode.render settings second.view {}).tube tube := by
    rw [same, tube_draw]
  have civil : second.view.local_ =
      { year := 2026, month := 1, day := 1, hour := 0, minute := 0, second := 2 } := by
    rw [tells.civil]
    decide +kernel
  cases mode with
  | hhmm =>
      have drawn := tubes 3
      rw [DisplayMode.render, renderHhmm, tube_blink, tube_number_right, civil, right] at drawn
      exact absurd drawn (by decide)
  | mmss =>
      have drawn := tubes 3
      rw [DisplayMode.render, renderMmss, tube_blink, pair, tube_number_right, civil, right] at drawn
      exact absurd drawn (by decide)
  | ssmm =>
      have drawn := tubes 1
      rw [DisplayMode.render, renderSsmm, tube_blink, tube_pair_left, civil, left.2] at drawn
      exact absurd drawn (by decide)
  | yyyy =>
      have drawn := tubes 0
      rw [DisplayMode.render, renderYyyy, tube_blink, civil, left.1] at drawn
      exact absurd drawn (by decide)
  | mmdd =>
      have drawn := tubes 1
      rw [DisplayMode.render, renderMmdd, tube_blink, tube_pair_left, civil, left.2] at drawn
      exact absurd drawn (by decide)
  | delta =>
      have drawn := tubes 0
      have past : ¬(1767225602 : BitVec 32) < 0 := by decide
      simp only [DisplayMode.render, renderDelta, utcDelta, tells.utc, left.1, Bool.false_eq_true,
        if_false, if_neg past, tube_blink] at drawn
      -- 56 years
      exact absurd drawn (by decide +kernel)
  | uncertainty =>
      have unit := tube_renderUncertainty second.view {}
      have drawn : frame.tube 3 = (renderUncertainty second.view {}).tube 3 := tubes 3
      rw [← drawn, right] at unit
      exact absurd unit (by decide)

/-- **The second before.** The alarm's dot is put on after an epoch and before it is
prepared: the tubes show the second before from then on. -/
theorem earlier_second_shown :
    ¬∀ rig, (Rig.machine plainConstants).Reachable (Rig.Ordered plainConstants) rig →
      2 ≤ rig.prepares → rig.phase ≠ .begun → rig.Shows plainConstants := by
  intro claimed
  have ordered : (Rig.machine plainConstants).Reachable (Rig.Ordered plainConstants)
      (dotBetween.foldl (Rig.step plainConstants) freshRig) := by
    have started : (Rig.machine plainConstants).Reachable (Rig.Ordered plainConstants) freshRig :=
      .start ⟨rfl, rfl, rfl⟩
    exact started.run (Machine.Run.of_admitted (by decide +kernel))
  obtain ⟨_, shows⟩ := claimed _ ordered (by decide) (by decide)
  obtain ⟨second, mode, tells, frame⟩ := shows (by decide)
  exact draw_clockAt_ne tells (by decide) mode (by decide) (by decide) frame

end GpsClock.Display
