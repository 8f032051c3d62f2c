import GpsClock.Lib.Machine
import GpsClock.Sync.SourceNtp
import GpsClock.Timing.Timebase

/-! # The watched pins

`pps_monitor.c`'s interrupt. A pin may change between any two steps of the handler, and its change sets
the flag the handler runs for and clears. Where a level outlasts a run of the handler, every rising edge
is counted once, with a stamp from the run that saw it (`GpsClock.Sync.PpsMonitor.edges_counted`).
-/

namespace GpsClock.Sync

open GpsClock.Timing

/-- An input's `Watch`, with the level its pin was last seen at. -/
structure PinWatch extends Watch where
  high : Bool

/-- A pin's level, and the cycle it was read on. -/
structure PinRead where
  high : Bool
  read : Nat

/-- A run of the handler: what it read of `epoch_timer_ms`, and when it started. -/
structure CnRun where
  nowMs : BitVec 32
  started : Nat

/-- The step `_CNInterrupt` takes next, with its locals; `taken` is the cycle of the stamp. -/
inductive CnHandler
  | idle
  | clear (run : CnRun)
  | timebase (run : CnRun) (any : Bool)
  | readGnss (run : CnRun) (any : Bool) (taken : Nat)
  | readEsp (run : CnRun) (any : Bool) (taken : Nat) (gnss : PinRead)
  | compare (run : CnRun) (any : Bool) (taken : Nat) (gnss esp : PinRead)

/-- A rising edge counted. -/
structure CountedEdge where
  input : PpsInput
  stamp : BitVec 32
  started : Nat
  taken : Nat
  read : Nat

/-- The watches, the pins with CNIF, and the clocks; then how many steps ago each pin changed, how
often it has risen and the edges counted. -/
structure PpsMonitor where
  watches : PpsInput → PinWatch
  unseen : BitVec 32 := 0
  handler : CnHandler := .idle
  pins : PpsInput → Bool
  cnif : Bool := false
  now : Nat
  nowMs : BitVec 32
  age : PpsInput → Nat
  rises : PpsInput → Nat := fun _ => 0
  edges : List CountedEdge := []

namespace PpsMonitor

/-- `pps_monitor_init`, the pins at rest. -/
def init (pins : PpsInput → Bool) (now : Nat) (nowMs : BitVec 32) (age : PpsInput → Nat) :
    PpsMonitor where
  watches input := { high := pins input }
  pins := pins
  now := now
  nowMs := nowMs
  age := age

/-- The handler compares one pin. -/
def follow (monitor : PpsMonitor) (run : CnRun) (taken : Nat) (input : PpsInput) (level : PinRead) :
    PpsMonitor :=
  let watch := monitor.watches input
  if level.high = watch.high then monitor
  else if level.high then
    let stamp := BitVec.ofNat 32 taken
    { monitor with
      watches :=
        Function.update monitor.watches input
          { watch.risingEdge stamp run.nowMs with high := level.high }
      edges := monitor.edges ++ [⟨input, stamp, run.started, taken, level.read⟩] }
  else
    { monitor with watches := Function.update monitor.watches input { watch with high := level.high } }

/-- The handler has a pin that is not as it was. -/
def changed (monitor : PpsMonitor) (gnss esp : PinRead) : Bool :=
  gnss.high != (monitor.watches .gnss).high || esp.high != (monitor.watches .esp).high

/-- The next step of `_CNInterrupt`, which runs whenever the flag is set. -/
def handle (monitor : PpsMonitor) : PpsMonitor :=
  match monitor.handler with
  | .idle =>
      if monitor.cnif then { monitor with handler := .clear ⟨monitor.nowMs, monitor.now⟩ }
      else monitor
  | .clear run =>
      { monitor with
        cnif := false
        handler := .timebase run false }
  | .timebase run any => { monitor with handler := .readGnss run any monitor.now }
  | .readGnss run any taken =>
      { monitor with handler := .readEsp run any taken ⟨monitor.pins .gnss, monitor.now⟩ }
  | .readEsp run any taken gnss =>
      { monitor with handler := .compare run any taken gnss ⟨monitor.pins .esp, monitor.now⟩ }
  | .compare run any taken gnss esp =>
      let followed := (monitor.follow run taken .gnss gnss).follow run taken .esp esp
      if monitor.changed gnss esp then { followed with handler := .timebase run true }
      else
        { followed with
          handler := .idle
          unseen := if any then followed.unseen else followed.unseen + 1 }

inductive Act
  /-- A pin changes, which sets the flag. -/
  | change (input : PpsInput)
  /-- The handler's next step; where it does not run, as much of anything else. -/
  | step
  /-- Time goes by. -/
  | elapse (cycles : Nat) (nowMs : BitVec 32)

def act (monitor : PpsMonitor) : Act → PpsMonitor
  | .change input =>
      { monitor with
        pins := Function.update monitor.pins input (!monitor.pins input)
        cnif := true
        age := Function.update monitor.age input 0
        rises :=
          Function.update monitor.rises input
            (monitor.rises input + if monitor.pins input then 0 else 1) }
  | .step => { monitor.handle with age := fun input => monitor.age input + 1 }
  | .elapse cycles nowMs =>
      { monitor with
        now := monitor.now + cycles
        nowMs := nowMs }

def machine : Machine PpsMonitor Act where
  start monitor := ∃ pins now nowMs age, monitor = init pins now nowMs age
  step := act

/-- How many steps a run of the handler takes, if it passes its loop once. -/
def runSteps : Nat := 6

/-- A level lasts a run of the handler at least. -/
def admits (monitor : PpsMonitor) : Act → Prop
  | .change input => runSteps ≤ monitor.age input
  | .step | .elapse _ _ => True

instance (monitor : PpsMonitor) (act : Act) : Decidable (monitor.admits act) :=
  match act with
  | .change input => inferInstanceAs (Decidable (runSteps ≤ monitor.age input))
  | .step | .elapse _ _ => isTrue trivial

/-- How many of an input's rising edges have been counted. -/
def counted (monitor : PpsMonitor) (input : PpsInput) : Nat :=
  monitor.edges.countP fun edge => edge.input = input

/-- Every rising edge is counted once, before the pin rises again, and nothing else is; its stamp is
taken between the start of the run that saw it and the read of its pin; and with nothing pending the
pins are as they were last seen. -/
structure Faithful (monitor : PpsMonitor) : Prop where
  sequence : ∀ input,
    (monitor.watches input).sequence = BitVec.ofNat 32 (monitor.counted input)
  once : ∀ input, monitor.counted input ≤ monitor.rises input ∧
    monitor.rises input ≤ monitor.counted input + 1
  stamps : ∀ edge ∈ monitor.edges, edge.started ≤ edge.taken ∧ edge.taken ≤ edge.read ∧
    edge.stamp = BitVec.ofNat 32 edge.taken
  settled : monitor.handler = .idle → monitor.cnif = false → ∀ input,
    (monitor.watches input).high = monitor.pins input ∧
      monitor.rises input = monitor.counted input

/-- A run once started takes that long. -/
theorem run_takes {monitor : PpsMonitor} (idle : monitor.handler = .idle)
    (flag : monitor.cnif = true) {steps : Nat} (some : 0 < steps) (few : steps < runSteps) :
    ((fun monitor => act monitor .step)^[steps] monitor).handler ≠ .idle := by
  unfold runSteps at few
  interval_cases steps <;> simp [act, handle, idle, flag]

/-! ## What the handler has of a pin -/

/-- The level read of a pin, or else recorded. -/
def recorded (monitor : PpsMonitor) (input : PpsInput) : Bool :=
  match monitor.handler, input with
  | .readEsp _ _ _ gnss, .gnss => gnss.high
  | .compare _ _ _ gnss _, .gnss => gnss.high
  | .compare _ _ _ _ esp, .esp => esp.high
  | _, _ => (monitor.watches input).high

/-- In how many steps a pin is read at the latest, if anything is to read it. -/
def due : CnHandler → PpsInput → Nat
  | .idle, .gnss => 4
  | .idle, .esp => 5
  | .clear _, .gnss => 3
  | .clear _, .esp => 4
  | .timebase _ _, .gnss => 2
  | .timebase _ _, .esp => 3
  | .readGnss _ _ _, .gnss => 1
  | .readGnss _ _ _, .esp => 2
  | .readEsp _ _ _ _, .gnss => 6
  | .readEsp _ _ _ _, .esp => 1
  | .compare _ _ _ _ _, .gnss => 5
  | .compare _ _ _ _ _, .esp => 6

/-- A pin is read again only by another run. -/
def past : CnHandler → PpsInput → Bool
  | .idle, _ | .readEsp _ _ _ _, .gnss | .compare _ _ _ _ _, _ => true
  | _, _ => false

/-- The handler's own times are in order. -/
def Ordered (now : Nat) : CnHandler → Prop
  | .idle => True
  | .clear run | .timebase run _ => run.started ≤ now
  | .readGnss run _ taken => run.started ≤ taken ∧ taken ≤ now
  | .readEsp run _ taken gnss => run.started ≤ taken ∧ taken ≤ gnss.read ∧ taken ≤ now
  | .compare run _ taken gnss esp =>
      run.started ≤ taken ∧ taken ≤ gnss.read ∧ taken ≤ esp.read ∧ taken ≤ now

/-- One, if a level rises to another. -/
def rise (before after : Bool) : Nat := if before then 0 else if after then 1 else 0

/-- What every step keeps: a level not yet read is read before the pin may change again, and a rising
edge not counted is one read or still to be read. -/
structure Sound (monitor : PpsMonitor) : Prop where
  reads : ∀ input, monitor.recorded input ≠ monitor.pins input →
    monitor.age input + due monitor.handler input ≤ runSteps ∧
      (past monitor.handler input = true → monitor.cnif = true)
  rises : ∀ input, monitor.rises input =
    monitor.counted input + rise (monitor.watches input).high (monitor.recorded input) +
      rise (monitor.recorded input) (monitor.pins input)
  sequence : ∀ input,
    (monitor.watches input).sequence = BitVec.ofNat 32 (monitor.counted input)
  stamps : ∀ edge ∈ monitor.edges, edge.started ≤ edge.taken ∧ edge.taken ≤ edge.read ∧
    edge.stamp = BitVec.ofNat 32 edge.taken
  ordered : Ordered monitor.now monitor.handler

/-! ## One pin compared -/

/-- What comparing a pin with its level leaves and changes. -/
structure Follows (monitor next : PpsMonitor) (run : CnRun) (taken : Nat) (input : PpsInput)
    (level : PinRead) : Prop where
  pins : next.pins = monitor.pins
  rises : next.rises = monitor.rises
  age : next.age = monitor.age
  cnif : next.cnif = monitor.cnif
  now : next.now = monitor.now
  others : ∀ other, other ≠ input →
    next.watches other = monitor.watches other ∧ next.counted other = monitor.counted other
  high : (next.watches input).high = level.high
  counted : next.counted input =
    monitor.counted input + rise (monitor.watches input).high level.high
  sequence : (monitor.watches input).sequence = BitVec.ofNat 32 (monitor.counted input) →
    (next.watches input).sequence = BitVec.ofNat 32 (next.counted input)
  edges : ∀ edge ∈ next.edges, edge ∈ monitor.edges ∨
    edge = ⟨input, BitVec.ofNat 32 taken, run.started, taken, level.read⟩

section

variable {monitor : PpsMonitor} {run : CnRun} {taken : Nat} {input : PpsInput} {level : PinRead}

theorem follows : monitor.Follows (monitor.follow run taken input level) run taken input level := by
  unfold follow
  dsimp only
  by_cases same : level.high = (monitor.watches input).high
  · rw [if_pos same]
    have none : rise (monitor.watches input).high level.high = 0 := by
      rw [same]
      cases (monitor.watches input).high <;> rfl
    exact ⟨rfl, rfl, rfl, rfl, rfl, fun _ _ => ⟨rfl, rfl⟩, same.symm, none ▸ rfl, id,
      fun edge member => Or.inl member⟩
  · rw [if_neg same]
    by_cases high : level.high = true
    · rw [if_pos high]
      have low : (monitor.watches input).high = false := by
        rw [high] at same
        exact Bool.eq_false_iff.mpr (Ne.symm same)
      have one : rise (monitor.watches input).high level.high = 1 := by
        rw [low, high]
        rfl
      have count : ∀ other, (monitor.edges ++
          [(⟨input, BitVec.ofNat 32 taken, run.started, taken, level.read⟩ : CountedEdge)]).countP
            (fun edge => edge.input = other) =
          monitor.counted other + if input = other then 1 else 0 := by
        intro other
        rw [List.countP_append, List.countP_singleton, counted]
        by_cases its : input = other
        · rw [if_pos its, if_pos (decide_eq_true its)]
        · rw [if_neg its, if_neg (mt of_decide_eq_true its)]
      have here := count input
      rw [if_pos rfl] at here
      refine ⟨rfl, rfl, rfl, rfl, rfl, fun other apart => ⟨?_, ?_⟩, ?_, ?_, fun before => ?_,
        fun edge member => ?_⟩
      · exact Function.update_of_ne apart _ _
      · have there := count other
        rw [if_neg (Ne.symm apart)] at there
        exact there
      · dsimp only
        rw [Function.update_self]
      · rw [one]
        exact here
      · dsimp only
        rw [Function.update_self]
        change (monitor.watches input).sequence + 1 = BitVec.ofNat 32 (List.countP _ _)
        rw [here, before]
        exact (BitVec.ofNat_add _ 1).symm
      · rcases List.mem_append.mp member with old | new
        · exact Or.inl old
        · exact Or.inr (List.mem_singleton.mp new)
    · rw [if_neg high]
      have none : rise (monitor.watches input).high level.high = 0 := by
        rw [Bool.eq_false_iff.mpr high]
        cases (monitor.watches input).high <;> rfl
      refine ⟨rfl, rfl, rfl, rfl, rfl, fun other apart => ⟨?_, rfl⟩, ?_, none ▸ rfl, fun before => ?_,
        fun edge member => Or.inl member⟩
      · exact Function.update_of_ne apart _ _
      · dsimp only
        rw [Function.update_self]
      · dsimp only
        rw [Function.update_self]
        exact before

end

/-! ## Every step -/

theorem rise_self (level : Bool) : rise level level = 0 := by
  cases level <;> rfl

theorem rise_le (first second third : Bool) : rise first second + rise second third ≤ 1 := by
  cases first <;> cases second <;> cases third <;> decide

theorem due_bounds (handler : CnHandler) (input : PpsInput) :
    0 < due handler input ∧ due handler input ≤ runSteps := by
  cases handler <;> cases input <;> simp [due, runSteps]

/-- What a step of the handler does to what it has of a pin: it comes nearer to reading it, or it has
just read it. -/
def Nearer (monitor next : PpsMonitor) (input : PpsInput) : Prop :=
  (next.recorded input = monitor.recorded input ∧
      due next.handler input < due monitor.handler input ∧
      (past next.handler input = true →
        past monitor.handler input = true ∧ next.cnif = monitor.cnif)) ∨
    (next.recorded input = monitor.pins input ∧
      monitor.recorded input = (monitor.watches input).high)

namespace Sound

variable {monitor next : PpsMonitor}

theorem reads_nearer (sound : monitor.Sound) {input : PpsInput} (pins : next.pins = monitor.pins)
    (nearer : monitor.Nearer next input) (unread : next.recorded input ≠ next.pins input) :
    monitor.age input + 1 + due next.handler input ≤ runSteps ∧
      (past next.handler input = true → next.cnif = true) := by
  rw [pins] at unread
  rcases nearer with ⟨same, sooner, flag⟩ | ⟨read, _⟩
  · rw [same] at unread
    obtain ⟨soon, flagged⟩ := sound.reads input unread
    refine ⟨by omega, fun later => ?_⟩
    obtain ⟨before, kept⟩ := flag later
    rw [kept]
    exact flagged before
  · exact absurd read unread

/-- A step that compares nothing. -/
theorem nearer (sound : monitor.Sound) (watches : next.watches = monitor.watches)
    (pins : next.pins = monitor.pins) (rises : next.rises = monitor.rises)
    (edges : next.edges = monitor.edges)
    (age : next.age = fun input => monitor.age input + 1)
    (each : ∀ input, monitor.Nearer next input) (ordered : Ordered next.now next.handler) :
    next.Sound where
  reads := by
    intro input unread
    rw [age]
    exact sound.reads_nearer pins (each input) unread
  rises := by
    intro input
    have rises' := sound.rises input
    have count : next.counted input = monitor.counted input := by rw [counted, edges, counted]
    rw [rises, watches, pins, count]
    rcases each input with ⟨same, _, _⟩ | ⟨read, before⟩
    · rw [same]
      exact rises'
    · rw [before, rise_self] at rises'
      rw [read, rise_self]
      exact rises'
  sequence := by
    intro input
    have count : next.counted input = monitor.counted input := by rw [counted, edges, counted]
    rw [watches, count]
    exact sound.sequence input
  stamps := by
    rw [edges]
    exact sound.stamps
  ordered := ordered

/-- The handler compares what it has read, and starts again or ends. -/
theorem compared (sound : monitor.Sound) {run : CnRun} {any : Bool} {taken : Nat}
    {gnss esp : PinRead} (here : monitor.handler = .compare run any taken gnss esp)
    (pins : next.pins = monitor.pins) (rises : next.rises = monitor.rises)
    (cnif : next.cnif = monitor.cnif)
    (watches : next.watches = ((monitor.follow run taken .gnss gnss).follow run taken .esp esp).watches)
    (edges : next.edges = ((monitor.follow run taken .gnss gnss).follow run taken .esp esp).edges)
    (age : next.age = fun input => monitor.age input + 1)
    (ends : next.handler = .idle ∨ next.handler = .timebase run true)
    (ordered : Ordered next.now next.handler) : next.Sound := by
  have first : monitor.Follows _ run taken .gnss gnss := follows
  have second : (monitor.follow run taken .gnss gnss).Follows _ run taken .esp esp := follows
  obtain ⟨espWatch, espCount⟩ := first.others .esp (by decide)
  obtain ⟨gnssWatch, gnssCount⟩ := second.others .gnss (by decide)
  have count : ∀ input, next.counted input =
      ((monitor.follow run taken .gnss gnss).follow run taken .esp esp).counted input := by
    intro input
    rw [counted, edges, counted]
  have recorded : ∀ input, next.recorded input = (next.watches input).high := by
    intro input
    unfold PpsMonitor.recorded
    rcases ends with ends | ends
    · rw [ends]
    · rw [ends]
  have level : ∀ input, (next.watches input).high = monitor.recorded input := by
    intro input
    unfold PpsMonitor.recorded
    rw [here, watches]
    cases input
    · rw [gnssWatch]
      exact first.high
    · exact second.high
  have added : ∀ input, next.counted input =
      monitor.counted input + rise (monitor.watches input).high (monitor.recorded input) := by
    intro input
    unfold PpsMonitor.recorded
    rw [here, count]
    cases input
    · rw [gnssCount]
      exact first.counted
    · rw [second.counted, espCount, espWatch]
  have sooner : ∀ input, monitor.Nearer next input := by
    intro input
    refine Or.inl ⟨(recorded input).trans (level input), ?_, ?_⟩
    · rw [here]
      rcases ends with ends | ends
      · rw [ends]
        cases input <;> simp [due]
      · rw [ends]
        cases input <;> simp [due]
    · intro _
      rw [here]
      exact ⟨by cases input <;> rfl, cnif⟩
  refine ⟨fun input unread => ?_, fun input => ?_, fun input => ?_, fun edge member => ?_, ordered⟩
  · rw [age]
    exact sound.reads_nearer pins (sooner input) unread
  · rw [recorded input, rise_self, level input, added input, rises, pins, sound.rises input]
    rfl
  · rw [watches, count]
    cases input
    · rw [gnssWatch, gnssCount]
      exact first.sequence (sound.sequence .gnss)
    · apply second.sequence
      rw [espWatch, espCount]
      exact sound.sequence .esp
  · rw [edges] at member
    have order := sound.ordered
    rw [here] at order
    rcases second.edges edge member with earlier | rfl
    · rcases first.edges edge earlier with old | rfl
      · exact sound.stamps edge old
      · exact ⟨order.1, order.2.1, rfl⟩
    · exact ⟨order.1, order.2.2.1, rfl⟩

/-- The recorded level is the pin's where the handler does not run and is not called for. -/
theorem settled (sound : monitor.Sound) (idle : monitor.handler = .idle)
    (clear : monitor.cnif = false) (input : PpsInput) :
    (monitor.watches input).high = monitor.recorded input ∧
      monitor.recorded input = monitor.pins input := by
  have same : (monitor.watches input).high = monitor.recorded input := by
    unfold PpsMonitor.recorded
    rw [idle]
  refine ⟨same, ?_⟩
  by_contra unread
  have flagged := (sound.reads input unread).2
  rw [idle, clear] at flagged
  exact Bool.false_ne_true (flagged rfl)

theorem handle (sound : monitor.Sound) : (monitor.act .step).Sound := by
  have order := sound.ordered
  have handled : monitor.act .step =
      { monitor.handle with age := fun input => monitor.age input + 1 } := rfl
  rw [handled]
  unfold PpsMonitor.handle
  cases here : monitor.handler with
  | idle =>
      dsimp only
      by_cases flag : monitor.cnif = true
      · rw [if_pos flag]
        refine sound.nearer rfl rfl rfl rfl rfl (fun input => Or.inl ⟨?_, ?_, ?_⟩) (Nat.le_refl _)
        · unfold PpsMonitor.recorded
          rw [here]
        · rw [here]
          cases input <;> simp [due]
        · intro again
          cases input <;> cases again
      · rw [if_neg flag]
        have settled := sound.settled here (Bool.eq_false_iff.mpr flag)
        refine sound.nearer rfl rfl rfl rfl rfl (fun input => Or.inr ⟨?_, ?_⟩) order
        · exact (settled input).2
        · exact (settled input).1.symm
  | clear run =>
      rw [here] at order
      refine sound.nearer rfl rfl rfl rfl rfl (fun input => Or.inl ⟨?_, ?_, ?_⟩) order
      · unfold PpsMonitor.recorded
        rw [here]
      · rw [here]
        cases input <;> simp [due]
      · intro again
        cases input <;> cases again
  | timebase run any =>
      rw [here] at order
      refine sound.nearer rfl rfl rfl rfl rfl (fun input => Or.inl ⟨?_, ?_, ?_⟩)
        ⟨order, Nat.le_refl _⟩
      · unfold PpsMonitor.recorded
        rw [here]
      · rw [here]
        cases input <;> simp [due]
      · intro again
        cases input <;> cases again
  | readGnss run any taken =>
      rw [here] at order
      refine sound.nearer rfl rfl rfl rfl rfl (fun input => ?_) ⟨order.1, order.2, order.2⟩
      cases input with
      | gnss =>
          refine Or.inr ⟨rfl, ?_⟩
          unfold PpsMonitor.recorded
          rw [here]
      | esp =>
          refine Or.inl ⟨?_, ?_, fun again => ?_⟩
          · unfold PpsMonitor.recorded
            rw [here]
          · rw [here]
            simp [due]
          · cases again
  | readEsp run any taken gnss =>
      rw [here] at order
      refine sound.nearer rfl rfl rfl rfl rfl (fun input => ?_) ⟨order.1, order.2.1, order.2.2, order.2.2⟩
      cases input with
      | gnss =>
          refine Or.inl ⟨?_, ?_, fun _ => ⟨?_, rfl⟩⟩
          · unfold PpsMonitor.recorded
            rw [here]
          · rw [here]
            simp [due]
          · rw [here]
            rfl
      | esp =>
          refine Or.inr ⟨rfl, ?_⟩
          unfold PpsMonitor.recorded
          rw [here]
  | compare run any taken gnss esp =>
      rw [here] at order
      have first : monitor.Follows _ run taken .gnss gnss := follows
      have second : (monitor.follow run taken .gnss gnss).Follows _ run taken .esp esp := follows
      dsimp only
      by_cases changed : monitor.changed gnss esp = true
      · rw [if_pos changed]
        refine sound.compared here (second.pins.trans first.pins) (second.rises.trans first.rises)
          (second.cnif.trans first.cnif) rfl rfl rfl (Or.inr rfl) ?_
        change run.started ≤ _
        rw [second.now, first.now]
        exact order.1.trans order.2.2.2
      · rw [if_neg changed]
        exact sound.compared here (second.pins.trans first.pins) (second.rises.trans first.rises)
          (second.cnif.trans first.cnif) rfl rfl rfl (Or.inl rfl) trivial

theorem change (sound : monitor.Sound) (input : PpsInput) (old : runSteps ≤ monitor.age input) :
    (monitor.act (.change input)).Sound := by
  have recorded : ∀ other, (monitor.act (.change input)).recorded other = monitor.recorded other :=
    fun _ => rfl
  -- A level not yet read is younger than that.
  have read : monitor.recorded input = monitor.pins input := by
    by_contra unread
    have soon := (sound.reads input unread).1
    have coming := (due_bounds monitor.handler input).1
    omega
  refine ⟨fun other unread => ⟨?_, fun _ => rfl⟩, fun other => ?_, sound.sequence, sound.stamps,
    sound.ordered⟩
  · by_cases its : other = input
    · subst its
      change Function.update monitor.age other 0 other + due monitor.handler other ≤ runSteps
      rw [Function.update_self, Nat.zero_add]
      exact (due_bounds monitor.handler other).2
    · change monitor.recorded other ≠ Function.update monitor.pins input _ other at unread
      change Function.update monitor.age input 0 other + due monitor.handler other ≤ runSteps
      rw [Function.update_of_ne its] at unread ⊢
      exact (sound.reads other unread).1
  · have rises := sound.rises other
    change Function.update monitor.rises input _ other =
      monitor.counted other + rise (monitor.watches other).high (monitor.recorded other) +
        rise (monitor.recorded other) (Function.update monitor.pins input _ other)
    by_cases its : other = input
    · subst its
      rw [read, rise_self] at rises
      rw [Function.update_self, Function.update_self, rises, read]
      cases monitor.pins other <;> rfl
    · rw [Function.update_of_ne its, Function.update_of_ne its]
      exact rises

theorem elapse (sound : monitor.Sound) (cycles : Nat) (nowMs : BitVec 32) :
    (monitor.act (.elapse cycles nowMs)).Sound := by
  refine ⟨sound.reads, sound.rises, sound.sequence, sound.stamps, ?_⟩
  have order := sound.ordered
  have later : monitor.now ≤ monitor.now + cycles := Nat.le_add_right _ _
  change Ordered (monitor.now + cycles) monitor.handler
  cases here : monitor.handler with
  | idle => trivial
  | clear run =>
      rw [here] at order
      exact order.trans later
  | timebase run any =>
      rw [here] at order
      exact order.trans later
  | readGnss run any taken =>
      rw [here] at order
      exact ⟨order.1, order.2.trans later⟩
  | readEsp run any taken gnss =>
      rw [here] at order
      exact ⟨order.1, order.2.1, order.2.2.trans later⟩
  | compare run any taken gnss esp =>
      rw [here] at order
      exact ⟨order.1, order.2.1, order.2.2.1, order.2.2.2.trans later⟩

theorem faithful (sound : monitor.Sound) : monitor.Faithful where
  sequence := sound.sequence
  once := by
    intro input
    have rises := sound.rises input
    have few := rise_le (monitor.watches input).high (monitor.recorded input) (monitor.pins input)
    omega
  stamps := sound.stamps
  settled := by
    intro idle clear input
    obtain ⟨same, read⟩ := sound.settled idle clear input
    have rises := sound.rises input
    rw [same, read, rise_self, Nat.add_zero] at rises
    exact ⟨same.trans read, rises⟩

end Sound

theorem invariant : machine.Invariant admits Sound where
  start := by
    rintro _ ⟨pins, now, nowMs, age, rfl⟩
    refine ⟨fun input unread => absurd rfl unread, fun input => ?_, fun _ => rfl,
      fun edge member => absurd member List.not_mem_nil, trivial⟩
    exact (rise_self (pins input)).symm.trans
      ((Nat.zero_add _).symm.trans (congrArg (0 + · + _) (rise_self (pins input)).symm))
  step := by
    intro monitor act sound admitted
    cases act with
    | change input => exact sound.change input admitted
    | step => exact sound.handle
    | elapse cycles nowMs => exact sound.elapse cycles nowMs

end PpsMonitor

end GpsClock.Sync
