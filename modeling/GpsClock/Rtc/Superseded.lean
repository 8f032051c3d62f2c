import GpsClock.Rtc.Acts

/-! # What was read before a setting

A setting leaves the second last found behind it, no longer valid, but not the result of the
search that found it: an epoch still to act on that result anchors the RTC, or confirms a
write, by a second read before the setting. With what is held from before the latest setting
kept beside the world, that is the only way anything is believed from it
(`GpsClock.Rtc.Followed.believed_iff`).
-/

namespace GpsClock.Rtc

open GpsClock.Platform GpsClock.Sync GpsClock.Timing

/-- What is believed of the chip from reading it. -/
inductive RtcBelief
  | anchor
  | baseline
  | rate
  | offset
  | lastWrite
  deriving DecidableEq, Repr

/-- Whether the latest setting accepted has still to reach the chip; which of the registers
read, the time decoded, the search's sample, the second found and the baseline were read
before it did; what has been believed from reads before a setting; whether a setting has come
between a search that found the second and the epoch to act on it; and whether an epoch has
then anchored the RTC's time or confirmed a write. -/
structure Superseded where
  owed : Bool := false
  registers : Bool := false
  status : Bool := false
  sample : Bool := false
  second : Bool := false
  baseline : Bool := false
  believed : List RtcBelief := []
  between : Bool := false
  actedOn : Bool := false
  deriving DecidableEq, Repr

instance (core : RtcCore) : Decidable core.Brackets :=
  decidable_of_iff
    (core.status.reads ≠ core.readsSeen ∧ core.status.calendarValid = true ∧
      core.status.stopped = false ∧ core.sampleValid = true ∧
      core.status.utcSeconds = core.sampleUtc + 1 ∧
      core.status.readStamp - core.sampleStamp ≤ sourceRtcSearchResolutionTicks)
    ⟨fun all => ⟨all.1, all.2.1, all.2.2.1, all.2.2.2.1, all.2.2.2.2.1, all.2.2.2.2.2⟩,
      fun brackets => ⟨brackets.fresh, brackets.calendarValid, brackets.running, brackets.sampled,
        brackets.next, brackets.near⟩⟩

/-- A search, for whatever purpose. -/
def RtcCore.Searching (core : RtcCore) : Prop :=
  core.activity = .searching ∨ core.activity = .confirming

instance (core : RtcCore) : Decidable core.Searching :=
  inferInstanceAs (Decidable (_ ∨ _))

namespace Superseded

/-- A setting is accepted, a second found still to be acted on or not: all that is held was
read before it. -/
def set (held : Superseded) (pending : Bool) : Superseded :=
  { held with
    between := held.between || pending
    owed := true
    registers := true
    status := true
    sample := true
    second := true
    baseline := true }

/-- The bus works on a transfer: a write reaches the chip, or ends without, and a read is made
before or after. -/
def bus (held : Superseded) (transfer : Pcf8563Transfer) (result : I2cResult) (taken : Bool) :
    Superseded :=
  match transfer with
  | .write =>
      { held with owed := held.owed && !(taken || I2cTransfer.done { result := result }) }
  | .read => { held with registers := held.owed }
  | .release => held

/-- A poll finds the second, or takes a sample. -/
def poll (held : Superseded) (core : RtcCore) : Superseded :=
  if core.Searching ∧ core.Brackets then
    let old := held.sample || held.status
    { held with
      second := old
      between := false
      baseline := old
      believed :=
        (if old then [.baseline] else []) ++
          (if core.purpose ≠ .confirm ∧ core.rate.baselineValid = true ∧
            (old || held.baseline) = true then [.rate] else []) ++ held.believed }
  else if core.Searching ∧ core.status.reads ≠ core.readsSeen then
    { held with sample := held.status }
  else held

/-- An epoch acts on the second found, or does not. -/
def epoch (held : Superseded) (acts anchors confirms measures : Bool) : Superseded :=
  let old := held.second && acts
  { held with
    believed :=
      (if old && anchors then [.anchor] else []) ++ (if old && confirms then [.lastWrite] else []) ++
        (if old && measures then [.offset] else []) ++ held.believed
    actedOn := held.actedOn || (held.between && acts && (anchors || confirms))
    between := false }

/-- A service takes up the registers read. -/
def service (held : Superseded) (reads : Bool) : Superseded :=
  if reads then { held with status := held.registers } else held

end Superseded

/-- The world, and what is held in it from before the latest setting. -/
structure Followed where
  world : World
  held : Superseded := {}

namespace Followed

def step (followed : Followed) (act : RtcAct) : Followed :=
  let source := followed.world.source
  let after := followed.world.step act
  { world := after
    held :=
      match act with
      | .oscillator _ | .report _ => followed.held
      | .epoch snapshot time synchronised boundNs =>
          followed.held.epoch (source.acts snapshot)
            (source.anchors snapshot (synchronised && time.known && !time.leapSecond) boundNs)
            source.core.confirms after.source.offsetMs.isSome
      | .poll _ => followed.held.poll source.core
      | .set utcSeconds =>
          if (source.set utcSeconds).1 then
            followed.held.set (source.search.done && source.search.found)
          else followed.held
      | .service _ =>
          followed.held.service (after.source.rtc.status.reads != source.rtc.status.reads)
      | .bus transfer result taken _ _ => followed.held.bus transfer result taken }

def Admits (followed : Followed) (act : RtcAct) : Prop :=
  World.Admits followed.world act

instance (followed : Followed) (act : RtcAct) : Decidable (followed.Admits act) :=
  inferInstanceAs (Decidable (World.Admits _ _))

end Followed

/-- From start-up, with no setting accepted yet. -/
def followedMachine : Machine Followed RtcAct where
  start followed := rtcMachine.start followed.world ∧ followed.held = {}
  step := Followed.step

/-! ## What every step keeps -/

/-- Nothing from before the setting is in the way of what the source goes on to believe: the
write goes first, the read after it is made after it, a search looks only at reads made since
it started, and the second found before is not valid. It is acted on only where the setting
came before the epoch that was to act on it. -/
structure RtcCore.Past (core : RtcCore) (held : Superseded) : Prop where
  owed : held.owed = true →
    core.status.request = .writing ∧ (core.transfers .write).done = false
  registers : held.registers = true → core.status.request = .reading →
    (core.transfers .read).result ≠ .ok
  status : held.status = true → core.Searching → core.status.reads = core.readsSeen
  sample : held.sample = true → core.Searching → core.sampleValid = false
  second : held.second = true → core.second.valid = false
  baseline : held.baseline = true → core.rate.baselineValid = false
  pending : held.second = true → core.done = true → core.found = true → held.between = true
  between : held.between = true → held.second = true
  believed : held.believed = [] ↔ held.actedOn = false

namespace RtcCore

variable {core after : RtcCore} {held : Superseded}

theorem Past.set (past : core.Past held) (idle : core.activity = .idle) (utcSeconds : BitVec 32) :
    (core.wrote utcSeconds).Past (held.set (core.done && core.found)) := by
  have idle : ¬(core.wrote utcSeconds).Searching := by
    rintro (searching | confirming)
    · rw [show (core.wrote utcSeconds).activity = core.activity from rfl, idle] at searching
      cases searching
    · rw [show (core.wrote utcSeconds).activity = core.activity from rfl, idle] at confirming
      cases confirming
  refine ⟨fun _ => ⟨rfl, ?_⟩, fun _ reading => ?_, fun _ searching => absurd searching idle,
    fun _ searching => absurd searching idle, fun _ => rfl, fun _ => rfl, fun _ done found => ?_,
    fun _ => rfl, past.believed⟩
  · change (Function.update core.transfers .write _ .write).done = false
    rw [Function.update_self]
    rfl
  · cases reading
  · change (held.between || (core.done && core.found)) = true
    rw [show core.done = true from done, show core.found = true from found]
    exact Bool.or_true _

/-- A transfer of the request in progress on the bus. -/
theorem Past.bus (past : core.Past held) {transfer : Pcf8563Transfer} {result : I2cResult}
    {taken : Bool} {startStamp : BitVec 32} {status : Pcf8563Status}
    (waits : core.status.request.waitsFor = some transfer)
    (request : status.request = core.status.request) (reads : status.reads = core.status.reads) :
    Past
      { core with
        status := status
        transfers :=
          Function.update core.transfers transfer { result := result, startStamp := startStamp } }
      (held.bus transfer result taken) := by
  cases transfer with
  | write =>
      refine ⟨fun owed => ?_, fun old reading => ?_, fun old searching => ?_, past.sample,
        past.second, past.baseline, past.pending, past.between, past.believed⟩
      · obtain ⟨owed, still⟩ := Bool.and_eq_true_iff.mp owed
        refine ⟨request.trans (past.owed owed).1, ?_⟩
        change (Function.update core.transfers .write _ .write).done = false
        rw [Function.update_self]
        exact (Bool.or_eq_false_iff.mp (Bool.not_eq_true' _ ▸ still)).2
      · have same := Function.update_of_ne (by decide : Pcf8563Transfer.read ≠ .write)
          ({ result := result, startStamp := startStamp } : I2cTransfer) core.transfers
        exact fun ok => past.registers old (request.symm.trans reading)
          ((congrArg I2cTransfer.result same).symm.trans ok)
      · exact reads.trans (past.status old searching)
  | read =>
      have unowed : held.owed = false := by
        cases owed : held.owed with
        | false => rfl
        | true =>
            rw [(past.owed owed).1] at waits
            cases waits
      refine ⟨fun owed => ?_, fun old => ?_, fun old searching => ?_, past.sample, past.second,
        past.baseline, past.pending, past.between, past.believed⟩
      · exact absurd (unowed.symm.trans owed) Bool.false_ne_true
      · exact absurd (unowed.symm.trans old) Bool.false_ne_true
      · exact reads.trans (past.status old searching)
  | release =>
      refine ⟨fun owed => ?_, fun old reading => ?_, fun old searching => ?_, past.sample,
        past.second, past.baseline, past.pending, past.between, past.believed⟩
      · rw [(past.owed owed).1] at waits
        cases waits
      · have same := Function.update_of_ne (by decide : Pcf8563Transfer.read ≠ .release)
          ({ result := result, startStamp := startStamp } : I2cTransfer) core.transfers
        exact fun ok => past.registers old (request.symm.trans reading)
          ((congrArg I2cTransfer.result same).symm.trans ok)
      · exact reads.trans (past.status old searching)

/-- What changes neither the search nor what is found of the chip, and asks nothing more of
the driver than a read. -/
theorem Past.onward (past : core.Past held)
    (request : held.owed = true → after.status.request = core.status.request ∧
      (after.transfers .write).done = (core.transfers .write).done)
    (registers : held.registers = true → after.status.request = .reading →
      (after.transfers .read).result ≠ .ok)
    (search : after.Searching → after.status.reads = after.readsSeen ∧ after.sampleValid = false ∨
      core.Searching ∧ after.status.reads = core.status.reads ∧ after.readsSeen = core.readsSeen ∧
        after.sampleValid = core.sampleValid)
    (second : core.second.valid = false → after.second.valid = false)
    (baseline : core.rate.baselineValid = false → after.rate.baselineValid = false)
    (pending : after.done = true → after.found = true → core.done = true ∧ core.found = true) :
    after.Past held := by
  refine ⟨fun owed => ?_, registers, fun old searching => ?_, fun old searching => ?_,
    fun old => second (past.second old), fun old => baseline (past.baseline old),
    fun old done found => ?_, past.between, past.believed⟩
  · obtain ⟨writing, waiting⟩ := past.owed owed
    obtain ⟨sameRequest, sameDone⟩ := request owed
    exact ⟨sameRequest.trans writing, sameDone.trans waiting⟩
  · rcases search searching with ⟨seen, -⟩ | ⟨before, reads, seen, -⟩
    · exact seen
    · rw [reads, seen]
      exact past.status old before
  · rcases search searching with ⟨-, none⟩ | ⟨before, -, -, sampled⟩
    · exact none
    · rw [sampled]
      exact past.sample old before
  · obtain ⟨wasDone, wasFound⟩ := pending done found
    exact past.pending old wasDone wasFound

/-- A setting still to reach the chip keeps the driver to itself. -/
theorem Past.unowed (past : core.Past held) (free : core.status.request.waitsFor = none) :
    held.owed = false := by
  cases owed : held.owed with
  | false => rfl
  | true =>
      rw [(past.owed owed).1] at free
      cases free

/-- A read is asked for. -/
theorem Past.reads (past : core.Past held) (free : core.status.request.waitsFor = none) :
    (core.asks .read .reading).Past held := by
  have unowed := past.unowed free
  refine past.onward (fun owed => absurd (unowed.symm.trans owed) Bool.false_ne_true)
    (fun _ _ => ?_) (fun searching => .inr ⟨searching, rfl, rfl, rfl⟩) id id And.intro
  change (Function.update core.transfers .read _ .read).result ≠ .ok
  rw [Function.update_self]
  exact fun queued => by cases queued

/-- A search is begun. -/
theorem Past.searches (past : core.Past held) (free : core.status.request.waitsFor = none)
    (why : SearchPurpose) : (core.searches why).Past held := by
  have unowed := past.unowed free
  refine past.onward (fun owed => absurd (unowed.symm.trans owed) Bool.false_ne_true)
    (past.reads free).registers (fun _ => .inl ⟨rfl, rfl⟩) id id
    fun wrong => absurd wrong Bool.false_ne_true

/-- What a free source does at its epoch. -/
theorem Past.acts (past : core.Past held) (idle : core.activity = .idle)
    (free : core.status.request.waitsFor = none) (acts : core.Acts after) : after.Past held := by
  have owes : ∀ {holds : Prop}, held.owed = true → holds := fun owed =>
    absurd ((past.unowed free).symm.trans owed) Bool.false_ne_true
  have still : ∀ {after : RtcCore}, after.activity = core.activity → ¬after.Searching := by
    intro after same searching
    rw [Searching, same, idle] at searching
    rcases searching with searching | confirming
    · cases searching
    · cases confirming
  cases acts with
  | rests => exact past
  | writes utcSeconds =>
      refine past.onward owes (fun _ reading => ?_)
        (fun searching => absurd searching (still rfl)) (fun _ => rfl) (fun _ => rfl) And.intro
      cases reading
  | loads stamp label =>
      refine past.onward owes (fun _ reading => ?_) (fun searching => ?_) id (fun _ => rfl)
        And.intro
      · cases reading
      · rcases searching with searching | confirming
        · cases searching
        · cases confirming
  | refused stamp label =>
      refine past.onward owes past.registers (fun searching => ?_) id (fun _ => rfl) And.intro
      rcases searching with searching | confirming
      · cases searching
      · cases confirming
  | releases =>
      refine past.onward owes (fun _ reading => ?_)
        (fun searching => absurd searching (still rfl)) (fun _ => rfl) id And.intro
      cases reading
  | reads => exact past.reads free
  | searches why => exact past.searches free why

theorem acts_offsetMs (acts : core.Acts after) : after.offsetMs = core.offsetMs := by
  cases acts with
  | rests => rfl
  | writes utcSeconds => rfl
  | loads stamp label => rfl
  | refused stamp label => rfl
  | releases => rfl
  | reads => rfl
  | searches why => rfl

theorem decode_reads (status : Pcf8563Status) : status.decode.reads = status.reads := by
  obtain ⟨_, _, decoded⟩ := Pcf8563.decode_eq status
  rw [decoded]

/-- A transfer that ended is taken up, no setting waiting. -/
theorem Past.finishes (past : core.Past held) (unowed : held.owed = false)
    (finished : core.Finishes after) :
    after.Past (held.service (after.status.reads != core.status.reads)) := by
  have owes : ∀ {holds : Prop}, held.owed = true → holds := fun owed =>
    absurd (unowed.symm.trans owed) Bool.false_ne_true
  have same : held.service (core.status.reads != core.status.reads) = held := by
    rw [bne_self_eq_false]
    rfl
  cases finished with
  | rests =>
      rw [same]
      exact past
  | failed waits bad present calendarValid timeValid =>
      change Past _ (held.service (core.status.reads != core.status.reads))
      rw [same]
      refine past.onward owes (fun _ reading => ?_)
        (fun searching => .inr ⟨searching, rfl, rfl, rfl⟩) id id And.intro
      cases reading
  | loaded request ok =>
      change Past _ (held.service (core.status.reads != core.status.reads))
      rw [same]
      refine past.onward owes (fun _ reading => ?_)
        (fun searching => .inr ⟨searching, rfl, rfl, rfl⟩) id id And.intro
      cases reading
  | released request ok =>
      change Past _ (held.service (core.status.reads != core.status.reads))
      rw [same]
      refine past.onward owes (fun _ reading => ?_)
        (fun searching => .inr ⟨searching, rfl, rfl, rfl⟩) id id And.intro
      cases reading
  | written request ok =>
      change Past _ (held.service (core.status.reads != core.status.reads))
      rw [same]
      refine past.onward owes (fun _ _ => ?_)
        (fun searching => .inr ⟨searching, rfl, rfl, rfl⟩) id id And.intro
      change (Function.update core.transfers .read _ .read).result ≠ .ok
      rw [Function.update_self]
      exact fun queued => by cases queued
  | read request ok =>
      have fresh : held.registers = false := by
        cases old : held.registers with
        | false => rfl
        | true => exact absurd ok (past.registers old request)
      have changed : (core.status.reads + 1 != core.status.reads) = true := by
        rw [bne_iff_ne]
        intro wrong
        have one : (1 : BitVec 32) = 0 := by
          rwa [add_eq_left] at wrong
        cases one
      change Past { core with status := Pcf8563Status.decode _ }
        (held.service ((Pcf8563Status.decode _).reads != core.status.reads))
      rw [decode_reads, changed]
      refine ⟨owes, fun _ reading => ?_, fun old => ?_, past.sample, past.second, past.baseline,
        past.pending, past.between, past.believed⟩
      · rw [Pcf8563.decode_request] at reading
        cases reading
      · exact absurd (fresh.symm.trans old) Bool.false_ne_true

/-- The next read of a search is asked for, or it fails. -/
theorem Past.keeps (past : core.Past held) (onward : core.Searches after) : after.Past held := by
  cases onward with
  | rests => exact past
  | fails =>
      refine past.onward (fun _ => ⟨rfl, rfl⟩) past.registers (fun searching => ?_) id id
        fun _ wrong => absurd wrong Bool.false_ne_true
      rcases searching with searching | confirming
      · cases searching
      · cases confirming
  | reads free => exact past.reads free

/-- A search looks only at what was read since it started. -/
theorem Past.fresh (past : core.Past held) (searching : core.Searching)
    (fresh : core.status.reads ≠ core.readsSeen) : held.status = false := by
  cases old : held.status with
  | false => rfl
  | true => exact absurd (past.status old searching) fresh

theorem Past.bracketed (past : core.Past held) (searching : core.Searching)
    (brackets : core.Brackets) :
    held.sample = false ∧
      held.poll core = { held with second := false, between := false, baseline := false } := by
  have status := past.fresh searching brackets.fresh
  have sample : held.sample = false := by
    cases old : held.sample with
    | false => rfl
    | true => exact absurd ((past.sample old searching).symm.trans brackets.sampled) Bool.false_ne_true
  have unlearnt : ¬(core.purpose ≠ .confirm ∧ core.rate.baselineValid = true ∧
      (false || held.baseline) = true) := by
    rintro ⟨-, valid, old⟩
    exact absurd ((past.baseline old).symm.trans valid) Bool.false_ne_true
  refine ⟨sample, ?_⟩
  rw [Superseded.poll, if_pos ⟨searching, brackets⟩, status, sample]
  dsimp only
  rw [Bool.or_false, if_neg unlearnt, if_neg Bool.false_ne_true]
  rfl

/-- A search takes a sample, or drops it. -/
theorem Past.samples (past : core.Past held) (searching : core.Searching)
    (fresh : core.status.reads ≠ core.readsSeen) (samples : core.Samples after) :
    after.Past (held.poll core) := by
  have polled : (held.poll core).status = false ∧ (held.poll core).sample = false ∧
      core.Past (held.poll core) := by
    have status := past.fresh searching fresh
    by_cases brackets : core.Brackets
    · obtain ⟨sample, polled⟩ := past.bracketed searching brackets
      rw [polled]
      exact ⟨status, sample, past.owed, past.registers, past.status, past.sample,
        fun wrong => absurd wrong Bool.false_ne_true, fun wrong => absurd wrong Bool.false_ne_true,
        fun wrong => absurd wrong Bool.false_ne_true,
        fun wrong => absurd wrong Bool.false_ne_true, past.believed⟩
    · have polled : held.poll core = { held with sample := held.status } := by
        rw [Superseded.poll, if_neg fun both => brackets both.2, if_pos ⟨searching, fresh⟩]
      rw [polled]
      exact ⟨status, status, past.owed, past.registers, past.status,
        fun wrong => absurd (status.symm.trans wrong) Bool.false_ne_true, past.second,
        past.baseline, past.pending, past.between, past.believed⟩
  obtain ⟨status, sample, past⟩ := polled
  cases samples with
  | none seen => exact absurd seen fresh
  | drops =>
      exact ⟨past.owed, past.registers, fun _ _ => rfl,
        fun wrong => absurd (sample.symm.trans wrong) Bool.false_ne_true, past.second,
        past.baseline, past.pending, past.between, past.believed⟩
  | keeps calendarValid running =>
      exact ⟨past.owed, past.registers, fun _ _ => rfl,
        fun wrong => absurd (sample.symm.trans wrong) Bool.false_ne_true, past.second,
        past.baseline, past.pending, past.between, past.believed⟩

/-- A search finds the second, between reads made since it started. -/
theorem Past.finds (past : core.Past held) (searching : core.Searching) (brackets : core.Brackets)
    (rateValid : Bool) (rateQ8 : Int) :
    (core.finds rateValid rateQ8).Past (held.poll core) := by
  have ended : ¬(core.finds rateValid rateQ8).Searching := by
    rintro (active | active)
    · cases active
    · cases active
  rw [(past.bracketed searching brackets).2]
  exact ⟨past.owed, past.registers, fun _ active => absurd active ended,
    fun _ active => absurd active ended, fun wrong => absurd wrong Bool.false_ne_true,
    fun wrong => absurd wrong Bool.false_ne_true, fun wrong => absurd wrong Bool.false_ne_true,
    fun wrong => absurd wrong Bool.false_ne_true, past.believed⟩

/-- A poll of what is not a search. -/
theorem Past.others (past : core.Past held) (other : ¬core.Searching) (polls : core.Polls after) :
    after.Past held := by
  cases polls with
  | rests => exact past
  | searches idle free => exact past.searches free .measure
  | finds searching => exact absurd searching other
  | looks searching => exact absurd searching other
  | loaded loading free worked =>
      refine past.onward (fun _ => ⟨rfl, rfl⟩) past.registers (fun searching => ?_) id id
        And.intro
      rcases searching with searching | confirming
      · cases searching
      · cases confirming
  | releases waiting free =>
      have unowed := past.unowed free
      refine past.onward (fun owed => absurd (unowed.symm.trans owed) Bool.false_ne_true)
        (fun _ reading => ?_) (fun searching => ?_) id id And.intro
      · cases reading
      · rcases searching with searching | confirming
        · cases searching
        · cases confirming
  | confirms releasing free worked => exact past.searches free .confirm
  | aborts releasesSeen writing =>
      refine past.onward (fun _ => ⟨rfl, rfl⟩) past.registers (fun searching => ?_) id id
        And.intro
      rcases searching with searching | confirming
      · cases searching
      · cases confirming

end RtcCore

namespace SourceRtc

open RtcCore

variable {source : SourceRtc} {stopped : Bool} {held : Superseded}

theorem poll_past (sound : source.Sound stopped) (past : source.core.Past held)
    (timebase : BitVec 32) : (source.poll timebase).core.Past (held.poll source.core) := by
  by_cases searching : source.core.Searching
  · have keeps : source.poll timebase = source.keepSearching := by
      rw [SourceRtc.poll]
      rcases searching with searching | confirming
      · rw [show source.activity = .searching from searching]
      · rw [show source.activity = .confirming from confirming]
    rw [keeps]
    by_cases seen : source.core.status.reads = source.core.readsSeen
    · have none : source.takeReads = source := if_neg (not_not.mpr seen)
      have onward : source.keepSearching = source.readOn := by
        rw [keepSearching, none]
        rcases searching with searching | confirming
        · rw [show source.activity = .searching from searching]
        · rw [show source.activity = .confirming from confirming]
      have same : held.poll source.core = held := by
        rw [Superseded.poll, if_neg fun both => both.2.fresh seen, if_neg fun both => both.2 seen]
      rw [onward, same]
      exact past.keeps (readOn_core sound)
    · rcases takeReads_core source with ⟨samples, activity, -⟩ |
        ⟨brackets, rateValid, rateQ8, -, finds⟩
      · have onward : source.keepSearching = source.takeReads.readOn := by
          rw [keepSearching, activity]
          rcases searching with searching | confirming
          · rw [show source.activity = .searching from searching]
          · rw [show source.activity = .confirming from confirming]
        rw [onward]
        exact (past.samples searching seen samples).keeps (readOn_core (takeReads_sound sound))
      · have idle : source.takeReads.activity = .idle := congrArg RtcCore.activity finds
        have ended : source.keepSearching = source.takeReads := by
          rw [keepSearching, idle]
        rw [ended, finds]
        exact past.finds searching brackets rateValid rateQ8
  · have same : held.poll source.core = held := by
      rw [Superseded.poll, if_neg fun both => searching both.1, if_neg fun both => searching both.1]
    rw [same]
    exact past.others searching (poll_core sound timebase)

/-- While the bus is at a transfer, the driver's service changes nothing. -/
theorem service_waiting (source : SourceRtc) {transfer : Pcf8563Transfer}
    (waits : source.rtc.status.request.waitsFor = some transfer)
    (undone : (source.rtc.transfers transfer).done = false) (nowMs : BitVec 32) :
    (source.rtc.service nowMs).2 = source.rtc := by
  have same : source.rtc.finishRequest nowMs = (false, source.rtc) := by
    rw [Pcf8563.finishRequest, waits]
    dsimp only
    rw [undone, if_neg Bool.false_ne_true]
  have busy : source.rtc.busy = true := by
    rw [Pcf8563.busy_eq, waits]
    rfl
  rw [Pcf8563.service, same]
  dsimp only [Pcf8563.periodicRead]
  rw [busy, Bool.not_true, Bool.and_false, Bool.false_and, if_neg Bool.false_ne_true]

theorem service_past (sound : source.Sound stopped) (past : source.core.Past held)
    (nowMs : BitVec 32) :
    (core { source with rtc := (source.rtc.service nowMs).2 }).Past
      (held.service ((source.rtc.service nowMs).2.status.reads != source.rtc.status.reads)) := by
  cases owed : held.owed with
  | true =>
      obtain ⟨writing, undone⟩ := past.owed owed
      have waits : source.rtc.status.request.waitsFor = some .write :=
        congrArg Pcf8563Request.waitsFor writing
      rw [service_waiting source waits undone, bne_self_eq_false]
      exact past
  | false =>
      have served := service_core sound nowMs
      change Past _ (held.service ((core
        { source with rtc := (source.rtc.service nowMs).2 }).status.reads != source.core.status.reads))
      generalize core { source with rtc := (source.rtc.service nowMs).2 } = after at served ⊢
      cases served with
      | finishes finished => exact past.finishes owed finished
      | @reads after finished idle free => exact (past.finishes owed finished).reads free

/-- A second that is not valid is not counted on. -/
theorem report_invalid (invalid : source.second.valid = false) (snapshot : TimingSnapshot) :
    (source.report snapshot).2 = source := by
  rw [report]
  dsimp only
  rw [invalid, Bool.not_false, Bool.true_or, if_pos rfl]
  split
  · rfl
  · rfl

theorem report_past (past : source.core.Past held) (snapshot : TimingSnapshot) :
    (source.report snapshot).2.core.Past held := by
  cases valid : source.second.valid with
  | false =>
      rw [report_invalid valid]
      exact past
  | true =>
      obtain ⟨second, counted⟩ := source.report_second snapshot
      rw [counted]
      exact past.onward (fun _ => ⟨rfl, rfl⟩) past.registers
        (fun searching => .inr ⟨searching, rfl, rfl, rfl⟩)
        (fun invalid => absurd (invalid.symm.trans valid) Bool.false_ne_true) id And.intro

/-- What an epoch acts on. -/
theorem settle_past (past : source.core.Past held) (snapshot : TimingSnapshot) (time : SyncTime)
    (synchronised : Bool) (boundNs : Nat) :
    (source.settle snapshot time synchronised boundNs).core.Past
      (held.epoch (source.acts snapshot) (source.anchors snapshot synchronised boundNs)
        source.core.confirms
        (source.settle snapshot time synchronised boundNs).offsetMs.isSome) := by
  obtain ⟨activity, found, offsetMs, anchor, either, unknown, -, -, settled⟩ :=
    source.settle_core snapshot time synchronised boundNs
  have offset : (source.settle snapshot time synchronised boundNs).offsetMs = offsetMs :=
    congrArg RtcCore.offsetMs settled
  have kept : (source.settle snapshot time synchronised boundNs).core.Past held := by
    rw [settled]
    refine past.onward (fun _ => ⟨rfl, rfl⟩) past.registers (fun searching => ?_)
      (fun invalid => ?_) id fun wrong => absurd wrong Bool.false_ne_true
    · rcases either with same | idle
      · change activity = .searching ∨ activity = .confirming at searching
        rw [same] at searching
        exact .inr ⟨searching, rfl, rfl, rfl⟩
      · rcases searching with searching | confirming
        · cases idle.symm.trans searching
        · cases idle.symm.trans confirming
    · change (source.second.valid && _) = false
      rw [show source.second.valid = false from invalid]
      rfl
  have undone : (source.settle snapshot time synchronised boundNs).core.done = false :=
    congrArg RtcCore.done settled
  have same : (held.second && source.acts snapshot) = (held.between && source.acts snapshot) := by
    cases acts : source.acts snapshot with
    | false => rw [Bool.and_false, Bool.and_false]
    | true =>
        obtain ⟨done, found⟩ := found_of_acts acts
        rw [Bool.and_true, Bool.and_true, Bool.eq_iff_iff]
        exact ⟨fun old => past.pending old done found, past.between⟩
  refine ⟨kept.owed, kept.registers, kept.status, kept.sample, kept.second, kept.baseline,
    fun _ done => ?_, fun wrong => absurd wrong Bool.false_ne_true, ?_⟩
  · exact absurd (undone.symm.trans done) Bool.false_ne_true
  rw [Superseded.epoch, offset, same]
  have before := past.believed
  by_cases old : (held.between && source.acts snapshot) = true
  · obtain ⟨second, acts⟩ := Bool.and_eq_true_iff.mp old
    have none : offsetMs = none := unknown acts (past.second (past.between second))
    rw [old, none]
    cases source.anchors snapshot synchronised boundNs with
    | true => exact iff_of_false (List.cons_ne_nil _ _) (by simp)
    | false =>
        cases source.core.confirms with
        | true => exact iff_of_false (List.cons_ne_nil _ _) (by simp)
        | false =>
            change held.believed = [] ↔ (held.actedOn || false) = false
            rw [Bool.or_false]
            exact before
  · rw [Bool.eq_false_iff.mpr old]
    change held.believed = [] ↔ (held.actedOn || false) = false
    rw [Bool.or_false]
    exact before

theorem epoch_past (sound : source.Sound stopped) (past : source.core.Past held)
    {snapshot : TimingSnapshot} (advance : 0 < (snapshot.sequence - source.ourEpoch.sequence).toInt)
    (time : SyncTime) (synchronised : Bool) (boundNs : Nat) :
    (source.epoch snapshot time synchronised boundNs).core.Past
      (held.epoch (source.acts snapshot)
        (source.anchors snapshot (synchronised && time.known && !time.leapSecond) boundNs)
        source.core.confirms
        (source.epoch snapshot time synchronised boundNs).offsetMs.isSome) := by
  have settled := settle_past past snapshot time (synchronised && time.known && !time.leapSecond)
    boundNs
  rcases epoch_core sound advance time synchronised boundNs with rests | ⟨idle, free, acts⟩
  · have same : (source.epoch snapshot time synchronised boundNs).offsetMs =
        (source.settle snapshot time (synchronised && time.known && !time.leapSecond)
          boundNs).offsetMs := congrArg RtcCore.offsetMs rests
    rw [rests, same]
    exact settled
  · have same : (source.epoch snapshot time synchronised boundNs).offsetMs =
        (source.settle snapshot time (synchronised && time.known && !time.leapSecond)
          boundNs).offsetMs := acts_offsetMs acts
    rw [same]
    exact settled.acts idle (Pcf8563.waitsFor_of_free free) acts

theorem set_past (sound : source.Sound stopped) (past : source.core.Past held)
    (utcSeconds : BitVec 32) :
    (source.set utcSeconds).2.core.Past
      (if (source.set utcSeconds).1 then held.set (source.search.done && source.search.found)
        else held) := by
  rcases set_core sound utcSeconds with refused | ⟨accepted, idle, -, wrote⟩
  · rw [refused, if_neg Bool.false_ne_true]
    exact past
  · rw [if_pos accepted, wrote]
    exact past.set idle utcSeconds

end SourceRtc

namespace Followed

variable {followed : Followed}

theorem step_past (sound : followed.world.source.Sound followed.world.stopped)
    (past : followed.world.source.core.Past followed.held) {act : RtcAct}
    (admitted : followed.Admits act) :
    (followed.step act).world.source.core.Past (followed.step act).held := by
  cases act with
  | oscillator offsetQ16 => exact past
  | report snapshot => exact SourceRtc.report_past past snapshot
  | epoch snapshot time synchronised boundNs =>
      exact SourceRtc.epoch_past sound past admitted.1 time synchronised boundNs
  | poll timebase => exact SourceRtc.poll_past sound past timebase
  | set utcSeconds => exact SourceRtc.set_past sound past utcSeconds
  | service nowMs => exact SourceRtc.service_past sound past nowMs
  | bus transfer result taken startStamp registers =>
      have waits := sound.driver.settled transfer admitted.1
      apply past.bus waits
      · cases transfer with
        | read => rfl
        | write => rfl
        | release => rfl
      · cases transfer with
        | read => rfl
        | write => rfl
        | release => rfl

/-- What every reachable state keeps. -/
theorem reached_past (reached : followedMachine.Reachable Admits followed) :
    followed.world.source.Sound followed.world.stopped ∧
      followed.world.source.core.Past followed.held := by
  have invariant : followedMachine.Invariant Admits fun followed =>
      followed.world.source.Sound followed.world.stopped ∧
        followed.world.source.core.Past followed.held := by
    refine ⟨fun followed start => ⟨World.sound (.start start.1), ?_⟩, ?_⟩
    · rw [start.2]
      exact ⟨fun wrong => absurd wrong Bool.false_ne_true,
        fun wrong => absurd wrong Bool.false_ne_true, fun wrong => absurd wrong Bool.false_ne_true,
        fun wrong => absurd wrong Bool.false_ne_true, fun wrong => absurd wrong Bool.false_ne_true,
        fun wrong => absurd wrong Bool.false_ne_true, fun wrong => absurd wrong Bool.false_ne_true,
        fun wrong => absurd wrong Bool.false_ne_true, iff_of_true rfl rfl⟩
    · intro followed act valid admitted
      exact ⟨World.step_sound valid.1 admitted, step_past valid.1 valid.2 admitted⟩
  exact invariant.reachable reached

/-- Nothing is believed from reads made before an accepted setting reached the chip exactly
where no setting has come between a search that found the second and an epoch that, acting on
it, anchored the RTC's time or confirmed a write. -/
theorem believed_iff (reached : followedMachine.Reachable Admits followed) :
    followed.held.believed = [] ↔ followed.held.actedOn = false :=
  (reached_past reached).2.believed

/-- The chip read, and the second searched for and found. -/
def searched : List RtcAct :=
  [.bus .read .ok true 0 (encode 1760000000 0), .service 1, .poll 0,
    .bus .read .ok true 1000 (encode 1760000000 0), .service 2, .poll 0,
    .bus .read .ok true 41000 (encode 1760000001 0), .service 3, .poll 0]

/-- Our next epoch, synchronised. -/
def anchoring : RtcAct :=
  .epoch { sequence := 1, epochCaptureValid := true, epochCapture := 40000000 }
    { known := true, utcSeconds := 1760000000 } true 1000

/-- Start-up, nothing kept. -/
def unset : Followed where
  world := { source := (SourceRtc.init (Pcf8563.init 0)).restore {} }

theorem unset_start : followedMachine.start unset :=
  ⟨⟨0, {}, ⟨abs_zero.le.trans (by decide), (by decide : 0 < 4294967296)⟩, rfl⟩, rfl⟩

/-- Set once an epoch has acted on the search. -/
theorem believed_iff_after :
    ((searched ++ [anchoring, .set 1770000000, .bus .write .ok true 0 {}]).foldl step
        unset).held.believed = [] :=
  (believed_iff ((Machine.Reachable.start unset_start).run
    (.of_admitted (by decide +kernel)))).mpr (by decide +kernel)

/-- Set between the search and the epoch: the anchor is aligned, on the second found before
it. -/
theorem set_between :
    ∃ followed, followedMachine.Reachable Admits followed ∧ followed.held.believed = [.anchor] ∧
      followed.world.source.anchor.aligned = true ∧
      followed.world.source.anchor.utcSeconds = 1760000001 :=
  ⟨(searched ++ [.set 1770000000, anchoring]).foldl step unset,
    (Machine.Reachable.start unset_start).run (.of_admitted (by decide +kernel)),
    by decide +kernel, by decide +kernel, by decide +kernel⟩

end Followed

end GpsClock.Rtc
