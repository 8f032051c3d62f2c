import GpsClock.Lib.Wrapping
import GpsClock.Rtc.Bound
import GpsClock.Rtc.Superseded

/-! # Where the RTC's second is

The chip's increments are instants of one true length apart, and a read shows the count when
it is latched. With the moments of the reads and the epochs kept beside the world, the second
counted on is where the chip's increment is, to within what the search and the rate leave, as
long as each epoch's capture is within the timebase's reach of it and a second found again is
not one already counted past (`GpsClock.Rtc.Timeline.second_located`).
-/

namespace GpsClock.Rtc

open GpsClock.Platform GpsClock.Sync GpsClock.Timing

/-! ## The chip -/

/-- The chip's increments, the first of its second 0, ticks. -/
structure Chip where
  phase : ℚ
  length : ℚ
  near : |length - 40000000| ≤ 20000

namespace Chip

variable (chip : Chip) {second other : ℤ}

/-- The increment that starts a second. -/
def increment (second : ℤ) : ℚ :=
  chip.phase + second * chip.length

/-- The count at a moment. -/
def shows (moment : ℤ) : ℤ :=
  ⌊((moment : ℚ) - chip.phase) / chip.length⌋

theorem length_bounds : 39980000 ≤ chip.length ∧ chip.length ≤ 40020000 := by
  obtain ⟨low, high⟩ := abs_le.mp chip.near
  constructor <;> linarith

theorem length_pos : 0 < chip.length := by
  have := chip.length_bounds.1
  linarith

theorem increment_add (second counted : ℤ) :
    chip.increment (second + counted) = chip.increment second + counted * chip.length := by
  rw [increment, increment]
  push_cast
  ring

/-- The count is of the latest increment. -/
theorem shows_between (moment : ℤ) :
    chip.increment (chip.shows moment) ≤ moment ∧
      (moment : ℚ) < chip.increment (chip.shows moment + 1) := by
  have positive := chip.length_pos
  have below := Int.floor_le (((moment : ℚ) - chip.phase) / chip.length)
  have above := Int.lt_floor_add_one (((moment : ℚ) - chip.phase) / chip.length)
  rw [le_div_iff₀ positive] at below
  rw [div_lt_iff₀ positive] at above
  rw [increment, increment, shows]
  push_cast
  constructor <;> linarith

theorem shows_mono {moment later : ℤ} (onward : moment ≤ later) :
    chip.shows moment ≤ chip.shows later := by
  have onward : (moment : ℚ) ≤ later := by exact_mod_cast onward
  exact Int.floor_mono (div_le_div_of_nonneg_right (sub_le_sub_right onward _) chip.length_pos.le)

/-- Between two counts one apart lies the increment, and they are less than two of its seconds
apart. -/
theorem between_counts {moment later : ℤ} (next : chip.shows later = chip.shows moment + 1) :
    (moment : ℚ) < chip.increment (chip.shows later) ∧
      chip.increment (chip.shows later) ≤ later ∧ later - moment < 80040000 := by
  obtain ⟨-, above⟩ := chip.shows_between moment
  obtain ⟨below, past⟩ := chip.shows_between later
  obtain ⟨before, -⟩ := chip.shows_between moment
  have short := chip.length_bounds.2
  refine ⟨by rwa [next], below, ?_⟩
  rw [next, increment_add, increment_add] at past
  push_cast at past
  have apart : ((later - moment : ℤ) : ℚ) < ((80040000 : ℤ) : ℚ) := by
    push_cast
    linarith
  exact_mod_cast apart

end Chip

namespace SourceRtc

variable {source : SourceRtc} {chip : Chip} {place second : ℤ} {counted : ℕ}

/-! ## Counting on -/

/-- The second's length as it is counted, ticks. -/
def countedLength (source : SourceRtc) : ℚ :=
  40000000 + (source.rate.q8 : ℚ) / 256

/-- How far out its second is, found and then counted on so many times. -/
def secondError (source : SourceRtc) (chip : Chip) (counted : ℕ) : ℚ :=
  (source.second.resolutionTicks.toNat : ℚ) / 2 + 1 +
    counted * (|chip.length - source.countedLength| + 1)

/-- Its second found and counted on: where it is on the timeline, which of the chip's seconds it
is, and how often it was counted on. Its fraction taken in, it is out by what it was found to
within, and by what each length counted was. -/
structure Places (chip : Chip) (source : SourceRtc) (place second : ℤ) (counted : ℕ) : Prop where
  stamp : source.second.stamp = BitVec.ofInt 32 place
  label : source.second.label = BitVec.ofInt 32 second
  fraction : 0 ≤ source.second.fractionQ8 ∧ source.second.fractionQ8 < 256
  fresh : counted = 0 → source.second.fractionQ8 = 0
  near : |(place : ℚ) + (source.second.fractionQ8 : ℚ) / 256 - chip.increment second| ≤
    (source.second.resolutionTicks.toNat : ℚ) / 2 + 1 +
      counted * |chip.length - source.countedLength|

theorem Places.error (places : Places chip source place second counted) :
    |(place : ℚ) - chip.increment second| ≤ source.secondError chip counted := by
  obtain ⟨low, high⟩ := abs_le.mp places.near
  have below : (0 : ℚ) ≤ source.second.fractionQ8 := by exact_mod_cast places.fraction.1
  have above : (source.second.fractionQ8 : ℚ) ≤ 256 := by exact_mod_cast places.fraction.2.le
  rw [secondError, abs_le]
  rcases Nat.eq_zero_or_pos counted with none | some
  · rw [places.fresh none, Int.cast_zero] at low high
    rw [none, Nat.cast_zero] at low high ⊢
    constructor <;> linarith
  · have one : (1 : ℚ) ≤ counted := by exact_mod_cast some
    rw [mul_add, mul_one]
    constructor <;> linarith

/-- The length of the next of its seconds. -/
theorem nextSecond_length (fraction : 0 ≤ source.second.fractionQ8 ∧ source.second.fractionQ8 < 256)
    (rate : -rateLimitQ8 ≤ source.rate.q8 ∧ source.rate.q8 ≤ rateLimitQ8) :
    ∃ ticks : ℤ, 39979000 ≤ ticks ∧ ticks ≤ 40021000 ∧
      source.nextSecond.1 = BitVec.ofInt 32 ticks ∧
      (0 ≤ source.nextSecond.2 ∧ source.nextSecond.2 < 256) ∧
      (ticks : ℚ) + (source.nextSecond.2 : ℚ) / 256 =
        (source.second.fractionQ8 : ℚ) / 256 + source.countedLength := by
  have divided := floorDiv_eq (source.second.fractionQ8 + source.rate.q8) (by decide : (0 : ℤ) < 256)
  change -5120000 ≤ _ ∧ _ ≤ (5120000 : ℤ) at rate
  refine ⟨40000000 + (source.second.fractionQ8 + source.rate.q8) / 256, ?_, ?_, ?_, ?_, ?_⟩
  · omega
  · omega
  · rw [nextSecond, BitVec.ofInt_add, ← divided]
    rfl
  · rw [nextSecond]
    dsimp only
    rw [divided]
    omega
  · rw [nextSecond]
    dsimp only
    rw [divided, countedLength]
    push_cast
    ring

/-- An increment counted on. -/
theorem Places.countOne (places : Places chip source place second counted)
    (rate : -rateLimitQ8 ≤ source.rate.q8 ∧ source.rate.q8 ≤ rateLimitQ8) {capture : ℤ}
    (ahead : place - 1073741824 ≤ capture) (reach : capture < place + 2147483648) :
    source.countOne (BitVec.ofInt 32 capture) = none ∧
        (capture : ℚ) < place + (source.second.fractionQ8 : ℚ) / 256 + source.countedLength ∨
      ∃ (ticks : ℤ) (after : SourceRtc), source.countOne (BitVec.ofInt 32 capture) = some after ∧
        0 ≤ ticks ∧ ticks ≤ 40021000 ∧ place + ticks ≤ capture ∧
        Places chip after (place + ticks) (second + 1) (counted + 1) ∧
        after.second.edges = source.second.edges + 1 ∧ after.rate = source.rate ∧
        after.second.resolutionTicks = source.second.resolutionTicks := by
  obtain ⟨ticks, short, long, length, fraction, exactly⟩ := nextSecond_length places.fraction rate
  have stamp : source.second.stamp + source.nextSecond.1 = BitVec.ofInt 32 (place + ticks) := by
    rw [places.stamp, length, BitVec.ofInt_add]
  have apart : (BitVec.ofInt 32 capture - (source.second.stamp + source.nextSecond.1)).toInt =
      capture - (place + ticks) := by
    rw [stamp]
    apply Wrapping.toInt_ofInt_sub
    · omega
    · omega
  rw [SourceRtc.countOne]
  dsimp only
  rw [apart]
  split
  · next later =>
      refine .inl ⟨rfl, ?_⟩
      have whole : capture + 1 ≤ place + ticks := by omega
      have whole : (capture : ℚ) + 1 ≤ place + ticks := by exact_mod_cast whole
      have part : (0 : ℚ) ≤ source.nextSecond.2 := by exact_mod_cast fraction.1
      linarith
  · next reached =>
      refine .inr ⟨ticks, _, rfl, by omega, long, by omega, ⟨stamp, ?_, fraction, ?_, ?_⟩, rfl, rfl, rfl⟩
      · rw [BitVec.ofInt_add, places.label]
        rfl
      · exact fun none => absurd none (Nat.succ_ne_zero counted)
      · change |((place + ticks : ℤ) : ℚ) + (source.nextSecond.2 : ℚ) / 256 -
            chip.increment (second + 1)| ≤ _ + ((counted + 1 : ℕ) : ℚ) * |_ - source.countedLength|
        have shift : ((place + ticks : ℤ) : ℚ) + (source.nextSecond.2 : ℚ) / 256 -
            chip.increment (second + 1) =
              ((place : ℚ) + (source.second.fractionQ8 : ℚ) / 256 - chip.increment second) -
                (chip.length - source.countedLength) := by
          rw [Chip.increment_add]
          push_cast
          linarith
        rw [shift]
        refine (abs_sub _ _).trans ?_
        push_cast
        rw [add_mul, one_mul, ← add_assoc]
        exact add_le_add places.near le_rfl

/-- The second counted on to a capture: by how many increments and ticks, and, unless lost track
of, past it with the next. -/
theorem Places.countOn (places : Places chip source place second counted)
    (rate : -rateLimitQ8 ≤ source.rate.q8 ∧ source.rate.q8 ≤ rateLimitQ8) {capture : ℤ}
    (ahead : place - 1073741824 ≤ capture) (reach : capture < place + 2147483648) (steps : ℕ) :
    ∃ (more : ℕ) (ticks : ℤ), more ≤ steps ∧ 0 ≤ ticks ∧ ticks ≤ steps * 40021000 ∧
      Places chip (source.countOn (BitVec.ofInt 32 capture) steps) (place + ticks) (second + more)
        (counted + more) ∧
      (source.countOn (BitVec.ofInt 32 capture) steps).second.edges =
        source.second.edges + BitVec.ofNat 32 more ∧
      (more = 0 ∧ ticks = 0 ∨ place + ticks ≤ capture) ∧
      ((source.countOn (BitVec.ofInt 32 capture) steps).second.valid = true →
        (capture : ℚ) < ((place + ticks : ℤ) : ℚ) +
          ((source.countOn (BitVec.ofInt 32 capture) steps).second.fractionQ8 : ℚ) / 256 +
            source.countedLength) ∧
      (source.countOn (BitVec.ofInt 32 capture) steps).rate = source.rate ∧
      (source.countOn (BitVec.ofInt 32 capture) steps).second.resolutionTicks =
        source.second.resolutionTicks := by
  induction steps generalizing source place second counted with
  | zero =>
      refine ⟨0, 0, le_rfl, le_rfl, le_rfl, ?_, (BitVec.add_zero _).symm, .inl ⟨rfl, rfl⟩,
        fun wrong => absurd wrong Bool.false_ne_true, rfl, rfl⟩
      rw [Nat.cast_zero, add_zero, add_zero, add_zero]
      exact ⟨places.stamp, places.label, places.fraction, places.fresh, places.near⟩
  | succ steps ih =>
      rcases places.countOne rate ahead reach with ⟨none, past⟩ |
        ⟨ticks, after, counts, forward, few, reached, placed, edges, sameRate, sameResolution⟩
      · rw [SourceRtc.countOn, none]
        refine ⟨0, 0, Nat.zero_le _, le_rfl, by positivity, ?_, (BitVec.add_zero _).symm,
          .inl ⟨rfl, rfl⟩, fun _ => ?_, rfl, rfl⟩
        · rw [Nat.cast_zero, add_zero, add_zero, add_zero]
          exact places
        · rw [add_zero]
          exact past
      · rw [SourceRtc.countOn, counts]
        obtain ⟨more, onward, fits, onwards, bounded, moved, counted, latest, still, rateKept,
          resolutionKept⟩ := ih placed (by rwa [sameRate]) (by omega) (by omega)
        refine ⟨more + 1, ticks + onward, Nat.succ_le_succ fits, by omega, ?_, ?_, ?_, ?_, ?_, ?_, ?_⟩
        · push_cast
          linarith
        · rw [← add_assoc, Nat.cast_succ, add_comm (more : ℤ) 1, ← add_assoc second,
            add_comm more 1, ← add_assoc]
          exact moved
        · rw [counted, edges, BitVec.ofNat_add, BitVec.add_assoc, BitVec.add_comm (BitVec.ofNat 32 more)]
          rfl
        · right
          rcases latest with ⟨-, none⟩ | latest
          · rwa [none, add_zero]
          · rwa [← add_assoc]
        · rw [← add_assoc]
          intro valid
          have past := still valid
          rwa [countedLength, sameRate] at past
        · exact rateKept.trans sameRate
        · exact resolutionKept.trans sameResolution

/-- What the second is placed by does not change, whether or not it is still valid. -/
theorem Places.same {after : SourceRtc} (places : Places chip source place second counted)
    {valid : Bool} (same : after.second = { source.second with valid := valid })
    (rate : after.rate.q8 = source.rate.q8) : Places chip after place second counted := by
  obtain ⟨stamp, label, fraction, fresh, near⟩ := places
  refine ⟨?_, ?_, ?_, ?_, ?_⟩
  · rw [same]
    exact stamp
  · rw [same]
    exact label
  · rw [same]
    exact fraction
  · rw [same]
    exact fresh
  · rw [same, countedLength, rate]
    exact near

end SourceRtc

/-! ## The moments, beside the world -/

/-- Whether registers read hold a count, the chip running. -/
def Registers.Shows (registers : Registers) (count : BitVec 32) : Prop :=
  registers.digits = true ∧ registers.civil.second ≤ 59 ∧ utcCivilIsValid registers.civil = true ∧
    registers.stop = false ∧ utcFromCivil registers.civil = count

instance (registers : Registers) (count : BitVec 32) : Decidable (registers.Shows count) :=
  inferInstanceAs (Decidable (_ ∧ _))

/-- The count a read that started at a moment returns. -/
def Chip.read (chip : Chip) (moment : ℤ) : ℤ :=
  chip.shows (moment + 1000)

/-- The world; when the read on the bus, the latest one taken up and the search's sample
started; where the second counted on is, which of the chip's it is and how often it was counted
on since it was found; and its edges and which it was when it last became valid. -/
structure Timeline where
  world : World
  transferAt : ℤ := 0
  readAt : ℤ := 0
  sampleAt : ℤ := 0
  place : ℤ := 0
  second : ℤ := 0
  counted : ℕ := 0
  setEdges : BitVec 32 := 0
  setSecond : ℤ := 0

/-- A call, or the bus at work, with the moment it is about: a read's start, or the capture of
the epoch reported. -/
structure TimedAct where
  act : RtcAct
  moment : ℤ := 0

namespace Timeline

abbrev source (timeline : Timeline) : SourceRtc :=
  timeline.world.source

/-- Where a search finds the second. -/
def foundAt (timeline : Timeline) : ℤ :=
  timeline.sampleAt +
    ((timeline.source.rtc.status.readStamp - timeline.source.search.sampleStamp).toNat / 2 : ℕ) + 1000

/-- A poll finds the second, or takes a sample. -/
def polled (chip : Chip) (timeline : Timeline) : Timeline :=
  let core := timeline.source.core
  if core.Searching ∧ core.Brackets then
    { timeline with
      place := timeline.foundAt
      second := chip.read timeline.readAt
      counted := 0
      setEdges := if core.second.valid then timeline.setEdges else core.edgesFound
      setSecond := if core.second.valid then timeline.setSecond else chip.read timeline.readAt }
  else if core.Searching ∧ core.status.reads ≠ core.readsSeen then
    { timeline with sampleAt := timeline.readAt }
  else timeline

def step (chip : Chip) (timeline : Timeline) (timed : TimedAct) : Timeline :=
  let before := timeline.source
  let world := timeline.world.step timed.act
  let after := world.source
  let dated :=
    match timed.act with
    | .bus .read .. => { timeline with transferAt := timed.moment }
    | .service _ =>
        if after.rtc.status.reads ≠ before.rtc.status.reads then
          { timeline with readAt := timeline.transferAt }
        else timeline
    | .poll _ => timeline.polled chip
    | .report _ =>
        let more := (after.second.label - before.second.label).toNat
        { timeline with
          place := timeline.place + (after.second.stamp - before.second.stamp).toNat
          second := timeline.second + more
          counted := timeline.counted + more }
    | _ => timeline
  { dated with world := world }

/-- Nothing is written to the chip; a read that ends well returns the count, while the chip can
count it; and an epoch reported is the one captured. -/
def Admits (chip : Chip) (timeline : Timeline) (timed : TimedAct) : Prop :=
  timeline.world.Admits timed.act ∧
    (timeline.world.step timed.act).source.rtc.status.request.waitsFor ≠ some .write ∧
    (timeline.world.step timed.act).source.rtc.status.request.waitsFor ≠ some .release ∧
    match timed.act with
    | .bus .read result _ startStamp registers =>
        timeline.transferAt ≤ timed.moment ∧ startStamp = BitVec.ofInt 32 timed.moment ∧
          (result = .ok →
            registers.Shows (BitVec.ofInt 32 (chip.read timed.moment)) ∧
              0 ≤ chip.read timed.moment ∧ chip.read timed.moment < 4294967296)
    | .report snapshot =>
        snapshot.epochCaptureValid = true → snapshot.epochCapture = BitVec.ofInt 32 timed.moment
    | _ => True

/-- The capture of an epoch reported is within the timebase's reach of the second counted, and
that second is not one from after it. -/
structure InReach (chip : Chip) (timeline : Timeline) (capture : ℤ) : Prop where
  ahead : timeline.place - 1073741824 ≤ capture
  reach : capture < timeline.place + 2147483648
  begun : chip.increment timeline.second ≤
    capture + timeline.source.secondError chip timeline.counted

/-- A second found while one is still counted is not an earlier one, and is within half a second
of as many nominal seconds on, within the timebase's reach. -/
structure Onward (chip : Chip) (timeline : Timeline) : Prop where
  later : timeline.second ≤ chip.read timeline.readAt
  above : 40000000 * (chip.read timeline.readAt - timeline.second) - 20000000 ≤
    timeline.foundAt - timeline.place
  below : timeline.foundAt - timeline.place <
    40000000 * (chip.read timeline.readAt - timeline.second) + 20000000
  reach : timeline.foundAt - timeline.place < 2127483648

instance (chip : Chip) (timeline : Timeline) (capture : ℤ) :
    Decidable (timeline.InReach chip capture) :=
  decidable_of_iff
    (timeline.place - 1073741824 ≤ capture ∧ capture < timeline.place + 2147483648 ∧
      chip.increment timeline.second ≤
        capture + timeline.source.secondError chip timeline.counted)
    ⟨fun all => ⟨all.1, all.2.1, all.2.2⟩, fun reach => ⟨reach.ahead, reach.reach, reach.begun⟩⟩

instance (chip : Chip) (timeline : Timeline) : Decidable (timeline.Onward chip) :=
  decidable_of_iff
    (timeline.second ≤ chip.read timeline.readAt ∧
      40000000 * (chip.read timeline.readAt - timeline.second) - 20000000 ≤
        timeline.foundAt - timeline.place ∧
      timeline.foundAt - timeline.place <
        40000000 * (chip.read timeline.readAt - timeline.second) + 20000000 ∧
      timeline.foundAt - timeline.place < 2127483648)
    ⟨fun all => ⟨all.1, all.2.1, all.2.2.1, all.2.2.2⟩,
      fun onward => ⟨onward.later, onward.above, onward.below, onward.reach⟩⟩

/-- What each step must meet. -/
def Fits (chip : Chip) (timeline : Timeline) (timed : TimedAct) : Prop :=
  match timed.act with
  | .report snapshot =>
      timeline.source.second.valid = true → snapshot.epochCaptureValid = true →
        timeline.InReach chip timed.moment
  | .poll _ =>
      timeline.source.second.valid = true →
        timeline.source.core.Searching ∧ timeline.source.core.Brackets → timeline.Onward chip
  | _ => True

end Timeline

/-- From start-up, no second known yet. -/
def timelineMachine (chip : Chip) : Machine Timeline TimedAct where
  start timeline :=
    rtcMachine.start timeline.world ∧ timeline.sampleAt ≤ timeline.readAt ∧
      timeline.readAt ≤ timeline.transferAt
  step := Timeline.step chip

/-! ## What every step keeps -/

/-- What a read shows, and when it started. -/
structure Chip.Reads (chip : Chip) (moment : ℤ) (stamp label : BitVec 32) : Prop where
  stamp : stamp = BitVec.ofInt 32 moment
  label : label = BitVec.ofInt 32 (chip.read moment)
  counts : 0 ≤ chip.read moment ∧ chip.read moment < 4294967296

/-- The read on the bus, the latest taken up and the search's sample are each dated, in their
order. -/
structure RtcCore.Dated (chip : Chip) (core : RtcCore) (transferAt readAt sampleAt : ℤ) : Prop where
  transfer : core.status.request = .reading → (core.transfers .read).result = .ok →
    ∃ label, core.status.registers.Shows label ∧
      chip.Reads transferAt (core.transfers .read).startStamp label
  read : core.Searching → core.status.reads ≠ core.readsSeen →
    chip.Reads readAt core.status.readStamp core.status.utcSeconds
  sample : core.Searching → core.sampleValid = true →
    chip.Reads sampleAt core.sampleStamp core.sampleUtc
  sampled : sampleAt ≤ readAt
  taken : readAt ≤ transferAt

namespace RtcCore

variable {chip : Chip} {core after : RtcCore} {transferAt readAt sampleAt : ℤ}

/-- What takes up no read, and asks for none but afresh. -/
theorem Dated.onward (dated : core.Dated chip transferAt readAt sampleAt)
    (transfer : after.status.request = .reading → (after.transfers .read).result = .ok →
      core.status.request = .reading ∧ after.transfers .read = core.transfers .read ∧
        after.status.registers = core.status.registers)
    (search : after.Searching → after.status.reads = after.readsSeen ∧ after.sampleValid = false ∨
      core.Searching ∧ after.status.reads = core.status.reads ∧
        after.status.readStamp = core.status.readStamp ∧
        after.status.utcSeconds = core.status.utcSeconds ∧ after.readsSeen = core.readsSeen ∧
        after.sampleValid = core.sampleValid ∧ after.sampleUtc = core.sampleUtc ∧
        after.sampleStamp = core.sampleStamp) :
    after.Dated chip transferAt readAt sampleAt := by
  refine ⟨fun reading ok => ?_, fun searching fresh => ?_, fun searching sampled => ?_, dated.sampled,
    dated.taken⟩
  · obtain ⟨before, same, registers⟩ := transfer reading ok
    rw [same] at ok ⊢
    rw [registers]
    exact dated.transfer before ok
  · rcases search searching with ⟨seen, -⟩ | ⟨before, reads, stamp, label, seen, -⟩
    · exact absurd seen fresh
    · rw [reads, seen] at fresh
      rw [stamp, label]
      exact dated.read before fresh
  · rcases search searching with ⟨-, none⟩ | ⟨before, -, -, -, -, valid, label, stamp⟩
    · exact absurd (none.symm.trans sampled) Bool.false_ne_true
    · rw [valid] at sampled
      rw [stamp, label]
      exact dated.sample before sampled

/-- A read asked for has nothing to show yet. -/
theorem unread (core : RtcCore) : ((core.asks .read .reading).transfers .read).result ≠ .ok := by
  change (Function.update core.transfers .read _ .read).result ≠ .ok
  rw [Function.update_self]
  exact fun queued => by cases queued

theorem Dated.reads (dated : core.Dated chip transferAt readAt sampleAt) :
    (core.asks .read .reading).Dated chip transferAt readAt sampleAt :=
  dated.onward (fun _ ok => absurd ok core.unread)
    fun searching => .inr ⟨searching, rfl, rfl, rfl, rfl, rfl, rfl, rfl⟩

theorem Dated.searches (dated : core.Dated chip transferAt readAt sampleAt) (why : SearchPurpose) :
    (core.searches why).Dated chip transferAt readAt sampleAt :=
  dated.onward (fun _ ok => absurd ok core.unread) fun _ => .inl ⟨rfl, rfl⟩

/-- The source at rest, nothing else changed. -/
theorem Dated.idles (dated : core.Dated chip transferAt readAt sampleAt)
    (resting : ¬after.Searching) (status : after.status = core.status)
    (transfers : after.transfers = core.transfers) :
    after.Dated chip transferAt readAt sampleAt := by
  refine dated.onward (fun reading _ => ?_) fun searching => absurd searching resting
  rw [status] at reading
  rw [status, transfers]
  exact ⟨reading, rfl, rfl⟩

theorem not_searching (activity : SourceRtcActivity) (searching : activity ≠ .searching)
    (confirming : activity ≠ .confirming) (now : core.activity = activity) : ¬core.Searching := by
  rw [Searching, now]
  exact not_or.mpr ⟨searching, confirming⟩

/-- A search keeps on. -/
theorem Dated.keeps (dated : core.Dated chip transferAt readAt sampleAt)
    (onward : core.Searches after) : after.Dated chip transferAt readAt sampleAt := by
  cases onward with
  | rests => exact dated
  | fails => exact dated.idles (not_searching .idle (by decide) (by decide) rfl) rfl rfl
  | reads free => exact dated.reads

/-- A search takes the read that finished as its sample, or drops it. -/
theorem Dated.samples (dated : core.Dated chip transferAt readAt sampleAt)
    (searching : core.Searching) (fresh : core.status.reads ≠ core.readsSeen)
    (samples : core.Samples after) : after.Dated chip transferAt readAt readAt := by
  cases samples with
  | none seen => exact absurd seen fresh
  | drops =>
      exact ⟨dated.transfer, fun _ wrong => absurd rfl wrong,
        fun _ wrong => absurd wrong Bool.false_ne_true, le_rfl, dated.taken⟩
  | keeps calendarValid running =>
      exact ⟨dated.transfer, fun _ wrong => absurd rfl wrong,
        fun _ _ => dated.read searching fresh, le_rfl, dated.taken⟩

/-- A poll of what is not a search, that releases nothing. -/
theorem Dated.others (dated : core.Dated chip transferAt readAt sampleAt) (other : ¬core.Searching)
    (unreleased : after.status.request.waitsFor ≠ some .release) (polls : core.Polls after) :
    after.Dated chip transferAt readAt sampleAt := by
  cases polls with
  | rests => exact dated
  | searches idle free => exact dated.searches .measure
  | finds searching => exact absurd searching other
  | looks searching => exact absurd searching other
  | loaded loading free worked =>
      exact dated.idles (not_searching .waiting (by decide) (by decide) rfl) rfl rfl
  | releases waiting free => exact absurd rfl unreleased
  | confirms releasing free worked => exact dated.searches .confirm
  | aborts releasesSeen writing =>
      exact dated.idles (not_searching .idle (by decide) (by decide) rfl) rfl rfl

/-- What a free source does, the chip not written. -/
theorem Dated.acts (dated : core.Dated chip transferAt readAt sampleAt)
    (unwritten : after.status.request.waitsFor ≠ some .write)
    (unreleased : after.status.request.waitsFor ≠ some .release) (acts : core.Acts after) :
    after.Dated chip transferAt readAt sampleAt ∧ after.second = core.second ∧
      after.rate.q8 = core.rate.q8 := by
  cases acts with
  | rests => exact ⟨dated, rfl, rfl⟩
  | writes utcSeconds => exact absurd rfl unwritten
  | loads stamp label => exact absurd rfl unwritten
  | refused stamp label =>
      exact ⟨dated.idles (not_searching .idle (by decide) (by decide) rfl) rfl rfl, rfl, rfl⟩
  | releases => exact absurd rfl unreleased
  | reads => exact ⟨dated.reads, rfl, rfl⟩
  | searches why => exact ⟨dated.searches why, rfl, rfl⟩

/-- The registers read are decoded to what they show. -/
theorem decode_shows {status : Pcf8563Status} {label : BitVec 32}
    (shows : status.registers.Shows label) :
    status.decode.utcSeconds = label ∧ status.decode.readStamp = status.readStamp := by
  obtain ⟨digits, few, valid, -, seconds⟩ := shows
  rw [Pcf8563Status.decode]
  dsimp only
  rw [digits, Bool.not_true, if_neg Bool.false_ne_true, valid, Bool.not_true, Bool.or_false,
    decide_eq_false (not_lt.mpr few), if_neg Bool.false_ne_true]
  exact ⟨seconds, rfl⟩

/-- A transfer that ended is taken up, a read with its moment. -/
theorem Dated.finishes (dated : core.Dated chip transferAt readAt sampleAt)
    (finished : core.Finishes after) :
    after.Dated chip transferAt
        (if after.status.reads ≠ core.status.reads then transferAt else readAt) sampleAt := by
  have same {after : RtcCore} (reads : after.status.reads = core.status.reads)
      (held : after.Dated chip transferAt readAt sampleAt) :
      after.Dated chip transferAt
        (if after.status.reads ≠ core.status.reads then transferAt else readAt) sampleAt := by
    rwa [if_neg (not_not.mpr reads)]
  cases finished with
  | rests => exact same rfl dated
  | failed waits bad present calendarValid timeValid =>
      refine same rfl (dated.onward (fun reading => ?_)
        fun searching => .inr ⟨searching, rfl, rfl, rfl, rfl, rfl, rfl, rfl⟩)
      cases reading
  | loaded request ok =>
      refine same rfl (dated.onward (fun reading => ?_)
        fun searching => .inr ⟨searching, rfl, rfl, rfl, rfl, rfl, rfl, rfl⟩)
      cases reading
  | released request ok =>
      refine same rfl (dated.onward (fun reading => ?_)
        fun searching => .inr ⟨searching, rfl, rfl, rfl, rfl, rfl, rfl, rfl⟩)
      cases reading
  | written request ok =>
      exact same rfl (dated.onward (fun _ read => absurd read core.unread)
        fun searching => .inr ⟨searching, rfl, rfl, rfl, rfl, rfl, rfl, rfl⟩)
  | read request ok =>
      obtain ⟨label, shows, stamp, latched, counts⟩ := dated.transfer request ok
      have changed : core.status.reads + 1 ≠ core.status.reads := by
        intro wrong
        rw [add_eq_left] at wrong
        cases wrong
      have decoded := @decode_shows
        { core.status with
          present := true
          reads := core.status.reads + 1
          readStamp := (core.transfers .read).startStamp
          request := .done } label shows
      change RtcCore.Dated chip { core with status := Pcf8563Status.decode _ } transferAt
        (if (Pcf8563Status.decode _).reads ≠ core.status.reads then _ else _) sampleAt
      rw [decode_reads, if_pos changed]
      refine ⟨fun reading => ?_, fun _ _ => ?_, dated.sample, dated.sampled.trans dated.taken, le_rfl⟩
      · rw [Pcf8563.decode_request] at reading
        cases reading
      · exact ⟨decoded.2.trans stamp, decoded.1.trans latched, counts⟩

end RtcCore

namespace Timeline

variable {chip : Chip} {timeline : Timeline}

/-- The driver and the search are dated, and a second that is valid is where it is kept to be,
its edges counted since it last became so. -/
structure Sound (chip : Chip) (timeline : Timeline) : Prop where
  world : timeline.source.Sound timeline.world.stopped
  dated : timeline.source.core.Dated chip timeline.transferAt timeline.readAt timeline.sampleAt
  places : timeline.source.second.valid = true →
    timeline.source.Places chip timeline.place timeline.second timeline.counted
  edges : timeline.source.second.valid = true →
    timeline.source.second.edges =
      timeline.setEdges + BitVec.ofInt 32 (timeline.second - timeline.setSecond)

/-- The second counted is what the chip shows from its latest increment at or before an epoch,
and its edges have advanced by the increments since it became valid. -/
structure Located (chip : Chip) (timeline : Timeline) (capture : ℤ) : Prop where
  stamp : timeline.source.second.stamp = BitVec.ofInt 32 timeline.place
  label : timeline.source.second.label = BitVec.ofInt 32 timeline.second
  near : |(timeline.place : ℚ) - chip.increment timeline.second| ≤
    timeline.source.secondError chip timeline.counted
  begun : chip.increment timeline.second ≤
    capture + timeline.source.secondError chip timeline.counted
  latest : (capture : ℚ) <
    chip.increment (timeline.second + 1) +
      timeline.source.secondError chip (timeline.counted + 1)
  edges : timeline.source.second.edges - timeline.setEdges =
    BitVec.ofInt 32 (timeline.second - timeline.setSecond)

theorem ofInt_more (place : ℤ) (more : ℕ) (few : more < 4294967296) :
    (BitVec.ofInt 32 (place + more) - BitVec.ofInt 32 place).toNat = more := by
  have difference : BitVec.ofInt 32 (place + more) - BitVec.ofInt 32 place = BitVec.ofNat 32 more := by
    rw [BitVec.ofInt_add, add_sub_cancel_left, BitVec.ofInt_natCast]
  rw [difference, BitVec.toNat_ofNat]
  exact Nat.mod_eq_of_lt few

/-- A report that counts on keeps the second placed, and locates it. -/
theorem Sound.counts (sound : timeline.Sound chip) {snapshot : TimingSnapshot} {capture : ℤ}
    (valid : timeline.source.second.valid = true) (captured : snapshot.epochCaptureValid = true)
    (dated : snapshot.epochCapture = BitVec.ofInt 32 capture)
    (reach : timeline.InReach chip capture) :
    (timeline.step chip ⟨.report snapshot, capture⟩).Sound chip ∧
      ((timeline.step chip ⟨.report snapshot, capture⟩).source.second.valid = true →
        (timeline.step chip ⟨.report snapshot, capture⟩).Located chip capture) := by
  have places := sound.places valid
  have reports : (timeline.source.report snapshot).2 =
      timeline.source.countOn (BitVec.ofInt 32 capture) 4 := by
    rw [SourceRtc.report, valid, captured, dated]
    dsimp only
    rw [Bool.not_true, Bool.or_false, if_neg Bool.false_ne_true]
    split <;> rfl
  obtain ⟨more, ticks, few, forward, short, placed, edges, latest, past, sameRate, sameResolution⟩ :=
    places.countOn sound.world.rate reach.ahead reach.reach 4
  obtain ⟨second, changed⟩ := timeline.source.countOn_second (BitVec.ofInt 32 capture) 4
  have source : (timeline.step chip ⟨.report snapshot, capture⟩).source =
      timeline.source.countOn (BitVec.ofInt 32 capture) 4 := reports
  have label : ((timeline.source.report snapshot).2.second.label -
      timeline.source.second.label).toNat = more := by
    rw [reports, placed.label, places.label]
    exact ofInt_more _ _ (by omega)
  have stamp : ((timeline.source.report snapshot).2.second.stamp -
      timeline.source.second.stamp).toNat = ticks.toNat := by
    have whole : ticks = (ticks.toNat : ℤ) := (Int.toNat_of_nonneg forward).symm
    rw [reports, placed.stamp, places.stamp, whole]
    exact ofInt_more _ _ (by omega)
  have stepped : timeline.step chip ⟨.report snapshot, capture⟩ =
      { timeline with
        world := timeline.world.step (.report snapshot)
        place := timeline.place + ticks
        second := timeline.second + more
        counted := timeline.counted + more } := by
    rw [step]
    dsimp only
    have ofReport : (timeline.world.step (.report snapshot)).source =
        (timeline.source.report snapshot).2 := rfl
    rw [ofReport, label, stamp, Int.toNat_of_nonneg forward]
  have sameRate : (timeline.source.countOn (BitVec.ofInt 32 capture) 4).rate =
      timeline.source.rate := sameRate
  have advanced : (timeline.source.countOn (BitVec.ofInt 32 capture) 4).second.edges =
      timeline.setEdges + BitVec.ofInt 32 (timeline.second + more - timeline.setSecond) := by
    have onward : timeline.second + more - timeline.setSecond =
        timeline.second - timeline.setSecond + more := by ring
    rw [edges, sound.edges valid, onward, BitVec.ofInt_add, BitVec.ofInt_natCast, BitVec.add_assoc]
  have error : |((timeline.place + ticks : ℤ) : ℚ) - chip.increment (timeline.second + more)| ≤ _ :=
    placed.error
  rw [stepped]
  constructor
  · refine ⟨?_, ?_, fun _ => ?_, fun _ => ?_⟩
    · exact SourceRtc.report_sound sound.world snapshot
    · change (timeline.source.report snapshot).2.core.Dated chip _ _ _
      rw [reports, changed]
      exact sound.dated.onward (fun reading _ => ⟨reading, rfl, rfl⟩)
        fun searching => .inr ⟨searching, rfl, rfl, rfl, rfl, rfl, rfl, rfl⟩
    · change (timeline.source.report snapshot).2.Places chip _ _ _
      rw [reports]
      exact placed
    · change (timeline.source.report snapshot).2.second.edges = _
      rw [reports]
      exact advanced
  · intro still
    change (timeline.source.report snapshot).2.second.valid = true at still
    rw [reports] at still
    have before : (capture : ℚ) < ((timeline.place + ticks : ℤ) : ℚ) +
        ((timeline.source.countOn (BitVec.ofInt 32 capture) 4).second.fractionQ8 : ℚ) / 256 +
          timeline.source.countedLength := past still
    refine ⟨?_, ?_, ?_, ?_, ?_, ?_⟩
    · exact (congrArg (fun source => source.second.stamp) reports).trans placed.stamp
    · exact (congrArg (fun source => source.second.label) reports).trans placed.label
    · change _ ≤ (timeline.source.report snapshot).2.secondError chip _
      rw [reports]
      exact error
    · change _ ≤ (capture : ℚ) + (timeline.source.report snapshot).2.secondError chip _
      rw [reports]
      rcases latest with ⟨rfl, rfl⟩ | reached
      · have begun := reach.begun
        rw [SourceRtc.secondError, SourceRtc.countedLength] at begun ⊢
        rw [sameRate, sameResolution]
        change chip.increment (timeline.second + ((0 : ℕ) : ℤ)) ≤ _
        rw [Nat.cast_zero, add_zero]
        exact begun
      · have reached : ((timeline.place + ticks : ℤ) : ℚ) ≤ capture := by exact_mod_cast reached
        have low := (abs_le.mp error).1
        change chip.increment (timeline.second + more) ≤ _
        linarith
    · change (capture : ℚ) < chip.increment (timeline.second + more + 1) +
        (timeline.source.report snapshot).2.secondError chip (timeline.counted + more + 1)
      rw [reports, Chip.increment_add, SourceRtc.secondError]
      have high := (abs_le.mp placed.near).2
      have length : (timeline.source.countOn (BitVec.ofInt 32 capture) 4).countedLength =
          timeline.source.countedLength := by
        rw [SourceRtc.countedLength, sameRate, SourceRtc.countedLength]
      rw [length] at high ⊢
      have apart := neg_abs_le (chip.length - timeline.source.countedLength)
      have counts : (0 : ℚ) ≤ ((timeline.counted + more : ℕ) : ℚ) := Nat.cast_nonneg _
      push_cast at before high counts ⊢
      rw [add_mul, one_mul, mul_add, mul_one]
      linarith
    · change (timeline.source.report snapshot).2.second.edges - timeline.setEdges = _
      rw [reports, advanced, add_sub_cancel_left]

/-- A report that counts nothing on changes nothing. -/
theorem step_uncounted {snapshot : TimingSnapshot} (capture : ℤ)
    (same : (timeline.source.report snapshot).2 = timeline.source) :
    timeline.step chip ⟨.report snapshot, capture⟩ = timeline := by
  have world : timeline.world.step (.report snapshot) = timeline.world := by
    change { timeline.world with source := (timeline.source.report snapshot).2 } = _
    rw [same]
  rw [step]
  dsimp only
  rw [world, sub_self, sub_self]
  change { timeline with
    world := timeline.world
    place := timeline.place + ((0 : ℕ) : ℤ)
    second := timeline.second + ((0 : ℕ) : ℤ)
    counted := timeline.counted + 0 } = timeline
  rw [Nat.cast_zero, add_zero, add_zero]
  rfl

theorem Sound.reported (sound : timeline.Sound chip) {snapshot : TimingSnapshot} {capture : ℤ}
    (admitted : timeline.Admits chip ⟨.report snapshot, capture⟩)
    (fits : timeline.Fits chip ⟨.report snapshot, capture⟩) :
    (timeline.step chip ⟨.report snapshot, capture⟩).Sound chip := by
  cases valid : timeline.source.second.valid with
  | false =>
      rw [step_uncounted capture (SourceRtc.report_invalid valid snapshot)]
      exact sound
  | true =>
      cases captured : snapshot.epochCaptureValid with
      | false =>
          have same : (timeline.source.report snapshot).2 = timeline.source := by
            rw [SourceRtc.report, captured, Bool.not_false, Bool.or_true]
            dsimp only
            rw [if_pos rfl]
            split <;> rfl
          rw [step_uncounted capture same]
          exact sound
      | true =>
          exact (sound.counts valid captured (admitted.2.2.2 captured) (fits valid captured)).1

/-- Where the increment is found to be: between the sample and the read after it. -/
theorem Sound.brackets (sound : timeline.Sound chip) (searching : timeline.source.core.Searching)
    (brackets : timeline.source.core.Brackets) :
    timeline.source.core.between = BitVec.ofInt 32 timeline.foundAt ∧
      timeline.source.rtc.status.utcSeconds = BitVec.ofInt 32 (chip.read timeline.readAt) ∧
      |(timeline.foundAt : ℚ) - chip.increment (chip.read timeline.readAt)| ≤
        ((timeline.source.rtc.status.readStamp - timeline.source.search.sampleStamp).toNat : ℚ) / 2 +
          1 := by
  have read := sound.dated.read searching brackets.fresh
  have sample := sound.dated.sample searching brackets.sampled
  have next : chip.shows (timeline.readAt + 1000) = chip.shows (timeline.sampleAt + 1000) + 1 := by
    have labels := brackets.next
    rw [read.label, sample.label] at labels
    have one : BitVec.ofInt 32 (chip.read timeline.readAt) =
        BitVec.ofInt 32 (chip.read timeline.sampleAt + 1) := by
      rw [labels, BitVec.ofInt_add]
      rfl
    have onward : chip.read timeline.sampleAt ≤ chip.read timeline.readAt :=
      chip.shows_mono (add_le_add_left sound.dated.sampled 1000)
    have range := read.counts
    have sampleRange := sample.counts
    change chip.read timeline.readAt = chip.read timeline.sampleAt + 1
    have counts := congrArg BitVec.toNat one
    rw [BitVec.toNat_ofInt, BitVec.toNat_ofInt] at counts
    omega
  obtain ⟨above, below, close⟩ := chip.between_counts next
  have gap : (timeline.source.rtc.status.readStamp - timeline.source.search.sampleStamp).toNat =
      (timeline.readAt - timeline.sampleAt).toNat := by
    have onward := sound.dated.sampled
    have read : timeline.source.rtc.status.readStamp = BitVec.ofInt 32 timeline.readAt := read.stamp
    have sample : timeline.source.search.sampleStamp = BitVec.ofInt 32 timeline.sampleAt :=
      sample.stamp
    have whole : timeline.readAt =
        timeline.sampleAt + ((timeline.readAt - timeline.sampleAt).toNat : ℤ) := by omega
    rw [read, sample]
    exact (congrArg (fun later => (BitVec.ofInt 32 later - BitVec.ofInt 32 timeline.sampleAt).toNat)
      whole).trans (ofInt_more _ _ (by omega))
  refine ⟨?_, read.label, ?_⟩
  · have middle : (timeline.source.rtc.status.readStamp - timeline.source.search.sampleStamp) / 2 =
        BitVec.ofNat 32
          ((timeline.source.rtc.status.readStamp - timeline.source.search.sampleStamp).toNat / 2) := by
      apply BitVec.eq_of_toNat_eq
      rw [BitVec.toNat_ofNat, Nat.mod_eq_of_lt
        ((Nat.div_le_self _ _).trans_lt (BitVec.isLt _))]
      exact BitVec.toNat_udiv
    change timeline.source.search.sampleStamp +
      (timeline.source.rtc.status.readStamp - timeline.source.search.sampleStamp) / 2 +
        sourceRtcReadLatchTicks = _
    rw [foundAt, BitVec.ofInt_add, BitVec.ofInt_add, BitVec.ofInt_natCast, ← middle]
    exact congrArg (· + _ + sourceRtcReadLatchTicks) sample.stamp
  · have span : (((timeline.readAt - timeline.sampleAt).toNat : ℕ) : ℚ) =
        timeline.readAt - timeline.sampleAt := by
      have onward := sound.dated.sampled
      have whole : (((timeline.readAt - timeline.sampleAt).toNat : ℕ) : ℤ) =
        timeline.readAt - timeline.sampleAt := by omega
      exact_mod_cast congrArg (Int.cast : ℤ → ℚ) whole
    have half := Nat.div_add_mod (timeline.readAt - timeline.sampleAt).toNat 2
    have rest := Nat.mod_lt (timeline.readAt - timeline.sampleAt).toNat (by decide : 2 > 0)
    have half : 2 * (((timeline.readAt - timeline.sampleAt).toNat / 2 : ℕ) : ℚ) +
        (((timeline.readAt - timeline.sampleAt).toNat % 2 : ℕ) : ℚ) =
          timeline.readAt - timeline.sampleAt := by
      rw [← span]
      exact_mod_cast half
    have rest : (((timeline.readAt - timeline.sampleAt).toNat % 2 : ℕ) : ℚ) ≤ 1 := by
      exact_mod_cast Nat.lt_succ_iff.mp rest
    have part : (0 : ℚ) ≤ (((timeline.readAt - timeline.sampleAt).toNat % 2 : ℕ) : ℚ) :=
      Nat.cast_nonneg _
    change ((timeline.sampleAt + 1000 : ℤ) : ℚ) < _ at above
    change _ ≤ ((timeline.readAt + 1000 : ℤ) : ℚ) at below
    change chip.increment (chip.read timeline.readAt) ≤ _ at below
    change _ < chip.increment (chip.read timeline.readAt) at above
    rw [foundAt, gap, span, abs_le]
    generalize (timeline.readAt - timeline.sampleAt).toNat / 2 = middle at half ⊢
    push_cast at above below ⊢
    constructor <;> linarith

/-- The edges a second found while one is still counted adds. -/
theorem Onward.edges (onward : timeline.Onward chip)
    (valid : timeline.source.second.valid = true)
    (stamp : timeline.source.second.stamp = BitVec.ofInt 32 timeline.place)
    (between : timeline.source.core.between = BitVec.ofInt 32 timeline.foundAt) :
    timeline.source.core.edgesFound = timeline.source.second.edges +
      BitVec.ofInt 32 (chip.read timeline.readAt - timeline.second) := by
  obtain ⟨later, above, below, reach⟩ := onward
  have valid : timeline.source.core.second.valid = true := valid
  have apart : (timeline.source.core.between - timeline.source.core.second.stamp).toInt =
      timeline.foundAt - timeline.place := by
    rw [between, show timeline.source.core.second.stamp = _ from stamp]
    apply Wrapping.toInt_ofInt_sub
    · omega
    · omega
  rw [RtcCore.edgesFound, if_pos valid, apart]
  dsimp only
  have rounded : (timeline.foundAt - timeline.place + 20000000).tdiv 40000000 =
      chip.read timeline.readAt - timeline.second := by
    rw [Int.tdiv_eq_ediv_of_nonneg (by omega)]
    omega
  have positive : (if 0 < chip.read timeline.readAt - timeline.second then
      chip.read timeline.readAt - timeline.second else 0) =
        chip.read timeline.readAt - timeline.second := by
    split
    · rfl
    · omega
  rw [rounded, positive]
  rfl

/-- A poll that finds the second. -/
theorem Sound.finds (sound : timeline.Sound chip) (timebase : BitVec 32)
    (searching : timeline.source.core.Searching) (brackets : timeline.source.core.Brackets)
    (fits : timeline.Fits chip ⟨.poll timebase, 0⟩) {rateValid : Bool} {rateQ8 : Int}
    (finds : (timeline.source.poll timebase).core = timeline.source.core.finds rateValid rateQ8) :
    (timeline.step chip ⟨.poll timebase, 0⟩).Sound chip := by
  obtain ⟨between, label, near⟩ := sound.brackets searching brackets
  have stepped : timeline.step chip ⟨.poll timebase, 0⟩ =
      { timeline with
        world := timeline.world.step (.poll timebase)
        place := timeline.foundAt
        second := chip.read timeline.readAt
        counted := 0
        setEdges := if timeline.source.second.valid then timeline.setEdges
          else timeline.source.core.edgesFound
        setSecond := if timeline.source.second.valid then timeline.setSecond
          else chip.read timeline.readAt } := by
    rw [step]
    dsimp only
    rw [polled, if_pos ⟨searching, brackets⟩]
    rfl
  have second := congrArg RtcCore.second finds
  have resting : ¬(timeline.source.poll timebase).core.Searching := by
    rw [finds]
    exact RtcCore.not_searching .idle (by decide) (by decide) rfl
  rw [stepped]
  refine ⟨SourceRtc.poll_sound sound.world timebase, ?_, fun _ => ?_, fun _ => ?_⟩
  · change (timeline.source.poll timebase).core.Dated chip _ _ _
    rw [finds] at resting ⊢
    exact sound.dated.idles resting rfl rfl
  · change SourceRtc.Places chip (timeline.source.poll timebase) timeline.foundAt
      (chip.read timeline.readAt) 0
    have second : (timeline.source.poll timebase).second = _ := second
    refine ⟨?_, ?_, ?_, ?_, ?_⟩
    · rw [second]
      exact between
    · rw [second]
      exact label
    · rw [second]
      exact ⟨le_rfl, (by decide : (0 : ℤ) < 256)⟩
    · rw [second]
      exact fun _ => rfl
    · rw [second, Nat.cast_zero, zero_mul, add_zero]
      change |(timeline.foundAt : ℚ) + ((0 : ℤ) : ℚ) / 256 - _| ≤ _
      rw [Int.cast_zero, zero_div, add_zero]
      exact near
  · have edges : (timeline.source.poll timebase).second.edges = timeline.source.core.edgesFound :=
      congrArg RtcSecond.edges second
    change (timeline.source.poll timebase).second.edges = _
    rw [edges]
    dsimp only
    cases valid : timeline.source.second.valid with
    | false =>
        rw [if_neg Bool.false_ne_true, if_neg Bool.false_ne_true, sub_self]
        exact (BitVec.add_zero _).symm
    | true =>
        have span : chip.read timeline.readAt - timeline.setSecond =
            timeline.second - timeline.setSecond + (chip.read timeline.readAt - timeline.second) := by
          ring
        have onward := fits valid ⟨searching, brackets⟩
        rw [if_pos rfl, if_pos rfl, onward.edges valid (sound.places valid).stamp between,
          sound.edges valid, span, BitVec.ofInt_add, BitVec.add_assoc]

/-- What leaves the second and its rate alone. -/
theorem Sound.unmoved (sound : timeline.Sound chip) {world : World} {transferAt readAt sampleAt : ℤ}
    (kept : world.source.Sound world.stopped)
    (dated : world.source.core.Dated chip transferAt readAt sampleAt) {valid : Bool}
    (second : world.source.second = { timeline.source.second with valid := valid })
    (still : valid = true → timeline.source.second.valid = true)
    (rate : world.source.rate.q8 = timeline.source.rate.q8) :
    Sound chip
      { timeline with
        world := world, transferAt := transferAt, readAt := readAt, sampleAt := sampleAt } := by
  have before : world.source.second.valid = true → timeline.source.second.valid = true := by
    rw [second]
    exact still
  refine ⟨kept, dated, fun now => ?_, fun now => ?_⟩
  · exact (sound.places (before now)).same second rate
  · change world.source.second.edges = _
    rw [second]
    exact sound.edges (before now)

/-- What a poll that does not find the second leaves. -/
theorem polls_second {core after : RtcCore} (other : ¬core.Searching) (polls : core.Polls after) :
    after.second = core.second ∧ after.rate = core.rate := by
  cases polls with
  | rests => exact ⟨rfl, rfl⟩
  | searches idle free => exact ⟨rfl, rfl⟩
  | finds searching => exact absurd searching other
  | looks searching => exact absurd searching other
  | loaded loading free worked => exact ⟨rfl, rfl⟩
  | releases waiting free => exact ⟨rfl, rfl⟩
  | confirms releasing free worked => exact ⟨rfl, rfl⟩
  | aborts releasesSeen writing => exact ⟨rfl, rfl⟩

theorem searches_second {core after : RtcCore} (onward : core.Searches after) :
    after.second = core.second ∧ after.rate = core.rate := by
  cases onward with
  | rests => exact ⟨rfl, rfl⟩
  | fails => exact ⟨rfl, rfl⟩
  | reads free => exact ⟨rfl, rfl⟩

theorem samples_second {core after : RtcCore} (samples : core.Samples after) :
    after.second = core.second ∧ after.rate = core.rate := by
  cases samples with
  | none seen => exact ⟨rfl, rfl⟩
  | drops => exact ⟨rfl, rfl⟩
  | keeps calendarValid running => exact ⟨rfl, rfl⟩

theorem Sound.polled (sound : timeline.Sound chip) {timebase : BitVec 32} {moment : ℤ}
    (admitted : timeline.Admits chip ⟨.poll timebase, moment⟩)
    (fits : timeline.Fits chip ⟨.poll timebase, moment⟩) :
    (timeline.step chip ⟨.poll timebase, moment⟩).Sound chip := by
  have kept : (timeline.source.poll timebase).Sound timeline.world.stopped :=
    SourceRtc.poll_sound sound.world timebase
  by_cases searching : timeline.source.core.Searching
  · have keeps : timeline.source.poll timebase = timeline.source.keepSearching := by
      rw [SourceRtc.poll]
      rcases searching with searching | confirming
      · rw [show timeline.source.activity = .searching from searching]
      · rw [show timeline.source.activity = .confirming from confirming]
    by_cases seen : timeline.source.core.status.reads = timeline.source.core.readsSeen
    · have none : timeline.source.takeReads = timeline.source := if_neg (not_not.mpr seen)
      have onward : timeline.source.poll timebase = timeline.source.readOn := by
        rw [keeps, SourceRtc.keepSearching, none]
        rcases searching with searching | confirming
        · rw [show timeline.source.activity = .searching from searching]
        · rw [show timeline.source.activity = .confirming from confirming]
      have searches := SourceRtc.readOn_core sound.world
      rw [← onward] at searches
      obtain ⟨second, rate⟩ := searches_second searches
      have stepped : timeline.step chip ⟨.poll timebase, moment⟩ =
          { timeline with world := timeline.world.step (.poll timebase) } := by
        rw [step]
        dsimp only
        rw [Timeline.polled, if_neg fun both => both.2.fresh seen, if_neg fun both => both.2 seen]
      rw [stepped]
      exact sound.unmoved kept (sound.dated.keeps searches) second id (congrArg RtcRate.q8 rate)
    · rcases SourceRtc.takeReads_core timeline.source with ⟨samples, activity, -⟩ |
        ⟨brackets, rateValid, rateQ8, -, finds⟩
      · have onward : timeline.source.poll timebase = timeline.source.takeReads.readOn := by
          rw [keeps, SourceRtc.keepSearching, activity]
          rcases searching with searching | confirming
          · rw [show timeline.source.activity = .searching from searching]
          · rw [show timeline.source.activity = .confirming from confirming]
        have searches := SourceRtc.readOn_core (SourceRtc.takeReads_sound sound.world)
        rw [← onward] at searches
        obtain ⟨second, rate⟩ := searches_second searches
        obtain ⟨second', rate'⟩ := samples_second samples
        have unbracketed : ¬timeline.source.core.Brackets := by
          intro brackets
          have idle : timeline.source.takeReads.activity = .idle := by
            rw [SourceRtc.takeReads_found brackets]
            rfl
          exact RtcCore.not_searching .idle (by decide) (by decide) (activity.symm.trans idle) searching
        have stepped : timeline.step chip ⟨.poll timebase, moment⟩ =
            { timeline with
              world := timeline.world.step (.poll timebase), sampleAt := timeline.readAt } := by
          rw [step]
          dsimp only
          rw [Timeline.polled, if_neg fun both => unbracketed both.2, if_pos ⟨searching, seen⟩]
        rw [stepped]
        exact sound.unmoved kept ((sound.dated.samples searching seen samples).keeps searches)
          (second.trans second') id (congrArg RtcRate.q8 (rate.trans rate'))
      · have idle : timeline.source.takeReads.activity = .idle := congrArg RtcCore.activity finds
        have ended : timeline.source.poll timebase = timeline.source.takeReads := by
          rw [keeps, SourceRtc.keepSearching, idle]
        rw [← ended] at finds
        exact sound.finds timebase searching brackets fits finds
  · have polls := SourceRtc.poll_core sound.world timebase
    obtain ⟨second, rate⟩ := polls_second searching polls
    have stepped : timeline.step chip ⟨.poll timebase, moment⟩ =
        { timeline with world := timeline.world.step (.poll timebase) } := by
      rw [step]
      dsimp only
      rw [Timeline.polled, if_neg fun both => searching both.1, if_neg fun both => searching both.1]
    rw [stepped]
    exact sound.unmoved kept (sound.dated.others searching admitted.2.2.1 polls) second id
      (congrArg RtcRate.q8 rate)

/-- An epoch that writes nothing to the chip. -/
theorem Sound.epoch (sound : timeline.Sound chip) {snapshot : TimingSnapshot} {time : SyncTime}
    {synchronised : Bool} {boundNs : Nat} {moment : ℤ}
    (admitted : timeline.Admits chip ⟨.epoch snapshot time synchronised boundNs, moment⟩) :
    (timeline.step chip ⟨.epoch snapshot time synchronised boundNs, moment⟩).Sound chip := by
  have kept : (timeline.source.epoch snapshot time synchronised boundNs).Sound
      timeline.world.stopped :=
    SourceRtc.epoch_sound sound.world admitted.1.1 time synchronised boundNs
  obtain ⟨activity, found, offsetMs, anchor, either, -, -, -, settled⟩ :=
    timeline.source.settle_core snapshot time (synchronised && time.known && !time.leapSecond)
      boundNs
  have dated : (timeline.source.settle snapshot time
      (synchronised && time.known && !time.leapSecond) boundNs).core.Dated chip timeline.transferAt
        timeline.readAt timeline.sampleAt := by
    rw [settled]
    refine sound.dated.onward (fun reading _ => ⟨reading, rfl, rfl⟩) fun searching => ?_
    rcases either with same | idle
    · change activity = .searching ∨ activity = .confirming at searching
      rw [same] at searching
      exact .inr ⟨searching, rfl, rfl, rfl, rfl, rfl, rfl, rfl⟩
    · exact absurd searching (RtcCore.not_searching .idle (by decide) (by decide) idle)
  have onward : (timeline.source.epoch snapshot time synchronised boundNs).core.Dated chip
        timeline.transferAt timeline.readAt timeline.sampleAt ∧
      (timeline.source.epoch snapshot time synchronised boundNs).core.second =
        (timeline.source.settle snapshot time (synchronised && time.known && !time.leapSecond)
          boundNs).core.second ∧
      (timeline.source.epoch snapshot time synchronised boundNs).core.rate.q8 =
        (timeline.source.settle snapshot time (synchronised && time.known && !time.leapSecond)
          boundNs).core.rate.q8 := by
    rcases SourceRtc.epoch_core sound.world admitted.1.1 time synchronised boundNs with
      rests | ⟨-, -, acts⟩
    · rw [rests]
      exact ⟨dated, rfl, rfl⟩
    · exact dated.acts admitted.2.1 admitted.2.2.1 acts
  obtain ⟨dated, second, rate⟩ := onward
  rw [settled] at second rate
  exact sound.unmoved kept dated second (fun valid => (Bool.and_eq_true_iff.mp valid).1) rate

/-- The driver's service, a read taken up or not. -/
theorem Sound.serviced (sound : timeline.Sound chip) (nowMs : BitVec 32) (moment : ℤ) :
    (timeline.step chip ⟨.service nowMs, moment⟩).Sound chip := by
  have kept : (timeline.world.step (.service nowMs)).source.Sound timeline.world.stopped :=
    World.step_sound sound.world (show timeline.world.Admits (.service nowMs) from trivial)
  have dated : (timeline.world.step (.service nowMs)).source.core.Dated chip timeline.transferAt
      (if (timeline.world.step (.service nowMs)).source.rtc.status.reads ≠
          timeline.source.rtc.status.reads then timeline.transferAt else timeline.readAt)
      timeline.sampleAt := by
    have served := SourceRtc.service_core sound.world nowMs
    change RtcCore.Dated chip (SourceRtc.core
      { timeline.source with rtc := (timeline.source.rtc.service nowMs).2 }) _
      (if (SourceRtc.core
        { timeline.source with rtc := (timeline.source.rtc.service nowMs).2 }).status.reads ≠
          timeline.source.core.status.reads then _ else _) _
    generalize SourceRtc.core
      { timeline.source with rtc := (timeline.source.rtc.service nowMs).2 } = after at served ⊢
    cases served with
    | finishes finished => exact sound.dated.finishes finished
    | @reads after finished idle free => exact (sound.dated.finishes finished).reads
  have same := sound.unmoved kept dated rfl id rfl
  have stepped : timeline.step chip ⟨.service nowMs, moment⟩ =
      { timeline with
        world := timeline.world.step (.service nowMs)
        readAt := if (timeline.world.step (.service nowMs)).source.rtc.status.reads ≠
          timeline.source.rtc.status.reads then timeline.transferAt else timeline.readAt } := by
    rw [step]
    dsimp only
    split <;> rfl
  rw [stepped]
  exact same

/-- The bus at work, a read it ends well returning the count. -/
theorem Sound.carried (sound : timeline.Sound chip) {transfer : Pcf8563Transfer} {result : I2cResult}
    {taken : Bool} {startStamp : BitVec 32} {registers : Registers} {moment : ℤ}
    (admitted : timeline.Admits chip ⟨.bus transfer result taken startStamp registers, moment⟩) :
    (timeline.step chip ⟨.bus transfer result taken startStamp registers, moment⟩).Sound chip := by
  have kept := World.step_sound sound.world admitted.1
  have dated := sound.dated
  cases transfer with
  | read =>
      obtain ⟨later, stamp, shows⟩ := admitted.2.2.2
      refine sound.unmoved kept ?_ rfl id rfl
      refine ⟨fun _ ok => ?_, dated.read, dated.sample, dated.sampled, dated.taken.trans later⟩
      change (Function.update timeline.source.rtc.transfers .read _ .read).result = .ok at ok
      rw [Function.update_self] at ok
      obtain ⟨count, range⟩ := shows ok
      refine ⟨_, count, ?_, rfl, range⟩
      change (Function.update timeline.source.rtc.transfers .read _ .read).startStamp = _
      rw [Function.update_self]
      exact stamp
  | write =>
      refine sound.unmoved kept ?_ rfl id rfl
      refine dated.onward (fun reading _ => ⟨reading, ?_, rfl⟩)
        fun searching => .inr ⟨searching, rfl, rfl, rfl, rfl, rfl, rfl, rfl⟩
      exact Function.update_of_ne (by decide : Pcf8563Transfer.read ≠ .write)
        ({ result := result, startStamp := startStamp } : I2cTransfer) timeline.source.rtc.transfers
  | release =>
      refine sound.unmoved kept ?_ rfl id rfl
      refine dated.onward (fun reading _ => ⟨reading, ?_, rfl⟩)
        fun searching => .inr ⟨searching, rfl, rfl, rfl, rfl, rfl, rfl, rfl⟩
      exact Function.update_of_ne (by decide : Pcf8563Transfer.read ≠ .release)
        ({ result := result, startStamp := startStamp } : I2cTransfer) timeline.source.rtc.transfers

theorem step_sound (sound : timeline.Sound chip) {timed : TimedAct}
    (admitted : timeline.Admits chip timed) (fits : timeline.Fits chip timed) :
    (timeline.step chip timed).Sound chip := by
  obtain ⟨act, moment⟩ := timed
  cases act with
  | oscillator offsetQ16 =>
      exact sound.unmoved (World.step_sound sound.world admitted.1) sound.dated rfl id rfl
  | report snapshot => exact sound.reported admitted fits
  | epoch snapshot time synchronised boundNs => exact sound.epoch admitted
  | poll timebase => exact sound.polled admitted fits
  | set utcSeconds =>
      rcases SourceRtc.set_core sound.world utcSeconds with refused | ⟨-, -, -, wrote⟩
      · have same : (timeline.world.step (.set utcSeconds)).source = timeline.source := by
          change (timeline.source.set utcSeconds).2 = _
          rw [refused]
        refine sound.unmoved (World.step_sound sound.world admitted.1) ?_ ?_ id ?_
        · rw [same]
          exact sound.dated
        · rw [same]
        · rw [same]
      · have request : (timeline.source.set utcSeconds).2.rtc.status.request = .writing :=
          congrArg (fun core => core.status.request) wrote
        exact absurd (congrArg Pcf8563Request.waitsFor request) admitted.2.1
  | service nowMs => exact sound.serviced nowMs moment
  | bus transfer result taken startStamp registers => exact sound.carried admitted

theorem reached_sound
    (reached : (timelineMachine chip).Reachable
      (fun timeline timed => timeline.Admits chip timed ∧ timeline.Fits chip timed) timeline) :
    timeline.Sound chip := by
  have invariant : (timelineMachine chip).Invariant
      (fun timeline timed => timeline.Admits chip timed ∧ timeline.Fits chip timed)
      (Sound chip) := by
    refine ⟨fun timeline start => ?_, fun timeline timed sound both => step_sound sound both.1 both.2⟩
    obtain ⟨starts, sampled, taken⟩ := start
    have kept := World.sound (.start starts)
    obtain ⟨nowMs, restored, -, fresh⟩ := starts
    have none : timeline.source.second.valid = false := by
      rw [source, fresh]
      rfl
    have resting : ¬timeline.source.core.Searching := by
      rw [source, fresh]
      exact RtcCore.not_searching .idle (by decide) (by decide) rfl
    refine ⟨kept, ⟨fun _ ok => ?_, fun searching => absurd searching resting,
      fun searching => absurd searching resting, sampled, taken⟩,
      fun valid => absurd (none.symm.trans valid) Bool.false_ne_true,
      fun valid => absurd (none.symm.trans valid) Bool.false_ne_true⟩
    have unread : timeline.source.rtc.transfers .read =
        ((SourceRtc.init (Pcf8563.init nowMs)).restore restored).rtc.transfers .read := by
      rw [source, fresh]
    have wrong : ((SourceRtc.init (Pcf8563.init nowMs)).restore restored).rtc.transfers .read =
        timeline.source.core.transfers .read := unread.symm
    rw [← wrong] at ok
    cases ok
  exact invariant.reachable reached

/-- A chip whose second 1760000001 starts at 30000, at the nominal rate. -/
def nominal : Chip where
  phase := 30000 - 1760000001 * 40000000
  length := 40000000
  near := by norm_num

instance (timeline : Timeline) (timed : TimedAct) : Decidable (timeline.Admits nominal timed) :=
  match timed with
  | ⟨.bus .read .., _⟩ => inferInstanceAs (Decidable (_ ∧ _))
  | ⟨.bus .write .., _⟩ => inferInstanceAs (Decidable (_ ∧ _))
  | ⟨.bus .release .., _⟩ => inferInstanceAs (Decidable (_ ∧ _))
  | ⟨.report _, _⟩ => inferInstanceAs (Decidable (_ ∧ _))
  | ⟨.epoch .., _⟩ => inferInstanceAs (Decidable (_ ∧ _))
  | ⟨.poll _, _⟩ => inferInstanceAs (Decidable (_ ∧ _))
  | ⟨.set _, _⟩ => inferInstanceAs (Decidable (_ ∧ _))
  | ⟨.service _, _⟩ => inferInstanceAs (Decidable (_ ∧ _))
  | ⟨.oscillator _, _⟩ => inferInstanceAs (Decidable (_ ∧ _))

instance (timeline : Timeline) (timed : TimedAct) : Decidable (timeline.Fits nominal timed) :=
  match timed with
  | ⟨.report _, _⟩ => inferInstanceAs (Decidable (_ → _))
  | ⟨.poll _, _⟩ => inferInstanceAs (Decidable (_ → _))
  | ⟨.bus .., _⟩ => inferInstanceAs (Decidable True)
  | ⟨.epoch .., _⟩ => inferInstanceAs (Decidable True)
  | ⟨.set _, _⟩ => inferInstanceAs (Decidable True)
  | ⟨.service _, _⟩ => inferInstanceAs (Decidable True)
  | ⟨.oscillator _, _⟩ => inferInstanceAs (Decidable True)

/-- Start-up, nothing kept. -/
def unread : Timeline where
  world := { source := (SourceRtc.init (Pcf8563.init 0)).restore {} }

theorem unread_start : (timelineMachine nominal).start unread :=
  ⟨⟨0, {}, ⟨abs_zero.le.trans (by decide), (by decide : 0 < 4294967296)⟩, rfl⟩, le_rfl, le_rfl⟩

/-- The chip read, and its second 1760000001 found at 22000. -/
def findsSecond : List TimedAct :=
  [⟨.bus .read .ok true 0 (encode 1760000000 0), 0⟩, ⟨.service 1, 0⟩, ⟨.poll 0, 0⟩,
    ⟨.bus .read .ok true 1000 (encode 1760000000 0), 1000⟩, ⟨.service 2, 0⟩, ⟨.poll 0, 0⟩,
    ⟨.bus .read .ok true 41000 (encode 1760000001 0), 41000⟩, ⟨.service 3, 0⟩, ⟨.poll 0, 0⟩]

/-- The report of an epoch with a capture. -/
def capturedAt (capture : ℤ) : TimedAct where
  act := .report
    { sequence := 1, epochCaptureValid := true, epochCapture := BitVec.ofInt 32 capture }
  moment := capture

/-- So many epochs that were not captured. -/
def uncaptured (epochs : ℕ) : List TimedAct :=
  (List.range epochs).flatMap fun epoch =>
    [⟨.report { sequence := BitVec.ofNat 32 (epoch + 1) }, 0⟩,
      ⟨.epoch { sequence := BitVec.ofNat 32 (epoch + 1) } {} false 0, 0⟩]

end Timeline

end GpsClock.Rtc
