import GpsClock.Rtc.Acts

/-! # What the chip was written

A plain write is recorded, as the anchor and as the last setting, when it is submitted;
an aligned one only once the driver has counted it. With what has reached the chip kept
beside the world: unless the latest plain write accepted is still to end, or has failed,
the anchor and the last setting are what the chip acknowledged
(`GpsClock.Rtc.Logged.recorded_unless_owed`).
-/

namespace GpsClock.Rtc

open GpsClock.Platform GpsClock.Sync GpsClock.Timing

/-- What the chip can be written. -/
inductive ChipWrite
  | time (registers : Registers)
  | release
  deriving DecidableEq

/-- What has reached the chip, latest first, and whether all of it was acknowledged. -/
abbrev ChipLog :=
  List (ChipWrite × Bool)

/-- The world, what has reached the chip, and whether the latest plain write accepted has
yet to be acknowledged. -/
structure Logged where
  world : World
  log : ChipLog
  owed : Bool

namespace World

/-- What an act gives the chip. -/
def gives (world : World) : RtcAct → ChipLog
  | .bus .write result true _ _ => [(.time world.source.rtc.writeBuffer, result == .ok)]
  | .bus .release result true _ _ => [(.release, result == .ok)]
  | _ => []

/-- The acknowledgement of a plain write. -/
def acknowledges (world : World) : RtcAct → Bool
  | .bus .write .ok _ _ _ => world.source.rtc.status.request == .writing
  | _ => false

end World

namespace Logged

def step (logged : Logged) (act : RtcAct) : Logged :=
  let after := logged.world.step act
  { world := after
    log := logged.world.gives act ++ logged.log
    owed :=
      logged.owed && !logged.world.acknowledges act ||
        logged.world.source.rtc.status.request != .writing &&
          after.source.rtc.status.request == .writing }

def Admits (logged : Logged) (act : RtcAct) : Prop :=
  World.Admits logged.world act

instance (logged : Logged) (act : RtcAct) : Decidable (logged.Admits act) :=
  inferInstanceAs (Decidable (World.Admits _ _))

end Logged

/-- An aligned write's load, the second before the one it is to land on. -/
def ChipLog.Loaded (log : ChipLog) (label : BitVec 32) : Prop :=
  (.time (encode (label - 1) pcf8563Stop), true) ∈ log

/-- Its release after it. -/
def ChipLog.Released (log : ChipLog) (label : BitVec 32) : Prop :=
  [(ChipWrite.release, true), (.time (encode (label - 1) pcf8563Stop), true)].Sublist log

/-- An anchor by a plain write. -/
def SourceRtcAnchor.Plain (anchor : SourceRtcAnchor) : Prop :=
  anchor.valid = true ∧ anchor.aligned = false

/-- The anchor and the last setting are what the chip acknowledged. -/
structure RtcCore.Recorded (log : ChipLog) (core : RtcCore) : Prop where
  anchor : core.anchor.Plain →
    log.head? = some (.time (encode core.anchor.utcSeconds 0), true)
  plain : core.written.valid = true → core.written.aligned = false →
    (.time (encode core.written.utc 0), true) ∈ log
  aligned : core.written.valid = true → core.written.aligned = true → log.Released core.written.utc

/-- From start-up, with what an earlier run kept and the chip had acknowledged. -/
def loggedMachine : Machine Logged RtcAct where
  start logged := rtcMachine.start logged.world ∧ logged.owed = false ∧
    logged.world.source.core.Recorded logged.log
  step := Logged.step

/-! ## What every step keeps -/

/-- What is recorded, and what an aligned write in hand has had acknowledged. -/
structure RtcCore.Kept (log : ChipLog) (owed : Bool) (core : RtcCore) : Prop where
  recorded : owed = false → core.Recorded log
  aligned : core.written.valid = true → core.written.aligned = true → log.Released core.written.utc
  buffer : core.status.request = .writing →
    (core.anchor.Plain → core.writeBuffer = encode core.anchor.utcSeconds 0) ∧
      (core.written.valid = true → core.written.aligned = false →
        core.writeBuffer = encode core.written.utc 0)
  owes : core.status.request = .writing → (core.transfers .write).done = false → owed = true
  replaced : core.status.request = .writingStopped ∨ core.status.request = .releasing →
    ¬core.anchor.Plain
  held : core.activity = .loading ∨ core.activity = .waiting ∨ core.activity = .releasing →
    ¬core.anchor.Plain
  loading : core.activity = .loading →
    core.status.request = .writingStopped ∧
        core.writeBuffer = encode (core.expectLabel - 1) pcf8563Stop ∧
        core.status.writes = core.writesSeen ∧
        ((core.transfers .write).result = .ok → log.Loaded core.expectLabel) ∨
      core.status.request.waitsFor = none ∧
        (core.status.writes ≠ core.writesSeen → log.Loaded core.expectLabel)
  waiting : core.activity = .waiting ∨ core.activity = .releasing → log.Loaded core.expectLabel
  releasing : core.activity = .releasing →
    core.status.request = .releasing ∧ core.status.releases = core.releasesSeen ∧
        ((core.transfers .release).result = .ok → log.Released core.expectLabel) ∨
      core.status.request.waitsFor = none ∧
        (core.status.releases ≠ core.releasesSeen → log.Released core.expectLabel)
  confirming : core.activity = .confirming → core.purpose = .confirm
  confirmed : core.activity = .confirming ∨ core.done = true → core.purpose = .confirm →
    log.Released core.expectLabel

namespace RtcCore

variable {core after : RtcCore} {log : ChipLog} {owed : Bool}

theorem Recorded.same (recorded : core.Recorded log) (anchor : after.anchor = core.anchor)
    (written : after.written = core.written) : after.Recorded log where
  anchor := by
    rw [anchor]
    exact recorded.anchor
  plain := by
    rw [written]
    exact recorded.plain
  aligned := by
    rw [written]
    exact recorded.aligned

theorem Kept.later (kept : core.Kept log owed) (accepts : Bool) :
    core.Kept log (owed || accepts) where
  recorded none := kept.recorded (Bool.or_eq_false_iff.mp none).1
  aligned := kept.aligned
  buffer := kept.buffer
  owes writing waits := by
    rw [kept.owes writing waits]
    rfl
  replaced := kept.replaced
  held := kept.held
  loading := kept.loading
  waiting := kept.waiting
  releasing := kept.releasing
  confirming := kept.confirming
  confirmed := kept.confirmed

theorem Kept.set (kept : core.Kept log owed) (idle : core.activity = .idle) (utcSeconds : BitVec 32) :
    (core.wrote utcSeconds).Kept log true where
  recorded none := absurd none.symm Bool.false_ne_true
  aligned _ aligned := absurd aligned Bool.false_ne_true
  buffer _ := ⟨fun _ => rfl, fun _ _ => rfl⟩
  owes _ _ := rfl
  replaced request := by rcases request with request | request <;> cases request
  held writing := by
    rw [show (core.wrote utcSeconds).activity = .idle from idle] at writing
    rcases writing with writing | writing | writing <;> cases writing
  loading loading := by cases idle.symm.trans loading
  waiting writing := by
    rcases writing with writing | writing
    · cases idle.symm.trans writing
    · cases idle.symm.trans writing
  releasing releasing := by cases idle.symm.trans releasing
  confirming confirming := by cases idle.symm.trans confirming
  confirmed := kept.confirmed

/-- A plain write is accepted when the driver starts on one. -/
def accepts (core after : RtcCore) : Bool :=
  core.status.request != .writing && after.status.request == .writing

/-- Nothing in hand but what does not write a time. -/
theorem Kept.rested (kept : core.Kept log owed)
    (quiet : after.activity = .idle ∨ after.activity = .searching) (undone : after.done = false)
    (written : after.written = core.written)
    (anchor : after.anchor = core.anchor ∨ ¬after.anchor.Plain)
    (other : after.status.request ≠ .writing)
    (replaced : after.status.request = .writingStopped ∨ after.status.request = .releasing →
      ¬after.anchor.Plain) : after.Kept log owed where
  recorded none := by
    obtain ⟨anchored, plain, aligned⟩ := kept.recorded none
    refine ⟨fun valid => ?_, by rwa [written], by rwa [written]⟩
    rcases anchor with same | unplain
    · rw [same] at valid ⊢
      exact anchored valid
    · exact absurd valid unplain
  aligned := by
    rw [written]
    exact kept.aligned
  buffer writing := absurd writing other
  owes writing := absurd writing other
  replaced := replaced
  held writing := by
    rcases quiet with quiet | quiet <;> rw [quiet] at writing <;>
      rcases writing with writing | writing | writing <;> cases writing
  loading loading := by
    rcases quiet with quiet | quiet <;> cases quiet.symm.trans loading
  waiting writing := by
    rcases quiet with quiet | quiet <;> rw [quiet] at writing <;>
      rcases writing with writing | writing <;> cases writing
  releasing releasing := by
    rcases quiet with quiet | quiet <;> cases quiet.symm.trans releasing
  confirming confirming := by
    rcases quiet with quiet | quiet <;> cases quiet.symm.trans confirming
  confirmed either := by
    rcases either with confirming | done
    · rcases quiet with quiet | quiet <;> cases quiet.symm.trans confirming
    · exact absurd (undone.symm.trans done) Bool.false_ne_true

theorem unplain (anchor : SourceRtcAnchor) :
    ¬SourceRtcAnchor.Plain { anchor with valid := false } :=
  fun plain => Bool.false_ne_true plain.1

theorem Kept.loads (kept : core.Kept log owed) (undone : core.done = false)
    (stamp label : BitVec 32) :
    ((core.planned stamp label).writes (label - 1) pcf8563Stop .writingStopped).Kept log owed where
  recorded none :=
    ⟨fun plain => absurd plain (unplain _), (kept.recorded none).plain, (kept.recorded none).aligned⟩
  aligned := kept.aligned
  buffer writing := by cases writing
  owes writing := by cases writing
  replaced _ := unplain _
  held _ := unplain _
  loading _ := by
    refine .inl ⟨rfl, rfl, rfl, fun worked => ?_⟩
    rw [writes, asks] at worked
    dsimp only at worked
    rw [Function.update_self] at worked
    cases worked
  waiting writing := by rcases writing with writing | writing <;> cases writing
  releasing releasing := by cases releasing
  confirming confirming := by cases confirming
  confirmed either := by
    rcases either with confirming | done
    · cases confirming
    · exact absurd (undone.symm.trans done) Bool.false_ne_true

theorem free_ne {request : Pcf8563Request} (free : request.waitsFor = none) :
    request ≠ .writing ∧ ¬(request = .writingStopped ∨ request = .releasing) := by
  cases request <;> simp [Pcf8563Request.waitsFor] at free ⊢

theorem Kept.acts (kept : core.Kept log owed) (idle : core.activity = .idle)
    (undone : core.done = false) (free : core.status.request.waitsFor = none)
    (acts : core.Acts after) : after.Kept log (owed || core.accepts after) := by
  obtain ⟨unwritten, unstopped⟩ := free_ne free
  cases acts with
  | rests => exact kept.later _
  | writes utcSeconds =>
      have accepted : core.accepts (core.wrote utcSeconds) = true :=
        Bool.and_eq_true_iff.mpr ⟨bne_iff_ne.mpr unwritten, rfl⟩
      rw [accepted, Bool.or_true]
      exact kept.set idle utcSeconds
  | loads stamp label => exact (kept.loads undone stamp label).later _
  | refused stamp label =>
      refine Kept.later ?_ _
      refine kept.rested (.inl rfl) undone rfl (.inr (unplain _)) unwritten ?_
      exact fun request => absurd request unstopped
  | releases =>
      refine Kept.later ?_ _
      refine kept.rested (.inl idle) undone rfl (.inr (unplain _)) ?_ fun _ => unplain _
      exact fun writing => by cases writing
  | reads =>
      refine Kept.later ?_ _
      refine kept.rested (.inl idle) undone rfl (.inl rfl) ?_ ?_
      · exact fun writing => by cases writing
      · exact fun request => by rcases request with request | request <;> cases request
  | searches why other =>
      refine Kept.later ?_ _
      refine kept.rested (.inr (if_neg other)) rfl rfl (.inl rfl) ?_ ?_
      · exact fun writing => by cases writing
      · exact fun request => by rcases request with request | request <;> cases request

theorem Kept.settles {source : SourceRtc} (kept : source.core.Kept log owed)
    (snapshot : TimingSnapshot) (time : SyncTime) (synchronised : Bool) (boundNs : Nat) :
    (source.settle snapshot time synchronised boundNs).core.Kept log owed := by
  obtain ⟨activity, found, offsetMs, anchor, either, _, _, aligned, settled⟩ :=
    source.settle_core snapshot time synchronised boundNs
  have anchored : (if source.anchors snapshot synchronised boundNs then anchor
      else source.anchor) = source.anchor ∨
        ¬(if source.anchors snapshot synchronised boundNs then anchor
          else source.anchor).Plain := by
    split
    · exact .inr fun plain => Bool.false_ne_true (plain.2.symm.trans aligned)
    · exact .inl rfl
  have written : source.core.writtenBy (source.acts snapshot) = source.core.written ∨
      (source.core.writtenBy (source.acts snapshot)).aligned = true ∧
        log.Released (source.core.writtenBy (source.acts snapshot)).utc := by
    rw [writtenBy]
    split
    · next landed =>
        obtain ⟨acts, confirms⟩ := Bool.and_eq_true_iff.mp landed
        have done := (SourceRtc.found_of_acts acts).1
        have purpose := eq_of_beq (Bool.and_eq_true_iff.mp confirms).1
        exact .inr ⟨rfl, kept.confirmed (.inr done) purpose⟩
    · exact .inl rfl
  rw [settled]
  generalize (if source.anchors snapshot synchronised boundNs then anchor
    else source.anchor) = anchor at anchored ⊢
  generalize source.core.writtenBy (source.acts snapshot) = last at written ⊢
  have unaligned : last.aligned = false → last = source.core.written := fun plain =>
    written.resolve_right fun landed => Bool.false_ne_true (plain.symm.trans landed.1)
  have unmoved : anchor.Plain → anchor = source.anchor := fun plain =>
    anchored.resolve_right fun unplain => unplain plain
  have same {state : SourceRtcActivity} (active : state ≠ .idle) (now : activity = state) :
      source.core.activity = state := by
    rcases either with unchanged | idle
    · exact unchanged.symm.trans now
    · exact absurd (now.symm.trans idle) active
  have released : last.valid = true → last.aligned = true → log.Released last.utc := by
    intro valid aligned
    rcases written with unchanged | ⟨_, landed⟩
    · rw [unchanged] at valid aligned ⊢
      exact kept.aligned valid aligned
    · exact landed
  refine ⟨fun none => ⟨fun plain => ?_, fun valid plain => ?_, released⟩, released, ?_, kept.owes, ?_,
    ?_, ?_, ?_, ?_, ?_, ?_⟩
  · have recorded := (kept.recorded none).anchor
    obtain rfl := unmoved plain
    exact recorded plain
  · have recorded := (kept.recorded none).plain
    obtain rfl := unaligned plain
    exact recorded valid plain
  · intro writing
    obtain ⟨anchors, sets⟩ := kept.buffer writing
    refine ⟨fun plain => ?_, fun valid plain => ?_⟩
    · obtain rfl := unmoved plain
      exact anchors plain
    · obtain rfl := unaligned plain
      exact sets valid plain
  · intro request plain
    obtain rfl := unmoved plain
    exact kept.replaced request plain
  · intro writing plain
    obtain rfl := unmoved plain
    refine kept.held ?_ plain
    exact writing.imp (same (by decide)) (.imp (same (by decide)) (same (by decide)))
  · exact fun loading => kept.loading (same (by decide) loading)
  · exact fun writing => kept.waiting (writing.imp (same (by decide)) (same (by decide)))
  · exact fun releasing => kept.releasing (same (by decide) releasing)
  · exact fun confirming => kept.confirming (same (by decide) confirming)
  · rintro (confirming | done) purpose
    · exact kept.confirmed (.inl (same (by decide) confirming)) purpose
    · exact absurd done Bool.false_ne_true

/-- A read submitted with no write in hand. -/
theorem Kept.reads (kept : core.Kept log owed)
    (quiet : ¬(core.activity = .loading ∨ core.activity = .waiting ∨ core.activity = .releasing)) :
    (core.asks .read .reading).Kept log owed where
  recorded none := (kept.recorded none).same rfl rfl
  aligned := kept.aligned
  buffer writing := by cases writing
  owes writing := by cases writing
  replaced request := by rcases request with request | request <;> cases request
  held := kept.held
  loading loading := absurd (.inl loading) quiet
  waiting writing := absurd (.inr writing) quiet
  releasing releasing := absurd (.inr (.inr releasing)) quiet
  confirming := kept.confirming
  confirmed := kept.confirmed

/-- Nothing in hand any more. -/
theorem Kept.stops (kept : core.Kept log owed) (idle : after.activity = .idle)
    (anchor : after.anchor = core.anchor) (written : after.written = core.written)
    (status : after.status = core.status) (transfers : after.transfers = core.transfers)
    (buffer : after.writeBuffer = core.writeBuffer)
    (confirmed : after.done = true → after.purpose = .confirm → log.Released after.expectLabel) :
    after.Kept log owed where
  recorded none := (kept.recorded none).same anchor written
  aligned := by
    rw [written]
    exact kept.aligned
  buffer := by
    rw [status, anchor, written, buffer]
    exact kept.buffer
  owes := by
    rw [status, transfers]
    exact kept.owes
  replaced := by
    rw [status, anchor]
    exact kept.replaced
  held writing := by
    rw [idle] at writing
    rcases writing with writing | writing | writing <;> cases writing
  loading loading := by cases idle.symm.trans loading
  waiting writing := by
    rw [idle] at writing
    rcases writing with writing | writing <;> cases writing
  releasing releasing := by cases idle.symm.trans releasing
  confirming confirming := by cases idle.symm.trans confirming
  confirmed either := by
    rcases either with confirming | done
    · cases idle.symm.trans confirming
    · exact confirmed done

theorem Kept.samples (kept : core.Kept log owed) (samples : core.Samples after) :
    after.Kept log owed := by
  have sampled (seen utc stamp : BitVec 32) (valid : Bool) :
      Kept log owed
        { core with
          readsSeen := seen, sampleValid := valid, sampleUtc := utc, sampleStamp := stamp } :=
    ⟨fun none => (kept.recorded none).same rfl rfl, kept.aligned, kept.buffer, kept.owes, kept.replaced, kept.held, kept.loading, kept.waiting,
      kept.releasing, kept.confirming, kept.confirmed⟩
  cases samples with
  | none => exact kept
  | drops => exact sampled core.status.reads core.sampleUtc core.sampleStamp false
  | keeps => exact sampled _ _ _ _

/-- A search of any but a confirming kind, which has nothing to confirm. -/
theorem Kept.ended (kept : core.Kept log owed)
    (searching : core.activity = .searching ∨ core.activity = .confirming)
    (other : core.activity = .searching → core.purpose ≠ .confirm) (purpose : core.purpose = .confirm) :
    log.Released core.expectLabel := by
  rcases searching with searching | confirming
  · exact absurd purpose (other searching)
  · exact kept.confirmed (.inl confirming) purpose

/-- The load acknowledged. -/
theorem Kept.loaded (kept : core.Kept log owed) (loading : core.activity = .loading)
    (free : core.status.request.waitsFor = none) (worked : core.status.writes ≠ core.writesSeen) :
    Kept log owed { core with activity := .waiting } where
  recorded none := (kept.recorded none).same rfl rfl
  aligned := kept.aligned
  buffer := kept.buffer
  owes := kept.owes
  replaced := kept.replaced
  held _ := kept.held (.inl loading)
  loading loading := by cases loading
  waiting _ := by
    rcases kept.loading loading with ⟨request, _⟩ | ⟨_, loaded⟩
    · rw [request] at free
      cases free
    · exact loaded worked
  releasing releasing := by cases releasing
  confirming confirming := by cases confirming
  confirmed either purpose := by
    rcases either with confirming | done
    · cases confirming
    · exact kept.confirmed (.inr done) purpose

/-- Its release submitted. -/
theorem Kept.releases (kept : core.Kept log owed) (waiting : core.activity = .waiting) :
    Kept log owed
      { core.asks .release .releasing with
        releasesSeen := core.status.releases
        activity := .releasing } where
  recorded none := (kept.recorded none).same rfl rfl
  aligned := kept.aligned
  buffer writing := by cases writing
  owes writing := by cases writing
  replaced _ := kept.held (.inr (.inl waiting))
  held _ := kept.held (.inr (.inl waiting))
  loading loading := by cases loading
  waiting _ := kept.waiting (.inl waiting)
  releasing _ := by
    refine .inl ⟨rfl, rfl, fun worked => ?_⟩
    rw [asks] at worked
    dsimp only at worked
    rw [Function.update_self] at worked
    cases worked
  confirming confirming := by cases confirming
  confirmed either purpose := by
    rcases either with confirming | done
    · cases confirming
    · exact kept.confirmed (.inr done) purpose

/-- The release acknowledged, and the second searched for that it was to start. -/
theorem Kept.confirms (kept : core.Kept log owed) (releasing : core.activity = .releasing)
    (free : core.status.request.waitsFor = none)
    (worked : core.status.releases ≠ core.releasesSeen) :
    (core.searches .confirm).Kept log owed where
  recorded none := (kept.recorded none).same rfl rfl
  aligned := kept.aligned
  buffer writing := by cases writing
  owes writing := by cases writing
  replaced request := by rcases request with request | request <;> cases request
  held writing := by rcases writing with writing | writing | writing <;> cases writing
  loading loading := by cases loading
  waiting writing := by rcases writing with writing | writing <;> cases writing
  releasing releasing := by cases releasing
  confirming _ := rfl
  confirmed _ _ := by
    rcases kept.releasing releasing with ⟨request, _⟩ | ⟨_, released⟩
    · rw [request] at free
      cases free
    · exact released worked

theorem Kept.polls (kept : core.Kept log owed)
    (other : core.activity = .searching → core.purpose ≠ .confirm) (polls : core.Polls after) :
    after.Kept log (owed || core.accepts after) := by
  refine Kept.later ?_ _
  cases polls with
  | rests => exact kept
  | searches idle =>
      refine kept.rested (.inr rfl) rfl rfl (.inl rfl) ?_ ?_
      · exact fun writing => by cases writing
      · exact fun request => by rcases request with request | request <;> cases request
  | finds searching =>
      exact kept.stops rfl rfl rfl rfl rfl rfl fun _ => kept.ended searching other
  | @looks searching sampled _ samples onward =>
      have sampling := kept.samples samples
      have same : sampled.activity = core.activity ∧ sampled.purpose = core.purpose ∧
          sampled.expectLabel = core.expectLabel := by
        cases samples <;> exact ⟨rfl, rfl, rfl⟩
      cases onward with
      | rests => exact sampling
      | fails =>
          refine sampling.stops rfl rfl rfl rfl rfl rfl fun _ purpose => ?_
          rw [ends, same.2.2]
          exact kept.ended searching other (same.2.1.symm.trans purpose)
      | reads =>
          refine sampling.reads ?_
          rw [same.1]
          rcases searching with searching | searching <;> rw [searching] <;> decide
  | loaded loading free worked => exact kept.loaded loading free worked
  | releases waiting => exact kept.releases waiting
  | confirms releasing free worked => exact kept.confirms releasing free worked
  | aborts => exact kept.stops rfl rfl rfl rfl rfl rfl fun done => kept.confirmed (.inr done)

/-- A request no longer in progress, or a read. -/
theorem Kept.served (kept : core.Kept log owed) {status : Pcf8563Status}
    {transfers : Pcf8563Transfer → I2cTransfer}
    (other : status.request = .done ∨ status.request = .failed ∨ status.request = .reading)
    (loading : core.activity = .loading → status.request.waitsFor = none ∧
      (status.writes ≠ core.writesSeen → log.Loaded core.expectLabel))
    (releasing : core.activity = .releasing → status.request.waitsFor = none ∧
      (status.releases ≠ core.releasesSeen → log.Released core.expectLabel)) :
    Kept log owed { core with status := status, transfers := transfers } where
  recorded none := (kept.recorded none).same rfl rfl
  aligned := kept.aligned
  buffer writing := by
    dsimp only at writing
    rcases other with other | other | other <;> cases other.symm.trans writing
  owes writing := by
    dsimp only at writing
    rcases other with other | other | other <;> cases other.symm.trans writing
  replaced request := by
    dsimp only at request
    rcases other with other | other | other <;> rw [other] at request <;>
      rcases request with request | request <;> cases request
  held := kept.held
  loading active := .inr (loading active)
  waiting := kept.waiting
  releasing active := .inr (releasing active)
  confirming := kept.confirming
  confirmed := kept.confirmed

/-- A load or a release in hand, where what is in progress waits for a transfer. -/
theorem Kept.progress (kept : core.Kept log owed) {transfer : Pcf8563Transfer}
    (waits : core.status.request.waitsFor = some transfer) :
    (core.activity = .loading → core.status.request = .writingStopped ∧
      core.status.writes = core.writesSeen ∧
      ((core.transfers .write).result = .ok → log.Loaded core.expectLabel)) ∧
    (core.activity = .releasing → core.status.request = .releasing ∧
      core.status.releases = core.releasesSeen ∧
      ((core.transfers .release).result = .ok → log.Released core.expectLabel)) := by
  constructor
  · intro active
    rcases kept.loading active with ⟨request, _, same, loaded⟩ | ⟨none, _⟩
    · exact ⟨request, same, loaded⟩
    · cases waits.symm.trans none
  · intro active
    rcases kept.releasing active with ⟨request, same, released⟩ | ⟨none, _⟩
    · exact ⟨request, same, released⟩
    · cases waits.symm.trans none

theorem Kept.finishes (kept : core.Kept log owed) (finished : core.Finishes after) :
    after.Kept log owed := by
  cases finished with
  | rests => exact kept
  | failed waits =>
      obtain ⟨loading, releasing⟩ := kept.progress waits
      refine kept.served (.inr (.inl rfl)) ?_ ?_
      · exact fun active => ⟨rfl, fun worked => absurd (loading active).2.1 worked⟩
      · exact fun active => ⟨rfl, fun worked => absurd (releasing active).2.1 worked⟩
  | loaded request ok =>
      obtain ⟨loading, releasing⟩ :=
        kept.progress ((congrArg Pcf8563Request.waitsFor request).trans rfl)
      refine kept.served (.inl rfl) ?_ ?_
      · exact fun active => ⟨rfl, fun _ => (loading active).2.2 ok⟩
      · intro active
        cases request.symm.trans (releasing active).1
  | released request ok =>
      obtain ⟨loading, releasing⟩ :=
        kept.progress ((congrArg Pcf8563Request.waitsFor request).trans rfl)
      refine kept.served (.inl rfl) ?_ ?_
      · intro active
        cases request.symm.trans (loading active).1
      · exact fun active => ⟨rfl, fun _ => (releasing active).2.2 ok⟩
  | written request =>
      obtain ⟨loading, releasing⟩ :=
        kept.progress ((congrArg Pcf8563Request.waitsFor request).trans rfl)
      refine kept.served (.inr (.inr rfl)) ?_ ?_
      · intro active
        cases request.symm.trans (loading active).1
      · intro active
        cases request.symm.trans (releasing active).1
  | read request =>
      obtain ⟨loading, releasing⟩ :=
        kept.progress ((congrArg Pcf8563Request.waitsFor request).trans rfl)
      refine kept.served (.inl (Pcf8563.decode_request _)) ?_ ?_
      · intro active
        cases request.symm.trans (loading active).1
      · intro active
        cases request.symm.trans (releasing active).1

theorem Kept.serves (kept : core.Kept log owed) (served : core.Serves after) :
    after.Kept log (owed || core.accepts after) := by
  refine Kept.later ?_ _
  cases served with
  | finishes finished => exact kept.finishes finished
  | reads finished idle =>
      refine (kept.finishes finished).reads ?_
      have same : ∀ {after : RtcCore}, core.Finishes after → after.activity = core.activity := by
        intro after finished
        cases finished <;> rfl
      rw [same finished, idle]
      decide

/-! ## The bus -/

theorem Recorded.grows (recorded : core.Recorded log) (unplain : ¬core.anchor.Plain)
    (entries : ChipLog) : core.Recorded (entries ++ log) where
  anchor plain := absurd plain unplain
  plain valid unaligned := List.mem_append_right _ (recorded.plain valid unaligned)
  aligned valid aligned := (recorded.aligned valid aligned).trans (List.sublist_append_right _ _)

/-- What has reached the chip grows, with a transfer of the request in progress. -/
theorem Kept.grows (kept : core.Kept log owed) (entries : ChipLog) {still : Bool}
    {transfers : Pcf8563Transfer → I2cTransfer}
    (recorded : still = false → core.Recorded (entries ++ log))
    (owes : core.status.request = .writing → (transfers .write).done = false → still = true)
    (loading : core.activity = .loading → core.status.request = .writingStopped →
      (transfers .write).result = .ok → ChipLog.Loaded (entries ++ log) core.expectLabel)
    (releasing : core.activity = .releasing → core.status.request = .releasing →
      (transfers .release).result = .ok → ChipLog.Released (entries ++ log) core.expectLabel) :
    Kept (entries ++ log) still { core with transfers := transfers } where
  recorded none := (recorded none).same rfl rfl
  aligned valid aligned :=
    (kept.aligned valid aligned).trans (List.sublist_append_right _ _)
  buffer := kept.buffer
  owes := owes
  replaced := kept.replaced
  held := kept.held
  loading active := by
    rcases kept.loading active with ⟨request, buffer, same, _⟩ | ⟨none, worked⟩
    · exact .inl ⟨request, buffer, same, loading active request⟩
    · exact .inr ⟨none, fun more => List.mem_append_right _ (worked more)⟩
  waiting active := List.mem_append_right _ (kept.waiting active)
  releasing active := by
    rcases kept.releasing active with ⟨request, same, _⟩ | ⟨none, worked⟩
    · exact .inl ⟨request, same, releasing active request⟩
    · exact .inr ⟨none, fun more => (worked more).trans (List.sublist_append_right _ _)⟩
  confirming := kept.confirming
  confirmed either purpose :=
    (kept.confirmed either purpose).trans (List.sublist_append_right _ _)

end RtcCore

namespace Logged

open RtcCore

variable {logged : Logged}

theorem step_bus_transfer (world : World) (transfer : Pcf8563Transfer) (result : I2cResult)
    (taken : Bool) (startStamp : BitVec 32) (registers : Registers) :
    (world.step (.bus transfer result taken startStamp registers)).source.rtc.transfers transfer =
      { result := result, startStamp := startStamp } :=
  Function.update_self ..

/-- A transfer to the chip on the bus. -/
theorem bus_write_kept (sound : logged.world.source.Sound logged.world.stopped)
    (kept : logged.world.source.core.Kept logged.log logged.owed) {result : I2cResult}
    {taken : Bool} {startStamp : BitVec 32} {registers : Registers}
    (waiting : (logged.world.source.rtc.transfers .write).done = false)
    (ok : result = .ok → taken = true) :
    let act := RtcAct.bus .write result taken startStamp registers
    (logged.world.step act).source.core.Kept (logged.world.gives act ++ logged.log)
      (logged.owed && !logged.world.acknowledges act) := by
  have waits := sound.driver.settled .write waiting
  have writes : logged.world.source.rtc.status.request = .writing ∨
      logged.world.source.rtc.status.request = .writingStopped := by
    revert waits
    cases logged.world.source.rtc.status.request <;> simp [Pcf8563Request.waitsFor]
  have given : result = .ok →
      logged.world.gives (.bus .write result taken startStamp registers) =
        [(.time logged.world.source.rtc.writeBuffer, true)] := by
    intro well
    rw [well, ok well]
    rfl
  dsimp only
  refine kept.grows _ ?_ ?_ ?_ ?_
  · intro none
    rcases writes with request | request
    · have owed := kept.owes request waiting
      rw [owed, Bool.true_and, Bool.not_eq_false'] at none
      have well : result = .ok := by
        cases result with
        | ok => rfl
        | _ => cases none
      obtain ⟨anchors, sets⟩ := kept.buffer request
      rw [given well]
      refine ⟨fun plain => ?_, fun valid plain => ?_, fun valid aligned => ?_⟩
      · rw [← anchors plain]
        rfl
      · rw [← sets valid plain]
        exact List.mem_cons_self
      · exact (kept.aligned valid aligned).cons _
    · have unacknowledged :
          logged.world.acknowledges (.bus .write result taken startStamp registers) = false := by
        cases result with
        | ok =>
            rw [World.acknowledges, request]
            rfl
        | _ => rfl
      rw [unacknowledged, Bool.not_false, Bool.and_true] at none
      exact (kept.recorded none).grows (kept.replaced (.inl request)) _
  · intro request undone
    rw [kept.owes request waiting, Bool.true_and]
    rw [step_bus_transfer] at undone
    cases result with
    | ok => cases undone
    | _ => rfl
  · intro active request worked
    rw [step_bus_transfer] at worked
    dsimp only at worked
    rcases kept.loading active with ⟨_, buffer, _⟩ | ⟨none, _⟩
    · rw [given worked, ChipLog.Loaded, ← buffer]
      exact List.mem_cons_self
    · cases waits.symm.trans none
  · intro _ releasing
    rcases writes with request | request <;> cases request.symm.trans releasing

theorem bus_release_kept (sound : logged.world.source.Sound logged.world.stopped)
    (kept : logged.world.source.core.Kept logged.log logged.owed) {result : I2cResult}
    {taken : Bool} {startStamp : BitVec 32} {registers : Registers}
    (waiting : (logged.world.source.rtc.transfers .release).done = false)
    (ok : result = .ok → taken = true) :
    let act := RtcAct.bus .release result taken startStamp registers
    (logged.world.step act).source.core.Kept (logged.world.gives act ++ logged.log)
      (logged.owed && !logged.world.acknowledges act) := by
  have waits := sound.driver.settled .release waiting
  have releases : logged.world.source.rtc.status.request = .releasing := by
    revert waits
    cases logged.world.source.rtc.status.request <;> simp [Pcf8563Request.waitsFor]
  dsimp only
  refine kept.grows _ ?_ ?_ ?_ ?_
  · intro none
    have none : logged.owed = false := (Bool.and_true _).symm.trans none
    exact (kept.recorded none).grows (kept.replaced (.inr releases)) _
  · intro request
    cases request.symm.trans releases
  · intro _ request
    cases request.symm.trans releases
  · intro active _ worked
    rw [step_bus_transfer] at worked
    dsimp only at worked
    rw [worked, ok worked]
    exact (List.singleton_sublist.mpr (kept.waiting (.inr active))).cons_cons _

theorem bus_kept (sound : logged.world.source.Sound logged.world.stopped)
    (kept : logged.world.source.core.Kept logged.log logged.owed) {transfer : Pcf8563Transfer}
    {result : I2cResult} {taken : Bool} {startStamp : BitVec 32} {registers : Registers}
    (admitted : logged.Admits (.bus transfer result taken startStamp registers)) :
    let act := RtcAct.bus transfer result taken startStamp registers
    (logged.world.step act).source.core.Kept (logged.world.gives act ++ logged.log)
      (logged.owed && !logged.world.acknowledges act) := by
  obtain ⟨waiting, _, _, ok⟩ := admitted
  cases transfer with
  | write => exact bus_write_kept sound kept waiting fun well => (ok well).1
  | release => exact bus_release_kept sound kept waiting fun well => (ok well).1
  | read =>
      have waits := sound.driver.settled .read waiting
      have reads : logged.world.source.rtc.status.request = .reading := by
        revert waits
        cases logged.world.source.rtc.status.request <;> simp [Pcf8563Request.waitsFor]
      obtain ⟨loading, releasing⟩ := kept.progress waits
      dsimp only
      rw [show (logged.owed && !logged.world.acknowledges
        (.bus .read result taken startStamp registers)) = logged.owed from Bool.and_true _]
      refine kept.served (.inr (.inr reads)) ?_ ?_
      · intro active
        cases reads.symm.trans (loading active).1
      · intro active
        cases reads.symm.trans (releasing active).1

theorem step_kept (sound : logged.world.source.Sound logged.world.stopped)
    (kept : logged.world.source.core.Kept logged.log logged.owed) {act : RtcAct}
    (admitted : logged.Admits act) :
    (logged.step act).world.source.core.Kept (logged.step act).log (logged.step act).owed := by
  have quiet {after : SourceRtc} (kept : after.core.Kept logged.log
        (logged.owed || logged.world.source.core.accepts after.core)) :
      after.core.Kept ([] ++ logged.log)
        (logged.owed && !false || logged.world.source.rtc.status.request != .writing &&
          after.rtc.status.request == .writing) := by
    rw [Bool.not_false, Bool.and_true]
    exact kept
  cases act with
  | oscillator offsetQ16 => exact quiet (kept.later _)
  | report snapshot =>
      obtain ⟨second, reported⟩ := logged.world.source.report_second snapshot
      refine quiet ?_
      dsimp only [World.step]
      rw [reported]
      refine Kept.later ?_ _
      exact ⟨fun none => (kept.recorded none).same rfl rfl, kept.aligned, kept.buffer, kept.owes,
        kept.replaced, kept.held, kept.loading, kept.waiting, kept.releasing, kept.confirming,
        kept.confirmed⟩
  | epoch snapshot time synchronised boundNs =>
      refine quiet ?_
      have settled := kept.settles snapshot time (synchronised && time.known && !time.leapSecond)
        boundNs
      obtain ⟨_, _, _, _, _, _, _, _, core⟩ := logged.world.source.settle_core snapshot time
        (synchronised && time.known && !time.leapSecond) boundNs
      have undone := congrArg RtcCore.done core
      have request : (logged.world.source.settle snapshot time
          (synchronised && time.known && !time.leapSecond) boundNs).core.status =
            logged.world.source.core.status := (congrArg RtcCore.status core).trans rfl
      dsimp only [World.step]
      rcases SourceRtc.epoch_core sound admitted.1 time synchronised boundNs with
        rests | ⟨idle, free, acts⟩
      · rw [rests]
        exact settled.later _
      · have acted := settled.acts idle undone (Pcf8563.waitsFor_of_free free) acts
        rw [accepts, request] at acted
        exact acted
  | poll timebase =>
      exact quiet (kept.polls (fun searching => (sound.search searching).1)
        (SourceRtc.poll_core sound timebase))
  | set utcSeconds =>
      refine quiet ?_
      dsimp only [World.step]
      rcases SourceRtc.set_core sound utcSeconds with refused | ⟨_, idle, free, wrote⟩
      · rw [refused]
        exact kept.later _
      · have accepted : logged.world.source.core.accepts
            (logged.world.source.core.wrote utcSeconds) = true :=
          Bool.and_eq_true_iff.mpr
            ⟨bne_iff_ne.mpr (free_ne (Pcf8563.waitsFor_of_free free)).1, rfl⟩
        rw [wrote, accepted, Bool.or_true]
        exact kept.set idle utcSeconds
  | service nowMs => exact quiet (kept.serves (SourceRtc.service_core sound nowMs))
  | bus => exact (bus_kept sound kept admitted).later _

theorem start_kept {logged : Logged} (start : loggedMachine.start logged) :
    logged.world.source.core.Kept logged.log logged.owed := by
  obtain ⟨⟨nowMs, kept, _, source⟩, unowed, recorded⟩ := start
  rw [unowed]
  rw [source] at recorded ⊢
  exact
    { recorded := fun _ => recorded
      aligned := recorded.aligned
      buffer := fun writing => by cases writing
      owes := fun writing => by cases writing
      replaced := fun request => by rcases request with request | request <;> cases request
      held := fun writing => by rcases writing with writing | writing | writing <;> cases writing
      loading := fun loading => by cases loading
      waiting := fun writing => by rcases writing with writing | writing <;> cases writing
      releasing := fun releasing => by cases releasing
      confirming := fun confirming => by cases confirming
      confirmed := fun either => by rcases either with either | either <;> cases either }

/-- What every reachable state keeps. -/
theorem reached_kept {logged : Logged} (reached : loggedMachine.Reachable Admits logged) :
    logged.world.source.Sound logged.world.stopped ∧
      logged.world.source.core.Kept logged.log logged.owed := by
  have invariant : loggedMachine.Invariant Admits fun logged =>
      logged.world.source.Sound logged.world.stopped ∧
        logged.world.source.core.Kept logged.log logged.owed := by
    refine ⟨fun logged start => ⟨World.sound (.start start.1), start_kept start⟩, ?_⟩
    intro logged act valid admitted
    exact ⟨World.step_sound valid.1 admitted, step_kept valid.1 valid.2 admitted⟩
  exact invariant.reachable reached

/-- **The anchor and the last setting are what the chip acknowledged**, in every reachable
state but one in which the latest plain write accepted is still to be acknowledged, or never
was. Just after a setting is accepted they are if and only if that second was the last thing
the chip had acknowledged already. -/
theorem recorded_unless_owed {logged : Logged} (reached : loggedMachine.Reachable Admits logged) :
    (logged.owed = false → logged.world.source.core.Recorded logged.log) ∧
      ∀ utcSeconds, (logged.world.source.set utcSeconds).1 = true →
        ((logged.step (.set utcSeconds)).world.source.core.Recorded logged.log ↔
          logged.log.head? = some (.time (encode utcSeconds 0), true)) := by
  obtain ⟨sound, kept⟩ := reached_kept reached
  refine ⟨kept.recorded, fun utcSeconds accepted => ?_⟩
  rcases SourceRtc.set_core sound utcSeconds with refused | ⟨_, _, _, wrote⟩
  · rw [refused] at accepted
    exact absurd accepted Bool.false_ne_true
  · dsimp only [step, World.step]
    rw [wrote]
    constructor
    · exact fun recorded => recorded.anchor ⟨rfl, rfl⟩
    · intro head
      refine ⟨fun _ => head, fun _ _ => ?_, fun _ aligned => absurd aligned Bool.false_ne_true⟩
      exact List.mem_of_head? head

/-- A setting once the chip has been read, and what the bus made of its write. -/
def setOnce (result : I2cResult) : List RtcAct :=
  [.bus .read .ok true 0 (encode 1760000000 0), .service 1, .set 1760000100,
    .bus .write result (result == .ok) 0 {}, .service 2]

/-- Start-up, nothing kept and nothing written. -/
def fresh : Logged where
  world := { source := (SourceRtc.init (Pcf8563.init 0)).restore {} }
  log := []
  owed := false

theorem fresh_start : loggedMachine.start fresh := by
  refine ⟨⟨0, {}, ⟨abs_zero.le.trans (by decide), (by decide : 0 < 4294967296)⟩, rfl⟩, rfl, ?_⟩
  exact
    { anchor := fun plain => by cases plain.1
      plain := fun valid => by cases valid
      aligned := fun valid => by cases valid }

/-- A setting the chip did not acknowledge is recorded all the same. -/
theorem failed_write_recorded :
    ¬∀ logged, loggedMachine.Reachable Admits logged →
      logged.world.source.core.Recorded logged.log := by
  intro recorded
  have reached : loggedMachine.Reachable Admits ((setOnce .nackData).foldl step fresh) :=
    (Machine.Reachable.start fresh_start).run (.of_admitted (by decide +kernel))
  have anchored := (recorded _ reached).anchor ⟨by decide +kernel, by decide +kernel⟩
  exact absurd anchored (by decide +kernel)

/-- A setting the chip acknowledged. -/
theorem recorded_unless_owed_acknowledged :
    ((setOnce .ok).foldl step fresh).world.source.core.Recorded
      ((setOnce .ok).foldl step fresh).log := by
  have reached : loggedMachine.Reachable Admits ((setOnce .ok).foldl step fresh) :=
    (Machine.Reachable.start fresh_start).run (.of_admitted (by decide +kernel))
  exact (recorded_unless_owed reached).1 (by decide +kernel)

end Logged

end GpsClock.Rtc
