import GpsClock.Gnss.Epoch
import GpsClock.Lib.Machine

/-! # Assembling navigation epochs

`gnss_epoch.c`: messages are grouped by time of week, an epoch is published once its
NAV-STATUS and NAV-TIMEUTC are in, and a pulse is labelled by the first epoch completed soon
after it. In every order of messages nothing of two epochs is mixed, no pulse is labelled
twice running, and every part accepted is published, being built, abandoned, or replaced by
a later one of its kind (`GpsClock.Gnss.Assembly.assembled`).
-/

namespace GpsClock.Gnss

/-- A NAV-STATUS and its time of week. -/
structure StatusMessage extends UbxNavStatus where
  timeOfWeekMs : BitVec 32
  deriving DecidableEq, Repr

/-- A NAV-TIMEUTC and its time of week. -/
structure TimeutcMessage extends UbxNavTimeutc where
  timeOfWeekMs : BitVec 32
  deriving DecidableEq, Repr

structure UbxNavClock where
  timeOfWeekMs : BitVec 32
  clockBiasNs : BitVec 32 := 0
  clockDriftNsPerS : BitVec 32 := 0
  timeAccuracyNs : BitVec 32 := 0
  frequencyAccuracyPsPerS : BitVec 32 := 0
  deriving DecidableEq, Repr

structure UbxNavPosllh where
  timeOfWeekMs : BitVec 32
  longitudeE7 : BitVec 32 := 0
  latitudeE7 : BitVec 32 := 0
  heightEllipsoidMm : BitVec 32 := 0
  heightMslMm : BitVec 32 := 0
  horizontalAccuracyMm : BitVec 32 := 0
  verticalAccuracyMm : BitVec 32 := 0
  deriving DecidableEq, Repr

structure GnssPpsReference where
  sequence : BitVec 32
  observedMs : BitVec 32
  valid : Bool
  deriving DecidableEq, Repr

/-- `GNSS_PPS_ASSOCIATION_WINDOW_MS`. -/
def gnssPpsAssociationWindowMs : Nat := 950

/-- A NAV-STATUS as `memset` leaves it. -/
def StatusMessage.zero : StatusMessage where
  fixType := 0
  flags := 0
  timeOfWeekMs := 0

/-- A NAV-TIMEUTC as `memset` leaves it. -/
def TimeutcMessage.zero : TimeutcMessage where
  fractionalSecondNs := 0
  year := 0
  month := 0
  day := 0
  hour := 0
  minute := 0
  second := 0
  validityFlags := 0
  timeOfWeekMs := 0

/-- A `GnssEpoch` with its time of week, its pulse and its optional parts. -/
structure AssembledEpoch where
  timeOfWeekMs : BitVec 32 := 0
  completedMs : BitVec 32 := 0
  timeValid : Bool := false
  fixOk : Bool := false
  utcSeconds : BitVec 32 := 0
  leapSecond : Bool := false
  offsetFromSecondNs : Int := 0
  ppsAssociated : Bool := false
  ppsSequence : BitVec 32 := 0
  status : StatusMessage := .zero
  timeUtc : TimeutcMessage := .zero
  hasClock : Bool := false
  clock : UbxNavClock := ⟨0, 0, 0, 0, 0⟩
  hasPosition : Bool := false
  position : UbxNavPosllh := ⟨0, 0, 0, 0, 0, 0, 0⟩
  ended : Bool := false
  deriving DecidableEq, Repr

structure GnssEpochStats where
  published : BitVec 32 := 0
  abandoned : BitVec 32 := 0
  unassociated : BitVec 32 := 0
  invalidTime : BitVec 32 := 0
  deriving DecidableEq, Repr

/-- `GnssEpochAssembler`; as it stands, what `gnss_epoch_init` leaves. -/
structure GnssEpochAssembler where
  building : AssembledEpoch := {}
  buildingParts : BitVec 8 := 0
  buildingActive : Bool := false
  published : AssembledEpoch := {}
  hasPublished : Bool := false
  lastLabelledPpsSequence : BitVec 32 := 0
  hasLabelledPps : Bool := false
  stats : GnssEpochStats := {}
  deriving DecidableEq, Repr

/-- A required part of an epoch. -/
inductive Part
  | status (message : StatusMessage)
  | timeUtc (message : TimeutcMessage)
  deriving DecidableEq, Repr

namespace Part

/-- `EPOCH_PART_STATUS`, `EPOCH_PART_TIMEUTC`. -/
def bit : Part → BitVec 8
  | status _ => 0x01
  | timeUtc _ => 0x02

def timeOfWeekMs : Part → BitVec 32
  | status message => message.timeOfWeekMs
  | timeUtc message => message.timeOfWeekMs

end Part

/-- `EPOCH_PARTS_REQUIRED`. -/
def epochPartsRequired : BitVec 8 := 0x01 ||| 0x02

namespace AssembledEpoch

/-- `derive_time`, on the fields it derives. -/
def derive (epoch : AssembledEpoch) : AssembledEpoch :=
  let derived := deriveTime
    { status := epoch.status.toUbxNavStatus, timeUtc := epoch.timeUtc.toUbxNavTimeutc }
  { epoch with
    timeValid := derived.timeValid
    fixOk := derived.fixOk
    utcSeconds := derived.utcSeconds
    leapSecond := derived.leapSecond
    offsetFromSecondNs := derived.offsetFromSecondNs }

/-- The epoch with a part put in. -/
def put (epoch : AssembledEpoch) : Part → AssembledEpoch
  | .status message => { epoch with status := message }
  | .timeUtc message => { epoch with timeUtc := message }

/-- The part of a kind that the epoch has. -/
def part (epoch : AssembledEpoch) : Part → Part
  | .status _ => .status epoch.status
  | .timeUtc _ => .timeUtc epoch.timeUtc

end AssembledEpoch

namespace GnssEpochAssembler

/-- `associate_pps`: whether the epoch labels the pulse. -/
def associates (assembler : GnssEpochAssembler) (nowMs : BitVec 32) (pps : GnssPpsReference) :
    Bool :=
  let alreadyLabelled := assembler.hasLabelledPps && assembler.lastLabelledPpsSequence == pps.sequence
  let recent := decide ((nowMs - pps.observedMs).toNat < gnssPpsAssociationWindowMs)
  pps.valid && recent && !alreadyLabelled

/-- `publish`. -/
def publish (assembler : GnssEpochAssembler) (nowMs : BitVec 32) (pps : GnssPpsReference) :
    GnssEpochAssembler :=
  let associated := assembler.associates nowMs pps
  let epoch :=
    { assembler.building.derive with
      completedMs := nowMs
      ppsAssociated := associated
      ppsSequence := pps.sequence }
  { assembler with
    building := epoch
    buildingParts := 0
    buildingActive := false
    published := epoch
    hasPublished := true
    lastLabelledPpsSequence :=
      if associated then pps.sequence else assembler.lastLabelledPpsSequence
    hasLabelledPps := assembler.hasLabelledPps || associated
    stats :=
      { assembler.stats with
        published := assembler.stats.published + 1
        unassociated := assembler.stats.unassociated + if associated then 0 else 1
        invalidTime := assembler.stats.invalidTime + if epoch.timeValid then 0 else 1 } }

/-- `is_published_epoch`. -/
def isPublishedEpoch (assembler : GnssEpochAssembler) (timeOfWeekMs : BitVec 32) : Bool :=
  assembler.hasPublished && assembler.published.timeOfWeekMs == timeOfWeekMs

/-- The epoch being built is of this time of week. -/
def isBuilding (assembler : GnssEpochAssembler) (timeOfWeekMs : BitVec 32) : Bool :=
  assembler.buildingActive && assembler.building.timeOfWeekMs == timeOfWeekMs

/-- One more epoch abandoned, if it had any part. -/
def abandon (assembler : GnssEpochAssembler) : GnssEpochAssembler :=
  if assembler.buildingActive && assembler.buildingParts != 0 then
    { assembler with
      stats := { assembler.stats with abandoned := assembler.stats.abandoned + 1 } }
  else assembler

/-- `building_epoch`. -/
def buildingEpoch (assembler : GnssEpochAssembler) (timeOfWeekMs : BitVec 32) :
    GnssEpochAssembler :=
  if assembler.isBuilding timeOfWeekMs then assembler
  else
    { assembler.abandon with
      building := { timeOfWeekMs := timeOfWeekMs }
      buildingParts := 0
      buildingActive := true }

/-- `add_required_part`. -/
def addRequiredPart (assembler : GnssEpochAssembler) (part : BitVec 8) (nowMs : BitVec 32)
    (pps : GnssPpsReference) : Bool × GnssEpochAssembler :=
  let added := { assembler with buildingParts := assembler.buildingParts ||| part }
  if added.buildingParts &&& epochPartsRequired = epochPartsRequired then
    (true, added.publish nowMs pps)
  else (false, added)

/-- A required part: `gnss_epoch_add_status` and `gnss_epoch_add_time_utc`. -/
def addPart (assembler : GnssEpochAssembler) (part : Part) (nowMs : BitVec 32)
    (pps : GnssPpsReference) : Bool × GnssEpochAssembler :=
  if assembler.isPublishedEpoch part.timeOfWeekMs then (false, assembler)
  else
    let assembler := assembler.buildingEpoch part.timeOfWeekMs
    { assembler with building := assembler.building.put part }.addRequiredPart part.bit nowMs pps

/-- `gnss_epoch_add_status`. -/
def addStatus (assembler : GnssEpochAssembler) (status : StatusMessage) (nowMs : BitVec 32)
    (pps : GnssPpsReference) : Bool × GnssEpochAssembler :=
  assembler.addPart (.status status) nowMs pps

/-- `gnss_epoch_add_time_utc`. -/
def addTimeUtc (assembler : GnssEpochAssembler) (timeUtc : TimeutcMessage) (nowMs : BitVec 32)
    (pps : GnssPpsReference) : Bool × GnssEpochAssembler :=
  assembler.addPart (.timeUtc timeUtc) nowMs pps

/-- An optional part, to the epoch published or to the one being built. -/
def addOptional (assembler : GnssEpochAssembler) (timeOfWeekMs : BitVec 32)
    (put : AssembledEpoch → AssembledEpoch) : GnssEpochAssembler :=
  if assembler.isPublishedEpoch timeOfWeekMs then
    { assembler with published := put assembler.published }
  else
    let assembler := assembler.buildingEpoch timeOfWeekMs
    { assembler with building := put assembler.building }

/-- `gnss_epoch_add_clock`. -/
def addClock (assembler : GnssEpochAssembler) (clock : UbxNavClock) : GnssEpochAssembler :=
  assembler.addOptional clock.timeOfWeekMs fun epoch =>
    { epoch with clock := clock, hasClock := true }

/-- `gnss_epoch_add_position`. -/
def addPosition (assembler : GnssEpochAssembler) (position : UbxNavPosllh) : GnssEpochAssembler :=
  assembler.addOptional position.timeOfWeekMs fun epoch =>
    { epoch with position := position, hasPosition := true }

/-- `gnss_epoch_end`. -/
def endEpoch (assembler : GnssEpochAssembler) (timeOfWeekMs : BitVec 32) : GnssEpochAssembler :=
  if assembler.isPublishedEpoch timeOfWeekMs then
    { assembler with published := { assembler.published with ended := true } }
  else if assembler.isBuilding timeOfWeekMs then
    { assembler.abandon with buildingActive := false, buildingParts := 0 }
  else assembler

/-- The required parts of the epoch being built. -/
def parts (assembler : GnssEpochAssembler) : List Part :=
  (if assembler.buildingParts &&& 0x01 = 0 then [] else [.status assembler.building.status]) ++
    if assembler.buildingParts &&& 0x02 = 0 then [] else [.timeUtc assembler.building.timeUtc]

end GnssEpochAssembler

/-! ## What becomes of the messages -/

/-- An epoch published, when it was completed, and the pulse it could label. -/
structure Completion where
  epoch : AssembledEpoch
  nowMs : BitVec 32
  pps : GnssPpsReference
  deriving DecidableEq, Repr

/-- Its required parts. -/
def Completion.parts (completion : Completion) : List Part :=
  [.status completion.epoch.status, .timeUtc completion.epoch.timeUtc]

/-- An assembler, the epochs it has published, the required parts it has accepted, the parts
of each epoch it has abandoned, and those replaced while their epoch was being built, each
with the part that took its place: the latest first. -/
structure Assembly where
  assembler : GnssEpochAssembler := {}
  history : List Completion := []
  accepted : List Part := []
  abandoned : List (List Part) := []
  replaced : List (Part × Part) := []
  deriving DecidableEq, Repr

/-- A message, with the time and the pulse a required part is given. -/
inductive Message
  | part (part : Part) (nowMs : BitVec 32) (pps : GnssPpsReference)
  | clock (clock : UbxNavClock)
  | position (position : UbxNavPosllh)
  | ended (timeOfWeekMs : BitVec 32)
  deriving DecidableEq, Repr

/-- What the assembler does with it. -/
def GnssEpochAssembler.receive (assembler : GnssEpochAssembler) : Message → GnssEpochAssembler
  | .part part nowMs pps => (assembler.addPart part nowMs pps).2
  | .clock clock => assembler.addClock clock
  | .position position => assembler.addPosition position
  | .ended timeOfWeekMs => assembler.endEpoch timeOfWeekMs

namespace Assembly

/-- The epoch being built is given up. -/
def giveUp (assembly : Assembly) : List (List Part) :=
  if assembly.assembler.buildingActive && assembly.assembler.buildingParts != 0 then
    assembly.assembler.parts :: assembly.abandoned
  else assembly.abandoned

/-- An epoch of this time of week is being built. -/
def start (assembly : Assembly) (timeOfWeekMs : BitVec 32) : Assembly :=
  { assembly with
    assembler := assembly.assembler.buildingEpoch timeOfWeekMs
    abandoned :=
      if assembly.assembler.isBuilding timeOfWeekMs then assembly.abandoned else assembly.giveUp }

/-- A part is put into the epoch being built. -/
def add (assembly : Assembly) (part : Part) (nowMs : BitVec 32) (pps : GnssPpsReference) :
    Assembly :=
  let building := assembly.assembler.building
  let outcome := { assembly.assembler with building := building.put part }.addRequiredPart part.bit
    nowMs pps
  { assembly with
    assembler := outcome.2
    history :=
      if outcome.1 then ⟨outcome.2.published, nowMs, pps⟩ :: assembly.history
      else assembly.history
    accepted := part :: assembly.accepted
    replaced :=
      if assembly.assembler.buildingParts &&& part.bit = 0 then assembly.replaced
      else (building.part part, part) :: assembly.replaced }

/-- The latest epoch published is changed. -/
def amend (assembly : Assembly) (change : AssembledEpoch → AssembledEpoch) : Assembly :=
  { assembly with
    assembler := { assembly.assembler with published := change assembly.assembler.published }
    history := assembly.history.modifyHead fun completion =>
      { completion with epoch := change completion.epoch } }

/-- The epoch being built is changed. -/
def change (assembly : Assembly) (change : AssembledEpoch → AssembledEpoch) : Assembly :=
  { assembly with
    assembler := { assembly.assembler with building := change assembly.assembler.building } }

/-- An optional part comes in. -/
def optional (assembly : Assembly) (timeOfWeekMs : BitVec 32)
    (put : AssembledEpoch → AssembledEpoch) : Assembly :=
  if assembly.assembler.isPublishedEpoch timeOfWeekMs then assembly.amend put
  else (assembly.start timeOfWeekMs).change put

/-- A message comes in. -/
def receive (assembly : Assembly) : Message → Assembly
  | .part part nowMs pps =>
      if assembly.assembler.isPublishedEpoch part.timeOfWeekMs then assembly
      else (assembly.start part.timeOfWeekMs).add part nowMs pps
  | .clock clock =>
      assembly.optional clock.timeOfWeekMs fun epoch =>
        { epoch with clock := clock, hasClock := true }
  | .position position =>
      assembly.optional position.timeOfWeekMs fun epoch =>
        { epoch with position := position, hasPosition := true }
  | .ended timeOfWeekMs =>
      if assembly.assembler.isPublishedEpoch timeOfWeekMs then
        assembly.amend fun epoch => { epoch with ended := true }
      else if assembly.assembler.isBuilding timeOfWeekMs then
        { assembly with
          assembler :=
            { assembly.assembler.abandon with buildingActive := false, buildingParts := 0 }
          abandoned := assembly.giveUp }
      else assembly

/-- The assembler is the code's, whatever is kept beside it. -/
theorem receive_assembler (assembly : Assembly) (message : Message) :
    (assembly.receive message).assembler = assembly.assembler.receive message := by
  cases message with
  | part part nowMs pps =>
      rw [receive, GnssEpochAssembler.receive, GnssEpochAssembler.addPart]
      split
      · rfl
      · rfl
  | clock clock =>
      rw [receive, optional, GnssEpochAssembler.receive, GnssEpochAssembler.addClock,
        GnssEpochAssembler.addOptional]
      split
      · rfl
      · rfl
  | position position =>
      rw [receive, optional, GnssEpochAssembler.receive, GnssEpochAssembler.addPosition,
        GnssEpochAssembler.addOptional]
      split
      · rfl
      · rfl
  | ended timeOfWeekMs =>
      rw [receive, GnssEpochAssembler.receive, GnssEpochAssembler.endEpoch]
      split
      · rfl
      · split
        · rfl
        · rfl

def machine : Machine Assembly Message where
  start := fun assembly => assembly = {}
  step := receive

end Assembly

/-! ## What every run keeps -/

/-- What an epoch holds is of its own time of week. -/
structure AssembledEpoch.OwnOptional (epoch : AssembledEpoch) : Prop where
  clock : epoch.hasClock = true → epoch.clock.timeOfWeekMs = epoch.timeOfWeekMs
  position : epoch.hasPosition = true → epoch.position.timeOfWeekMs = epoch.timeOfWeekMs

/-- A whole epoch: its required parts too. -/
structure AssembledEpoch.Whole (epoch : AssembledEpoch) : Prop extends epoch.OwnOptional where
  status : epoch.status.timeOfWeekMs = epoch.timeOfWeekMs
  timeUtc : epoch.timeUtc.timeOfWeekMs = epoch.timeOfWeekMs

/-- A pulse is labelled only while it is recent. -/
def Completion.Recent (completion : Completion) : Prop :=
  completion.epoch.ppsAssociated = true →
    completion.pps.valid = true ∧ completion.epoch.ppsSequence = completion.pps.sequence ∧
      (completion.nowMs - completion.pps.observedMs).toNat < gnssPpsAssociationWindowMs

namespace Assembly

/-- The pulses labelled, the latest first. -/
def labelled (assembly : Assembly) : List (BitVec 32) :=
  (assembly.history.filter (·.epoch.ppsAssociated)).map (·.epoch.ppsSequence)

/-- Where the required parts accepted are now. -/
def places (assembly : Assembly) : List Part :=
  assembly.history.flatMap Completion.parts ++ assembly.assembler.parts ++
    assembly.abandoned.flatten ++ assembly.replaced.map Prod.fst

/-- The assembler's own flags. -/
structure Flags (assembler : GnssEpochAssembler) : Prop where
  bits : assembler.buildingParts = 0 ∨ assembler.buildingParts = 1 ∨ assembler.buildingParts = 2
  idle : assembler.buildingActive = false → assembler.buildingParts = 0
  status : assembler.buildingParts = 1 →
    assembler.building.status.timeOfWeekMs = assembler.building.timeOfWeekMs
  timeUtc : assembler.buildingParts = 2 →
    assembler.building.timeUtc.timeOfWeekMs = assembler.building.timeOfWeekMs
  optional : assembler.buildingActive = true → assembler.building.OwnOptional
  fresh : assembler.buildingActive = true →
    assembler.isPublishedEpoch assembler.building.timeOfWeekMs = false

/-- The epochs published. -/
structure Told (assembly : Assembly) : Prop where
  latest : (assembly.assembler.hasPublished = false ∧ assembly.history = []) ∨
    (assembly.assembler.hasPublished = true ∧
      assembly.history.head?.map Completion.epoch = some assembly.assembler.published)
  whole : ∀ completion ∈ assembly.history, completion.epoch.Whole
  apart : (assembly.history.map (·.epoch.timeOfWeekMs)).IsChain (· ≠ ·)
  labelled : assembly.labelled.IsChain (· ≠ ·)
  last : assembly.labelled.head? =
    if assembly.assembler.hasLabelledPps then some assembly.assembler.lastLabelledPpsSequence
    else none
  recent : ∀ completion ∈ assembly.history, completion.Recent

/-- The parts accepted. -/
structure Accounted (assembly : Assembly) : Prop where
  placed : ∀ part, assembly.accepted.count part = assembly.places.count part
  abandoned : assembly.assembler.stats.abandoned = BitVec.ofNat 32 assembly.abandoned.length
  some : ∀ parts ∈ assembly.abandoned, parts ≠ []
  replaced : ∀ pair ∈ assembly.replaced,
    pair.1.bit = pair.2.bit ∧ pair.1.timeOfWeekMs = pair.2.timeOfWeekMs

structure Sound (assembly : Assembly) : Prop where
  flags : Flags assembly.assembler
  told : assembly.Told
  accounted : assembly.Accounted

variable {assembly other : Assembly} {timeOfWeekMs : BitVec 32}

/-- What is told of the epochs published rests on them and on the last pulse labelled. -/
theorem Told.keep (told : assembly.Told) (history : other.history = assembly.history)
    (hasPublished : other.assembler.hasPublished = assembly.assembler.hasPublished)
    (published : other.assembler.published = assembly.assembler.published)
    (hasLabelled : other.assembler.hasLabelledPps = assembly.assembler.hasLabelledPps)
    (last : other.assembler.lastLabelledPpsSequence = assembly.assembler.lastLabelledPpsSequence) :
    other.Told := by
  have labels : other.labelled = assembly.labelled := by
    rw [Assembly.labelled, history, Assembly.labelled]
  refine ⟨?_, ?_, ?_, ?_, ?_, ?_⟩
  · rw [hasPublished, published, history]
    exact told.latest
  · rw [history]
    exact told.whole
  · rw [history]
    exact told.apart
  · rw [labels]
    exact told.labelled
  · rw [labels, hasLabelled, last]
    exact told.last
  · rw [history]
    exact told.recent

theorem abandon_eq (assembler : GnssEpochAssembler) :
    assembler.abandon =
      { assembler with
        stats :=
          { assembler.stats with
            abandoned := assembler.stats.abandoned +
              if assembler.buildingActive && assembler.buildingParts != 0 then 1 else 0 } } := by
  rw [GnssEpochAssembler.abandon]
  split
  · rfl
  · rw [add_zero]

theorem parts_of_zero {assembler : GnssEpochAssembler} (none : assembler.buildingParts = 0) :
    assembler.parts = [] := by
  simp [GnssEpochAssembler.parts, none]

/-- The epoch being built has parts exactly where its flags say so. -/
theorem parts_eq_nil_iff {assembler : GnssEpochAssembler} (flags : Flags assembler) :
    assembler.parts = [] ↔ assembler.buildingParts = 0 := by
  rcases flags.bits with none | status | timeUtc
  · simp [GnssEpochAssembler.parts, none]
  · simp [GnssEpochAssembler.parts, status]
  · simp [GnssEpochAssembler.parts, timeUtc]

/-- What is given up is counted, and no part of it is lost. -/
theorem giveUp_spec (sound : assembly.Sound) :
    assembly.giveUp.flatten = assembly.assembler.parts ++ assembly.abandoned.flatten ∧
      assembly.assembler.abandon.stats.abandoned = BitVec.ofNat 32 assembly.giveUp.length ∧
      ∀ parts ∈ assembly.giveUp, parts ≠ [] := by
  have flags := sound.flags
  have accounted := sound.accounted
  rw [abandon_eq, giveUp]
  dsimp only
  by_cases active : (assembly.assembler.buildingActive &&
      assembly.assembler.buildingParts != 0) = true
  · rw [if_pos active, if_pos active]
    have some := bne_iff_ne.mp (Bool.and_eq_true_iff.mp active).2
    refine ⟨rfl, ?_, fun parts member => ?_⟩
    · rw [accounted.abandoned, List.length_cons, BitVec.ofNat_add]
      rfl
    · rcases List.mem_cons.mp member with rfl | before
      · exact fun none => some ((parts_eq_nil_iff flags).mp none)
      · exact accounted.some parts before
  · rw [if_neg active, if_neg active, add_zero]
    have none : assembly.assembler.buildingParts = 0 := by
      cases running : assembly.assembler.buildingActive with
      | false => exact flags.idle running
      | true =>
          rw [running, Bool.true_and, bne_iff_ne, not_not] at active
          exact active
    rw [(parts_eq_nil_iff flags).mpr none]
    exact ⟨rfl, accounted.abandoned, accounted.some⟩

/-- An epoch of a time of week not published is started, or already being built. -/
theorem Sound.start (sound : assembly.Sound)
    (new : assembly.assembler.isPublishedEpoch timeOfWeekMs = false) :
    (assembly.start timeOfWeekMs).Sound ∧
      (assembly.start timeOfWeekMs).assembler.isBuilding timeOfWeekMs = true ∧
      (assembly.start timeOfWeekMs).assembler.isPublishedEpoch timeOfWeekMs = false := by
  rw [Assembly.start, GnssEpochAssembler.buildingEpoch]
  by_cases building : assembly.assembler.isBuilding timeOfWeekMs = true
  · rw [if_pos building, if_pos building]
    exact ⟨sound, building, new⟩
  · rw [if_neg building, if_neg building]
    obtain ⟨flattened, counted, some⟩ := giveUp_spec sound
    have placed := sound.accounted.placed
    rw [abandon_eq] at counted ⊢
    refine ⟨⟨?_, sound.told.keep rfl rfl rfl rfl rfl, ?_⟩, ?_, new⟩
    · refine ⟨.inl rfl, fun wrong => absurd wrong.symm Bool.false_ne_true, fun wrong => ?_,
        fun wrong => ?_, fun _ => ⟨fun wrong => ?_, fun wrong => ?_⟩, fun _ => new⟩
      · cases wrong
      · cases wrong
      · cases wrong
      · cases wrong
    · refine ⟨fun part => ?_, counted, some, sound.accounted.replaced⟩
      have before := placed part
      rw [places] at before ⊢
      dsimp only
      rw [flattened]
      rw [parts_of_zero rfl]
      simp only [List.count_append, List.count_nil] at before ⊢
      omega
    · simp [GnssEpochAssembler.isBuilding]

/-- A change of an epoch that leaves its time of week, its required parts and its pulse, and
brings nothing of another time of week. -/
structure Joins (change : AssembledEpoch → AssembledEpoch) (epoch : AssembledEpoch) : Prop where
  timeOfWeek : (change epoch).timeOfWeekMs = epoch.timeOfWeekMs
  status : (change epoch).status = epoch.status
  timeUtc : (change epoch).timeUtc = epoch.timeUtc
  associated : (change epoch).ppsAssociated = epoch.ppsAssociated
  sequence : (change epoch).ppsSequence = epoch.ppsSequence
  optional : epoch.OwnOptional → (change epoch).OwnOptional

variable {put : AssembledEpoch → AssembledEpoch}

theorem Sound.change (sound : assembly.Sound) (joins : Joins put assembly.assembler.building) :
    (assembly.change put).Sound := by
  have flags := sound.flags
  have parts : (assembly.change put).assembler.parts = assembly.assembler.parts := by
    rw [GnssEpochAssembler.parts, GnssEpochAssembler.parts, Assembly.change]
    dsimp only
    rw [joins.status, joins.timeUtc]
  refine ⟨⟨flags.bits, flags.idle, fun has => ?_, fun has => ?_, fun active => ?_,
    fun active => ?_⟩, sound.told.keep rfl rfl rfl rfl rfl, ?_⟩
  · change (put assembly.assembler.building).status.timeOfWeekMs = (put _).timeOfWeekMs
    rw [joins.status, joins.timeOfWeek]
    exact flags.status has
  · change (put assembly.assembler.building).timeUtc.timeOfWeekMs = (put _).timeOfWeekMs
    rw [joins.timeUtc, joins.timeOfWeek]
    exact flags.timeUtc has
  · exact joins.optional (flags.optional active)
  · change assembly.assembler.isPublishedEpoch (put _).timeOfWeekMs = false
    rw [joins.timeOfWeek]
    exact flags.fresh active
  · refine ⟨fun part => ?_, sound.accounted.abandoned, sound.accounted.some,
      sound.accounted.replaced⟩
    have places : (assembly.change put).places = assembly.places := by
      rw [Assembly.places, parts]
      rfl
    rw [places]
    exact sound.accounted.placed part

/-- An epoch published heads the history. -/
theorem Told.history_eq (told : assembly.Told)
    (published : assembly.assembler.hasPublished = true) :
    ∃ completion earlier, assembly.history = completion :: earlier ∧
      completion.epoch = assembly.assembler.published := by
  rcases told.latest with ⟨none, -⟩ | ⟨-, head⟩
  · rw [published] at none
    cases none
  · cases history : assembly.history with
    | nil =>
        rw [history] at head
        cases head
    | cons completion earlier =>
        rw [history] at head
        exact ⟨completion, earlier, rfl, Option.some.inj head⟩

theorem Sound.amend (sound : assembly.Sound)
    (published : assembly.assembler.hasPublished = true)
    (joins : Joins put assembly.assembler.published) : (assembly.amend put).Sound := by
  have flags := sound.flags
  have told := sound.told
  obtain ⟨completion, earlier, history, same⟩ := told.history_eq published
  rw [← same] at joins
  have after : (assembly.amend put).history =
      { completion with epoch := put completion.epoch } :: earlier := by
    rw [Assembly.amend, history]
    rfl
  have weeks : (assembly.amend put).history.map (·.epoch.timeOfWeekMs) =
      assembly.history.map (·.epoch.timeOfWeekMs) := by
    rw [after, history, List.map_cons, List.map_cons, joins.timeOfWeek]
  have labels : (assembly.amend put).labelled = assembly.labelled := by
    rw [labelled, labelled, after, history, List.filter_cons, List.filter_cons, joins.associated]
    split
    · rw [List.map_cons, List.map_cons, joins.sequence]
    · rfl
  have whole := told.whole completion (by rw [history]; exact .head _)
  have recent := told.recent completion (by rw [history]; exact .head _)
  refine ⟨⟨flags.bits, flags.idle, flags.status, flags.timeUtc, flags.optional, fun active => ?_⟩,
    ⟨.inr ⟨published, ?_⟩, fun other member => ?_, ?_, ?_, ?_, fun other member => ?_⟩,
    ⟨fun part => ?_, sound.accounted.abandoned, sound.accounted.some,
      sound.accounted.replaced⟩⟩
  · have fresh := flags.fresh active
    rw [GnssEpochAssembler.isPublishedEpoch] at fresh ⊢
    change (assembly.assembler.hasPublished && (put assembly.assembler.published).timeOfWeekMs ==
      assembly.assembler.building.timeOfWeekMs) = false
    rw [← same] at fresh ⊢
    rw [joins.timeOfWeek]
    exact fresh
  · rw [after]
    change some (put completion.epoch) = some (put assembly.assembler.published)
    rw [same]
  · rw [after] at member
    rcases List.mem_cons.mp member with rfl | before
    · refine ⟨joins.optional whole.toOwnOptional, ?_, ?_⟩
      · dsimp only
        rw [joins.status, joins.timeOfWeek]
        exact whole.status
      · dsimp only
        rw [joins.timeUtc, joins.timeOfWeek]
        exact whole.timeUtc
    · exact told.whole other (by rw [history]; exact .tail _ before)
  · rw [weeks]
    exact told.apart
  · rw [labels]
    exact told.labelled
  · rw [labels]
    exact told.last
  · rw [after] at member
    rcases List.mem_cons.mp member with rfl | before
    · intro associated
      dsimp only at associated ⊢
      rw [joins.associated] at associated
      rw [joins.sequence]
      exact recent associated
    · exact told.recent other (by rw [history]; exact .tail _ before)
  · have parts : (assembly.amend put).history.flatMap Completion.parts =
        assembly.history.flatMap Completion.parts := by
      rw [after, history, List.flatMap_cons, List.flatMap_cons, Completion.parts, Completion.parts]
      dsimp only
      rw [joins.status, joins.timeUtc]
    have places : (assembly.amend put).places = assembly.places := by
      rw [Assembly.places, parts]
      rfl
    rw [places]
    exact sound.accounted.placed part

variable {part : Part} {nowMs : BitVec 32} {pps : GnssPpsReference}

/-- A part comes to an epoch that is without the other one. -/
theorem add_alone (alone : assembly.assembler.buildingParts = 0 ∨
    assembly.assembler.buildingParts = part.bit) :
    assembly.add part nowMs pps =
      { assembly with
        assembler :=
          { assembly.assembler with
            building := assembly.assembler.building.put part
            buildingParts := part.bit }
        accepted := part :: assembly.accepted
        replaced :=
          if assembly.assembler.buildingParts = 0 then assembly.replaced
          else (assembly.assembler.building.part part, part) :: assembly.replaced } := by
  have bits : assembly.assembler.buildingParts ||| part.bit = part.bit := by
    rcases alone with none | same
    · rw [none]
      exact BitVec.zero_or
    · rw [same, BitVec.or_self]
  have held : assembly.assembler.buildingParts &&& part.bit = 0 ↔
      assembly.assembler.buildingParts = 0 := by
    rcases alone with none | same
    · rw [none]
      exact iff_of_true BitVec.zero_and rfl
    · rw [same, BitVec.and_self]
  have short : ¬part.bit &&& epochPartsRequired = epochPartsRequired := by
    cases part with
    | status message => exact (by decide : ¬(0x01 : BitVec 8) &&& 3 = 3)
    | timeUtc message => exact (by decide : ¬(0x02 : BitVec 8) &&& 3 = 3)
  rw [add, GnssEpochAssembler.addRequiredPart]
  dsimp only
  rw [bits, if_neg short]
  simp only [held]
  rfl

/-- A part comes to an epoch that has the other one. -/
theorem add_other (bits : assembly.assembler.buildingParts ||| part.bit = epochPartsRequired)
    (other : assembly.assembler.buildingParts &&& part.bit = 0) :
    assembly.add part nowMs pps =
      let complete : GnssEpochAssembler :=
        { assembly.assembler with
          building := assembly.assembler.building.put part
          buildingParts := epochPartsRequired }
      { assembly with
        assembler := complete.publish nowMs pps
        history := ⟨(complete.publish nowMs pps).published, nowMs, pps⟩ :: assembly.history
        accepted := part :: assembly.accepted } := by
  rw [add, GnssEpochAssembler.addRequiredPart]
  dsimp only
  rw [bits, BitVec.and_self, if_pos rfl, if_pos rfl, if_pos other]

theorem put_ownOptional {epoch : AssembledEpoch} (own : epoch.OwnOptional) (part : Part) :
    (epoch.put part).OwnOptional := by
  cases part with
  | status message => exact ⟨own.clock, own.position⟩
  | timeUtc message => exact ⟨own.clock, own.position⟩

theorem put_timeOfWeekMs (epoch : AssembledEpoch) (part : Part) :
    (epoch.put part).timeOfWeekMs = epoch.timeOfWeekMs := by
  cases part with
  | status message => rfl
  | timeUtc message => rfl

theorem bit_ne_zero (part : Part) : part.bit ≠ 0 := by
  cases part with
  | status message => exact (by decide : (0x01 : BitVec 8) ≠ 0)
  | timeUtc message => exact (by decide : (0x02 : BitVec 8) ≠ 0)

theorem part_bit (epoch : AssembledEpoch) (part : Part) :
    (epoch.part part).bit = part.bit := by
  cases part with
  | status message => rfl
  | timeUtc message => rfl

theorem put_part (epoch : AssembledEpoch) (part : Part) : (epoch.put part).part part = part := by
  cases part with
  | status message => rfl
  | timeUtc message => rfl

theorem parts_of_bit {assembler : GnssEpochAssembler} (part : Part)
    (same : assembler.buildingParts = part.bit) : assembler.parts =
      [assembler.building.part part] := by
  cases part with
  | status message => simp [GnssEpochAssembler.parts, same, Part.bit, AssembledEpoch.part]
  | timeUtc message => simp [GnssEpochAssembler.parts, same, Part.bit, AssembledEpoch.part]

/-- The part of a kind that is being built is of the time of week being built. -/
theorem Flags.part_timeOfWeekMs {assembler : GnssEpochAssembler} (flags : Flags assembler)
    (same : assembler.buildingParts = part.bit) :
    (assembler.building.part part).timeOfWeekMs = assembler.building.timeOfWeekMs := by
  cases part with
  | status message => exact flags.status same
  | timeUtc message => exact flags.timeUtc same

/-- A part is taken into an epoch that is without the other one. -/
theorem Sound.alone (sound : assembly.Sound)
    (building : assembly.assembler.isBuilding part.timeOfWeekMs = true)
    (alone : assembly.assembler.buildingParts = 0 ∨
      assembly.assembler.buildingParts = part.bit) :
    (assembly.add part nowMs pps).Sound := by
  have flags := sound.flags
  have placed := sound.accounted.placed
  obtain ⟨active, week⟩ := Bool.and_eq_true_iff.mp building
  have week := beq_iff_eq.mp week
  have own := put_ownOptional (flags.optional active) part
  have fresh := flags.fresh active
  rw [← put_timeOfWeekMs _ part] at fresh
  rw [add_alone alone]
  refine ⟨⟨?_, fun idle => ?_, fun has => ?_, fun has => ?_, fun _ => own, fun _ => fresh⟩,
    sound.told.keep rfl rfl rfl rfl rfl,
    ⟨fun other => ?_, sound.accounted.abandoned, sound.accounted.some, fun pair member => ?_⟩⟩
  · cases part with
    | status message => exact .inr (.inl rfl)
    | timeUtc message => exact .inr (.inr rfl)
  · rw [active] at idle
    cases idle
  · cases part with
    | status message => exact week.symm
    | timeUtc message => exact absurd has (by decide : ¬(0x02 : BitVec 8) = 1)
  · cases part with
    | status message => exact absurd has (by decide : ¬(0x01 : BitVec 8) = 2)
    | timeUtc message => exact week.symm
  · have before := placed other
    rw [places] at before ⊢
    dsimp only
    rw [parts_of_bit part rfl, put_part]
    rcases alone with none | same
    · rw [if_pos none]
      rw [parts_of_zero none] at before
      simp only [List.count_append, List.count_cons, List.count_nil] at before ⊢
      omega
    · rw [if_neg (same ▸ bit_ne_zero part), List.map_cons]
      rw [parts_of_bit part same] at before
      simp only [List.count_append, List.count_cons, List.count_nil] at before ⊢
      omega
  · dsimp only at member
    split at member
    · exact sound.accounted.replaced pair member
    · rename_i some
      have same := alone.resolve_left some
      rcases List.mem_cons.mp member with rfl | earlier
      · exact ⟨part_bit _ part, (flags.part_timeOfWeekMs same).trans week⟩
      · exact sound.accounted.replaced pair earlier

/-- The epoch that a part makes whole is of one time of week, and holds exactly the part and
what was being built. -/
theorem whole_of_other {assembler : GnssEpochAssembler} (flags : Flags assembler)
    (building : assembler.isBuilding part.timeOfWeekMs = true)
    (bits : assembler.buildingParts ||| part.bit = epochPartsRequired)
    (other : assembler.buildingParts &&& part.bit = 0) :
    (assembler.building.put part).Whole ∧
      List.Perm [.status (assembler.building.put part).status,
        .timeUtc (assembler.building.put part).timeUtc] (part :: assembler.parts) := by
  obtain ⟨active, week⟩ := Bool.and_eq_true_iff.mp building
  have week := beq_iff_eq.mp week
  have own := put_ownOptional (flags.optional active) part
  cases part with
  | status message =>
      have has : assembler.buildingParts = 2 := by
        rcases flags.bits with none | same | has
        · rw [none] at bits
          exact absurd bits (by decide : ¬(0 : BitVec 8) ||| 0x01 = epochPartsRequired)
        · rw [same] at other
          exact absurd other (by decide : ¬(1 : BitVec 8) &&& 0x01 = 0)
        · exact has
      refine ⟨⟨own, week.symm, flags.timeUtc has⟩, ?_⟩
      rw [parts_of_bit (.timeUtc assembler.building.timeUtc) has]
      exact .refl _
  | timeUtc message =>
      have has : assembler.buildingParts = 1 := by
        rcases flags.bits with none | has | same
        · rw [none] at bits
          exact absurd bits (by decide : ¬(0 : BitVec 8) ||| 0x02 = epochPartsRequired)
        · exact has
        · rw [same] at other
          exact absurd other (by decide : ¬(2 : BitVec 8) &&& 0x02 = 0)
      refine ⟨⟨own, flags.status has, week.symm⟩, ?_⟩
      rw [parts_of_bit (.status assembler.building.status) has]
      exact .swap _ _ _

/-- A pulse is labelled only where it is recent and not the last one labelled. -/
theorem associates_eq_true {assembler : GnssEpochAssembler}
    (associated : assembler.associates nowMs pps = true) :
    pps.valid = true ∧ (nowMs - pps.observedMs).toNat < gnssPpsAssociationWindowMs ∧
      (assembler.hasLabelledPps = true → assembler.lastLabelledPpsSequence ≠ pps.sequence) := by
  rw [GnssEpochAssembler.associates, Bool.and_eq_true_iff, Bool.and_eq_true_iff,
    Bool.not_eq_true'] at associated
  obtain ⟨⟨valid, recent⟩, new⟩ := associated
  refine ⟨valid, of_decide_eq_true recent, fun has => ?_⟩
  rw [has, Bool.true_and] at new
  exact beq_eq_false_iff_ne.mp new

/-- An epoch that is not the one published is of another time of week. -/
theorem Told.latest_ne (told : assembly.Told)
    (new : assembly.assembler.isPublishedEpoch timeOfWeekMs = false) :
    ∀ week ∈ (assembly.history.map (·.epoch.timeOfWeekMs)).head?, timeOfWeekMs ≠ week := by
  intro week member
  rcases told.latest with ⟨-, none⟩ | ⟨published, -⟩
  · rw [none] at member
    cases member
  · obtain ⟨completion, earlier, history, same⟩ := told.history_eq published
    rw [history] at member
    cases member
    rw [GnssEpochAssembler.isPublishedEpoch, published, Bool.true_and] at new
    dsimp only
    rw [same]
    exact (beq_eq_false_iff_ne.mp new).symm

/-- One more epoch that may label a pulse. -/
theorem labelled_cons (assembly : Assembly) (completion : Completion) :
    { assembly with history := completion :: assembly.history }.labelled =
      if completion.epoch.ppsAssociated then completion.epoch.ppsSequence :: assembly.labelled
      else assembly.labelled := by
  rw [labelled, List.filter_cons]
  split
  · rfl
  · rfl

/-- A part is taken into an epoch that has the other one, and it is published. -/
theorem Sound.publish (sound : assembly.Sound)
    (building : assembly.assembler.isBuilding part.timeOfWeekMs = true)
    (bits : assembly.assembler.buildingParts ||| part.bit = epochPartsRequired)
    (other : assembly.assembler.buildingParts &&& part.bit = 0) :
    (assembly.add part nowMs pps).Sound := by
  have flags := sound.flags
  have told := sound.told
  obtain ⟨whole, same⟩ := whole_of_other flags building bits other
  obtain ⟨active, -⟩ := Bool.and_eq_true_iff.mp building
  have fresh := flags.fresh active
  rw [← put_timeOfWeekMs _ part] at fresh
  rw [add_other bits other]
  dsimp only
  refine ⟨⟨.inl rfl, fun _ => rfl, fun wrong => ?_, fun wrong => ?_, fun wrong => ?_,
    fun wrong => ?_⟩, ⟨.inr ⟨rfl, rfl⟩, fun completion member => ?_, ?_, ?_, ?_,
    fun completion member => ?_⟩, ⟨fun other => ?_, sound.accounted.abandoned,
    sound.accounted.some, sound.accounted.replaced⟩⟩
  · cases wrong
  · cases wrong
  · cases wrong
  · cases wrong
  · rcases List.mem_cons.mp member with rfl | before
    · exact ⟨⟨whole.clock, whole.position⟩, whole.status, whole.timeUtc⟩
    · exact told.whole completion before
  · exact List.isChain_cons.mpr ⟨told.latest_ne fresh, told.apart⟩
  · change (Assembly.labelled { assembly with history := _ :: assembly.history }).IsChain (· ≠ ·)
    rw [labelled_cons]
    split
    · rename_i associated
      obtain ⟨-, -, new⟩ := associates_eq_true associated
      refine List.isChain_cons.mpr ⟨fun sequence member => ?_, told.labelled⟩
      rw [told.last] at member
      split at member
      · rename_i has
        cases member
        exact (new has).symm
      · cases member
    · exact told.labelled
  · change (Assembly.labelled { assembly with history := _ :: assembly.history }).head? = _
    rw [labelled_cons]
    change (if assembly.assembler.associates nowMs pps then pps.sequence :: assembly.labelled
        else assembly.labelled).head? =
      if assembly.assembler.hasLabelledPps || assembly.assembler.associates nowMs pps then
        some (if assembly.assembler.associates nowMs pps then pps.sequence
          else assembly.assembler.lastLabelledPpsSequence)
      else none
    cases assembly.assembler.associates nowMs pps with
    | true =>
        rw [Bool.or_true]
        rfl
    | false =>
        rw [Bool.or_false]
        exact told.last
  · rcases List.mem_cons.mp member with rfl | before
    · intro associated
      obtain ⟨valid, recent, -⟩ := associates_eq_true associated
      exact ⟨valid, rfl, recent⟩
    · exact told.recent completion before
  · have before := sound.accounted.placed other
    have put := same.count_eq other
    rw [places] at before ⊢
    dsimp only
    rw [parts_of_zero rfl, List.flatMap_cons]
    change (part :: assembly.accepted).count other =
      List.count other ([Part.status (assembly.assembler.building.put part).status,
        Part.timeUtc (assembly.assembler.building.put part).timeUtc] ++
        assembly.history.flatMap Completion.parts ++ [] ++ assembly.abandoned.flatten ++
        assembly.replaced.map Prod.fst)
    rw [List.count_append, List.count_append, List.count_append, List.count_append, put,
      List.count_cons, List.count_cons, before]
    simp only [List.count_append, List.count_nil]
    omega

/-- An epoch with a part is without the part that comes, or has it alone. -/
theorem Flags.has_other {assembler : GnssEpochAssembler} (flags : Flags assembler) (part : Part)
    (some : assembler.buildingParts ≠ 0) (other : assembler.buildingParts ≠ part.bit) :
    assembler.buildingParts ||| part.bit = epochPartsRequired ∧
      assembler.buildingParts &&& part.bit = 0 := by
  rcases flags.bits.resolve_left some with status | timeUtc
  · cases part with
    | status message => exact absurd status other
    | timeUtc message =>
        rw [status]
        exact (by decide : (1 : BitVec 8) ||| 0x02 = epochPartsRequired ∧ (1 : BitVec 8) &&& 0x02 = 0)
  · cases part with
    | status message =>
        rw [timeUtc]
        exact (by decide : (2 : BitVec 8) ||| 0x01 = epochPartsRequired ∧ (2 : BitVec 8) &&& 0x01 = 0)
    | timeUtc message => exact absurd timeUtc other

/-- A required part of a time of week not published comes in. -/
theorem Sound.add (sound : assembly.Sound)
    (building : assembly.assembler.isBuilding part.timeOfWeekMs = true) :
    (assembly.add part nowMs pps).Sound := by
  by_cases none : assembly.assembler.buildingParts = 0
  · exact sound.alone building (.inl none)
  by_cases same : assembly.assembler.buildingParts = part.bit
  · exact sound.alone building (.inr same)
  obtain ⟨bits, other⟩ := sound.flags.has_other part none same
  exact sound.publish building bits other

/-- An optional part of its own time of week joins an epoch. -/
theorem Sound.optional (sound : assembly.Sound)
    (joins : ∀ epoch : AssembledEpoch, epoch.timeOfWeekMs = timeOfWeekMs → Joins put epoch) :
    (assembly.optional timeOfWeekMs put).Sound := by
  rw [Assembly.optional]
  split
  · rename_i published
    obtain ⟨has, week⟩ := Bool.and_eq_true_iff.mp published
    exact sound.amend has (joins _ (beq_iff_eq.mp week))
  · rename_i new
    obtain ⟨started, building, -⟩ := sound.start (Bool.eq_false_iff.mpr new)
    obtain ⟨-, week⟩ := Bool.and_eq_true_iff.mp building
    exact started.change (joins _ (beq_iff_eq.mp week))

/-- The epoch being built is given up with nothing in its place. -/
theorem Sound.giveUp (sound : assembly.Sound) :
    { assembly with
      assembler := { assembly.assembler.abandon with buildingActive := false, buildingParts := 0 }
      abandoned := assembly.giveUp }.Sound := by
  obtain ⟨flattened, counted, some⟩ := giveUp_spec sound
  have placed := sound.accounted.placed
  rw [abandon_eq] at counted ⊢
  refine ⟨⟨.inl rfl, fun _ => rfl, fun wrong => ?_, fun wrong => ?_, fun wrong => ?_,
    fun wrong => ?_⟩, sound.told.keep rfl rfl rfl rfl rfl,
    ⟨fun part => ?_, counted, some, sound.accounted.replaced⟩⟩
  · cases wrong
  · cases wrong
  · cases wrong
  · cases wrong
  · have before := placed part
    rw [places] at before ⊢
    dsimp only
    rw [flattened, parts_of_zero rfl]
    simp only [List.count_append, List.count_nil] at before ⊢
    omega

theorem sound : machine.Invariant (fun _ _ => True) Sound where
  start := by
    rintro _ rfl
    refine ⟨⟨.inl rfl, fun _ => rfl, fun wrong => ?_, fun wrong => ?_, fun wrong => ?_,
      fun wrong => ?_⟩, ⟨.inl ⟨rfl, rfl⟩, fun _ member => ?_, .nil, .nil, rfl,
      fun _ member => ?_⟩, ⟨fun _ => rfl, rfl, fun _ member => ?_, fun _ member => ?_⟩⟩
    · cases wrong
    · cases wrong
    · cases wrong
    · cases wrong
    · cases member
    · cases member
    · cases member
    · cases member
  step := by
    rintro assembly message sound -
    change (assembly.receive message).Sound
    cases message with
    | part part nowMs pps =>
        rw [receive]
        split
        · exact sound
        · rename_i new
          obtain ⟨started, building, -⟩ := sound.start (Bool.eq_false_iff.mpr new)
          exact started.add building
    | clock clock =>
        apply sound.optional
        rintro epoch week
        exact ⟨rfl, rfl, rfl, rfl, rfl, fun own => ⟨fun _ => week.symm, own.position⟩⟩
    | position position =>
        apply sound.optional
        rintro epoch week
        exact ⟨rfl, rfl, rfl, rfl, rfl, fun own => ⟨own.clock, fun _ => week.symm⟩⟩
    | ended timeOfWeekMs =>
        rw [receive]
        split
        · rename_i published
          obtain ⟨has, -⟩ := Bool.and_eq_true_iff.mp published
          exact sound.amend has
            ⟨rfl, rfl, rfl, rfl, rfl, fun own => ⟨own.clock, own.position⟩⟩
        · split
          · exact sound.giveUp
          · exact sound

/-- What is kept beside the assembler changes nothing of what the code does. -/
theorem foldl_assembler (messages : List Message) (assembly : Assembly) :
    (messages.foldl receive assembly).assembler =
      messages.foldl GnssEpochAssembler.receive assembly.assembler := by
  induction messages generalizing assembly with
  | nil => rfl
  | cons message messages ih =>
      rw [List.foldl_cons, List.foldl_cons, ih, receive_assembler]

/-- After any messages in any order, every epoch published, the latest as the code holds it,
is of one time of week and labels only a recent pulse; no two in a row are of one time of
week, and no two pulses labelled in a row are the same. Every part accepted is, as often as
it was accepted, in an epoch published, in the one being built, in one abandoned and counted,
or replaced by a later one of its kind for the same time of week. -/
theorem assembled (messages : List Message) :
    let assembly : Assembly := messages.foldl receive {}
    assembly.assembler = messages.foldl GnssEpochAssembler.receive {} ∧
      (assembly.assembler.hasPublished = true →
        assembly.history.head?.map Completion.epoch = some assembly.assembler.published) ∧
      (∀ completion ∈ assembly.history, completion.epoch.Whole ∧ completion.Recent) ∧
      (assembly.history.map (·.epoch.timeOfWeekMs)).IsChain (· ≠ ·) ∧
      assembly.labelled.IsChain (· ≠ ·) ∧
      (∀ part, assembly.accepted.count part =
        (assembly.history.flatMap Completion.parts ++ assembly.assembler.parts ++
          assembly.abandoned.flatten ++ assembly.replaced.map Prod.fst).count part) ∧
      assembly.assembler.stats.abandoned = BitVec.ofNat 32 assembly.abandoned.length ∧
      (∀ parts ∈ assembly.abandoned, parts ≠ []) ∧
      ∀ pair ∈ assembly.replaced,
        pair.1.bit = pair.2.bit ∧ pair.1.timeOfWeekMs = pair.2.timeOfWeekMs := by
  intro assembly
  have kept : assembly.Sound :=
    sound.run (sound.start ({} : Assembly) rfl)
      (Machine.Run.foldl (fun _ _ => trivial) messages ({} : Assembly))
  have told := kept.told
  have accounted := kept.accounted
  refine ⟨foldl_assembler messages ({} : Assembly), fun published => ?_,
    fun completion member => ⟨told.whole completion member, told.recent completion member⟩,
    told.apart, told.labelled, accounted.placed, accounted.abandoned, accounted.some,
    accounted.replaced⟩
  rcases told.latest with ⟨none, -⟩ | ⟨-, head⟩
  · rw [published] at none
    cases none
  · exact head

/-- Two NAV-STATUS of one time of week: the first is taken, and then neither published, being
built nor in an epoch abandoned. -/
theorem first_status_replaced :
    let first : StatusMessage := { StatusMessage.zero with fixType := 2, timeOfWeekMs := 1000 }
    let second : StatusMessage := { StatusMessage.zero with fixType := 3, timeOfWeekMs := 1000 }
    let pps : GnssPpsReference := ⟨7, 900, true⟩
    let assembly := [Message.part (.status first) 950 pps,
      .part (.status second) 960 pps].foldl receive {}
    Part.status first ∈ assembly.accepted ∧
      Part.status first ∉ assembly.history.flatMap Completion.parts ∧
      Part.status first ∉ assembly.assembler.parts ∧
      Part.status first ∉ assembly.abandoned.flatten ∧
      assembly.assembler.stats.abandoned = 0 := by
  decide

end Assembly

end GpsClock.Gnss
