import GpsClock.Gnss.Assembler
import GpsClock.Sync.KeptTime

/-! # The leap second's announcement

The receiver announces a leap second as a time to it (`gnss.c`), which the PIC places at a
midnight and reports to the ESP; the ESP holds what it was told and sends it back
(`leap.cpp`), for when the receiver is lost; and the PIC takes it only as a whole midnight's
(`esp_link.c`). Messages may be lost, late, repeated and out of order, the ESP may start
again, and its clock may be wrong: what any of them holds is the true leap second or none, so
the synchroniser is told nothing else (`GpsClock.Sync.LeapChain.announced_truly`); and one
round of messages brings it (`GpsClock.Sync.LeapChain.announcement_arrives`).
-/

namespace GpsClock.Sync

open GpsClock.Platform GpsClock.Gnss

/-! ## As the receiver announces it -/

/-- `UBX_WEEK_MS`. -/
abbrev ubxWeekMs : Nat := 604800000

/-- `UTC_SECONDS_PER_DAY`. -/
abbrev utcSecondsPerDay : BitVec 32 := 86400

/-- `UTC_LAST_DAY`. -/
abbrev utcLastDay : BitVec 32 := 49709

/-- `GNSS_LEAP_EVENT_TOLERANCE_S`. -/
abbrev gnssLeapEventToleranceS : BitVec 32 := 2

/-- `GNSS_TIMELS_MAX_AGE_MS`. -/
abbrev gnssTimelsMaxAgeMs : BitVec 32 := 30000

/-- `UbxNavTimels`, the fields used. -/
structure UbxNavTimels where
  timeOfWeekMs : BitVec 32 := 0
  timeToEventS : BitVec 32 := 0
  currentLeapSeconds : Int := 0
  leapSecondChange : Int := 0
  validityFlags : BitVec 8 := 0
  deriving DecidableEq, Repr

namespace UbxNavTimels

/-- `UBX_TIMELS_VALID_CURRENT_LS`. -/
def validCurrent (timels : UbxNavTimels) : Bool := timels.validityFlags &&& 0x01 != 0

/-- `UBX_TIMELS_VALID_TIME_TO_EVENT`. -/
def validTimeToEvent (timels : UbxNavTimels) : Bool := timels.validityFlags &&& 0x02 != 0

end UbxNavTimels

/-- `utc_leap_snap`: the midnight an estimate is within the tolerance of. -/
def utcLeapSnap (estimatedUtc toleranceS : BitVec 32) : Option (BitVec 32) :=
  let intoDay := estimatedUtc % utcSecondsPerDay
  let midnight := estimatedUtc - intoDay
  if utcSecondsPerDay / 2 < intoDay then
    if toleranceS < utcSecondsPerDay - intoDay ∨ utcLastDay < midnight / utcSecondsPerDay then none
    else some (midnight + utcSecondsPerDay)
  else if toleranceS < intoDay then none
  else some midnight

/-- `time_of_week_delta_ms`. -/
def timeOfWeekDeltaMs (fromMs toMs : BitVec 32) : Int :=
  let delta := (toMs - fromMs).toInt
  if (ubxWeekMs / 2 : Nat) < delta then delta - ubxWeekMs
  else if delta < -(ubxWeekMs / 2 : Nat) then delta + ubxWeekMs
  else delta

/-- The leap second's part of `gnss.c`'s state. -/
structure GnssLeap where
  leapSeconds : UbxNavTimels := {}
  hasLeapSeconds : Bool := false
  leapSecondsReceivedMs : BitVec 32 := 0
  hasLeapEvent : Bool := false
  leapEvent : UtcLeap := ⟨0, 0⟩
  deriving DecidableEq, Repr

/-- `SML_TIME_GNSS_PAYLOAD`, its leap second. -/
structure SmlTimeGnss where
  leapValid : Bool := false
  leapEventValid : Bool := false
  gpsUtcS : Int := 0
  leapChange : Int := 0
  leapEventUtc : BitVec 32 := 0
  deriving DecidableEq, Repr

namespace GnssLeap

/-- `handle_leap_seconds`, of a message that decodes, with the latest epoch if there is one. -/
def handleLeapSeconds (gnss : GnssLeap) (timels : UbxNavTimels) (epoch : Option AssembledEpoch)
    (nowMs : BitVec 32) : GnssLeap :=
  let gnss :=
    { gnss with
      leapSeconds := timels
      hasLeapSeconds := true
      leapSecondsReceivedMs := nowMs
      hasLeapEvent := false }
  match epoch with
  | none => gnss
  | some epoch =>
      if timels.validTimeToEvent = false ∨ timels.leapSecondChange = 0 ∨ epoch.timeValid = false then
        gnss
      else
        let toEventS := timels.timeToEventS +
          BitVec.ofInt 32 ((timeOfWeekDeltaMs epoch.timeOfWeekMs timels.timeOfWeekMs).tdiv 1000)
        match utcLeapSnap (epoch.utcSeconds + toEventS) gnssLeapEventToleranceS with
        | none => gnss
        | some eventUtc =>
            { gnss with
              leapEvent := ⟨eventUtc, timels.leapSecondChange⟩
              hasLeapEvent := true }

/-- The latest message is too old. -/
def aged (gnss : GnssLeap) (nowMs : BitVec 32) : Bool :=
  decide (gnssTimelsMaxAgeMs ≤ nowMs - gnss.leapSecondsReceivedMs)

/-- `gnss_leap_event`. -/
def gnssLeapEvent (gnss : GnssLeap) (nowMs : BitVec 32) : Option UtcLeap :=
  if !gnss.hasLeapSeconds || !gnss.hasLeapEvent || gnss.aged nowMs then none
  else some gnss.leapEvent

/-- `gnss_leap_seconds`. -/
def gnssLeapSeconds (gnss : GnssLeap) (nowMs : BitVec 32) : Option Int :=
  if !gnss.hasLeapSeconds || gnss.aged nowMs || !gnss.leapSeconds.validCurrent then none
  else some gnss.leapSeconds.currentLeapSeconds

/-- `esp_report_time_gnss`, its leap second. -/
def espReportTimeGnss (gnss : GnssLeap) (nowMs : BitVec 32) : SmlTimeGnss where
  leapValid := (gnss.gnssLeapSeconds nowMs).isSome
  gpsUtcS := (gnss.gnssLeapSeconds nowMs).getD 0
  leapEventValid := (gnss.gnssLeapEvent nowMs).isSome
  leapChange := ((gnss.gnssLeapEvent nowMs).map UtcLeap.change).getD 0
  leapEventUtc := ((gnss.gnssLeapEvent nowMs).map UtcLeap.eventUtc).getD 0

end GnssLeap

/-! ## As the ESP holds it -/

/-- `RESEND_MS`. -/
abbrev resendMs : BitVec 32 := 600000

/-- `SML_TIME_LEAP_PAYLOAD`: its flags, its source, and the fields set. -/
structure SmlTimeLeap where
  valid : Bool := false
  eventPending : Bool := false
  sourceGnss : Bool := false
  taiUtcS : Int := 0
  change : Int := 0
  eventUtc : BitVec 32 := 0
  deriving DecidableEq, Repr

/-- `leap.cpp`'s statics. -/
structure EspLeap where
  held : SmlTimeLeap := {}
  changed : Bool := false
  lastSentMs : BitVec 32 := 0
  sent : BitVec 32 := 0
  deriving DecidableEq, Repr

/-- `roll_on`, by the UTC the ESP has, if any. -/
def SmlTimeLeap.rollOn (leap : SmlTimeLeap) (utcNow : Option (BitVec 32)) : Bool × SmlTimeLeap :=
  match utcNow with
  | none => (false, leap)
  | some utc =>
      if leap.eventPending = false ∨ utc < leap.eventUtc then (false, leap)
      else
        (true,
          { leap with
            taiUtcS := leap.taiUtcS + leap.change
            eventPending := false
            change := 0
            eventUtc := 0 })

/-- `take_gnss`, what it makes of TIME-GNSS. -/
def SmlTimeGnss.leap (gnss : SmlTimeGnss) : SmlTimeLeap :=
  let pending := gnss.leapEventValid && gnss.leapChange != 0
  { valid := true
    sourceGnss := true
    taiUtcS := gnss.gpsUtcS + 19
    eventPending := pending
    change := if pending then gnss.leapChange else 0
    eventUtc := if pending then gnss.leapEventUtc else 0 }

namespace EspLeap

/-- `take_gnss`, of what `pic_link_get` finds. -/
def takeGnss (esp : EspLeap) (message : Option SmlTimeGnss) (utcNow : Option (BitVec 32)) : EspLeap :=
  match message with
  | none => esp
  | some gnss =>
      if gnss.leapValid = false then esp
      else
        let leap := (gnss.leap.rollOn utcNow).2
        if leap ≠ esp.held then { esp with held := leap, changed := true } else esp

/-- `leap_service`: what it sends, if anything. -/
def leapService (esp : EspLeap) (message : Option SmlTimeGnss) (utcNow : Option (BitVec 32))
    (linked : Bool) (nowMs : BitVec 32) : Option SmlTimeLeap × EspLeap :=
  let esp := esp.takeGnss message utcNow
  let (rolled, held) := esp.held.rollOn utcNow
  let esp := { esp with held := held, changed := esp.changed || rolled }
  if !esp.held.valid || !linked then (none, esp)
  else if esp.changed || decide (resendMs < nowMs - esp.lastSentMs) then
    (some esp.held, { esp with changed := false, lastSentMs := nowMs, sent := esp.sent + 1 })
  else (none, esp)

end EspLeap

/-- `handle_leap`: what it announces to the synchroniser. -/
def SmlTimeLeap.announces (leap : SmlTimeLeap) : UtcLeap :=
  if leap.valid = true ∧ leap.eventPending = true ∧ (leap.change = 1 ∨ leap.change = -1) then
    match utcLeapSnap leap.eventUtc 0 with
    | none => ⟨0, 0⟩
    | some midnight => ⟨midnight, leap.change⟩
  else ⟨0, 0⟩

/-! ## The chain -/

/-- The receiver's part of the PIC, the ESP's, the synchroniser's, and every message sent
either way. -/
structure LeapChain where
  gnss : GnssLeap := {}
  reported : List SmlTimeGnss := []
  esp : EspLeap := {}
  sent : List SmlTimeLeap := []
  keeper : Keeper := ⟨{}, 0⟩

inductive LeapAct
  /-- NAV-TIMELS, and the latest epoch. -/
  | timels (message : UbxNavTimels) (epoch : Option AssembledEpoch) (nowMs : BitVec 32)
  /-- TIME-GNSS is sent. -/
  | report (nowMs : BitVec 32)
  /-- The ESP's pass, with the TIME-GNSS it finds and the UTC it has. -/
  | service (message : Option SmlTimeGnss) (utcNow : Option (BitVec 32)) (linked : Bool)
      (nowMs : BitVec 32)
  /-- TIME-LEAP is received. -/
  | received (message : SmlTimeLeap)
  /-- The ESP starts again. -/
  | espStarts
  /-- Anything else that happens to the synchroniser. -/
  | keep (act : SyncAct)

namespace LeapChain

def step (chain : LeapChain) : LeapAct → LeapChain
  | .timels message epoch nowMs =>
      { chain with gnss := chain.gnss.handleLeapSeconds message epoch nowMs }
  | .report nowMs =>
      { chain with reported := chain.gnss.espReportTimeGnss nowMs :: chain.reported }
  | .service message utcNow linked nowMs =>
      let (sent, esp) := chain.esp.leapService message utcNow linked nowMs
      { chain with esp := esp, sent := sent.toList ++ chain.sent }
  | .received message => { chain with keeper := chain.keeper.step (.setLeap message.announces) }
  | .espStarts => { chain with esp := {} }
  | .keep act => { chain with keeper := chain.keeper.step act }

def machine : Machine LeapChain LeapAct where
  start chain := chain = {}
  step := step

end LeapChain

/-- A leap second is at a midnight, and not in the first two seconds of all. -/
structure AtMidnight (world : TrueTime) : Prop where
  scheduled : Scheduled world.leap
  midnight : ∀ event, world.leap = some event → event.eventUtc.toNat % 86400 = 0

/-- A time of week, of a count of milliseconds since 1970 that leap seconds are counted in,
with the week's start given. -/
def weekTime (weekMs timeMs : Nat) : BitVec 32 :=
  BitVec.ofNat 32 ((weekMs + timeMs) % ubxWeekMs)

/-- What a receiver announces is the true leap second, as far on as it is but for an error;
and the latest epoch is of the same half week and truly labelled. -/
def AnnouncedTruly (world : TrueTime) (weekMs errorS : Nat) (timels : UbxNavTimels)
    (epoch : Option AssembledEpoch) : Prop :=
  timels.validTimeToEvent = true → timels.leapSecondChange ≠ 0 →
    ∀ latest, epoch = some latest → latest.timeValid = true →
      ∃ (event : UtcLeap) (timeMs epochMs : Nat),
        world.leap = some event ∧ timels.leapSecondChange = event.change ∧
        timels.timeOfWeekMs = weekTime weekMs timeMs ∧
        |timels.timeToEventS.toInt - ((place world.leap (event.eventUtc, false) : Int) -
          (timeMs / 1000 : Nat))| ≤ errorS ∧
        latest.timeOfWeekMs = weekTime weekMs epochMs ∧
        |(timeMs : Int) - epochMs| < (ubxWeekMs / 2 : Nat) ∧
        place world.leap (latest.utcSeconds, latest.leapSecond) = epochMs / 1000

namespace LeapChain

/-- A truthful receiver, a synchroniser otherwise told the truth, and links that deliver
nothing that was not sent. -/
def Admits (world : TrueTime) (weekMs errorS : Nat) (chain : LeapChain) : LeapAct → Prop
  | .timels message epoch _ => AnnouncedTruly world weekMs errorS message epoch
  | .report _ => True
  | .service message _ _ _ => ∀ found, message = some found → found ∈ chain.reported
  | .received message => message ∈ chain.sent
  | .espStarts => True
  | .keep act => (∀ leap, act ≠ .setLeap leap) ∧ Keeper.Truthful world chain.keeper act

end LeapChain

/-! ## Snapping to the midnight -/

variable {world : TrueTime}

theorem intoDay_toNat (estimate : BitVec 32) :
    (estimate % utcSecondsPerDay).toNat = estimate.toNat % 86400 := by
  have day : (utcSecondsPerDay : BitVec 32).toNat = 86400 := rfl
  rw [BitVec.toNat_umod, day]

theorem midnight_toNat (estimate : BitVec 32) :
    (estimate - estimate % utcSecondsPerDay).toNat = estimate.toNat - estimate.toNat % 86400 := by
  rw [BitVec.toNat_sub_of_le, intoDay_toNat]
  rw [BitVec.le_def, intoDay_toNat]
  exact Nat.mod_le _ _

/-- The rest of the estimate's day. -/
theorem remaining_toNat (estimate : BitVec 32) :
    (utcSecondsPerDay - estimate % utcSecondsPerDay).toNat = 86400 - estimate.toNat % 86400 := by
  have day : (utcSecondsPerDay : BitVec 32).toNat = 86400 := rfl
  rw [BitVec.toNat_sub_of_le, intoDay_toNat, day]
  rw [BitVec.le_def, intoDay_toNat, day]
  omega

theorem dayNumber_toNat (estimate : BitVec 32) :
    ((estimate - estimate % utcSecondsPerDay) / utcSecondsPerDay).toNat =
      (estimate.toNat - estimate.toNat % 86400) / 86400 := by
  have day : (utcSecondsPerDay : BitVec 32).toNat = 86400 := rfl
  rw [BitVec.toNat_udiv, midnight_toNat, day]

/-- In the second half of the day, it is the next midnight that is near. -/
theorem afternoon_iff (estimate : BitVec 32) :
    utcSecondsPerDay / 2 < estimate % utcSecondsPerDay ↔ 43200 < estimate.toNat % 86400 := by
  have half : (utcSecondsPerDay / 2 : BitVec 32).toNat = 43200 := rfl
  rw [BitVec.lt_def, half, intoDay_toNat]

/-- An estimate within the tolerance of a midnight, and the tolerance within half a day,
snaps to it. -/
theorem utcLeapSnap_near {estimate tolerance midnight : BitVec 32}
    (whole : midnight.toNat % 86400 = 0) (small : tolerance.toNat < 43200)
    (low : midnight.toNat ≤ estimate.toNat + tolerance.toNat)
    (high : estimate.toNat ≤ midnight.toNat + tolerance.toNat) :
    utcLeapSnap estimate tolerance = some midnight := by
  have fits := midnight.isLt
  unfold utcLeapSnap
  dsimp only
  rcases Nat.lt_or_ge estimate.toNat midnight.toNat with before | after
  · rw [if_pos ((afternoon_iff estimate).mpr (by omega)), if_neg]
    · refine congrArg some (BitVec.eq_of_toNat_eq ?_)
      have day : (utcSecondsPerDay : BitVec 32).toNat = 86400 := rfl
      rw [BitVec.toNat_add, midnight_toNat, day]
      omega
    · have last : (utcLastDay : BitVec 32).toNat = 49709 := rfl
      rw [BitVec.lt_def, BitVec.lt_def, remaining_toNat, dayNumber_toNat, last]
      omega
  · rw [if_neg (fun late => absurd ((afternoon_iff estimate).mp late) (by omega)),
      if_neg (by rw [BitVec.lt_def, intoDay_toNat]; omega)]
    refine congrArg some (BitVec.eq_of_toNat_eq ?_)
    rw [midnight_toNat]
    omega

/-- What an estimate snaps to is a midnight within the tolerance. -/
theorem utcLeapSnap_some {estimate tolerance midnight : BitVec 32}
    (snapped : utcLeapSnap estimate tolerance = some midnight) :
    midnight.toNat % 86400 = 0 ∧ midnight.toNat ≤ estimate.toNat + tolerance.toNat ∧
      estimate.toNat ≤ midnight.toNat + tolerance.toNat := by
  have fits := estimate.isLt
  unfold utcLeapSnap at snapped
  dsimp only at snapped
  split at snapped
  · next late =>
      rw [afternoon_iff] at late
      split at snapped
      · cases snapped
      · next near =>
          have same := Option.some.inj snapped
          have day : (utcSecondsPerDay : BitVec 32).toNat = 86400 := rfl
          have last : (utcLastDay : BitVec 32).toNat = 49709 := rfl
          rw [BitVec.lt_def, BitVec.lt_def, remaining_toNat, dayNumber_toNat, last] at near
          have fit : estimate.toNat - estimate.toNat % 86400 + 86400 < 2 ^ 32 := by omega
          rw [← same, BitVec.toNat_add, midnight_toNat, day, Nat.mod_eq_of_lt fit]
          refine ⟨?_, ?_, ?_⟩ <;> omega
  · next early =>
      rw [afternoon_iff] at early
      split at snapped
      · cases snapped
      · next near =>
          have same := Option.some.inj snapped
          rw [BitVec.lt_def, intoDay_toNat] at near
          rw [← same, midnight_toNat]
          omega

theorem weekTime_toInt (weekMs timeMs : Nat) :
    (weekTime weekMs timeMs).toInt = ((weekMs + timeMs) % ubxWeekMs : Nat) := by
  have small := Nat.mod_lt (weekMs + timeMs) (show 0 < ubxWeekMs by decide)
  dsimp only [ubxWeekMs] at *
  have value : (weekTime weekMs timeMs).toNat = (weekMs + timeMs) % 604800000 := by
    rw [weekTime, BitVec.toNat_ofNat]
    dsimp only [ubxWeekMs]
    omega
  rw [BitVec.toInt_eq_toNat_of_lt (by rw [value]; omega), value]

/-- Times of week tell two times of one half week apart. -/
theorem timeOfWeekDeltaMs_eq {weekMs fromMs toMs : Nat}
    (near : |(toMs : Int) - fromMs| < (ubxWeekMs / 2 : Nat)) :
    timeOfWeekDeltaMs (weekTime weekMs fromMs) (weekTime weekMs toMs) = toMs - fromMs := by
  have from_lt := Nat.mod_lt (weekMs + fromMs) (show 0 < ubxWeekMs by decide)
  have to_lt := Nat.mod_lt (weekMs + toMs) (show 0 < ubxWeekMs by decide)
  have apart := abs_lt.mp near
  have delta : (weekTime weekMs toMs - weekTime weekMs fromMs).toInt =
      (((weekMs + toMs) % ubxWeekMs : Nat) : Int) - ((weekMs + fromMs) % ubxWeekMs : Nat) := by
    rw [BitVec.toInt_sub, weekTime_toInt, weekTime_toInt]
    dsimp only [ubxWeekMs] at *
    exact Int.bmod_eq_of_le (by omega) (by omega)
  unfold timeOfWeekDeltaMs
  rw [delta]
  dsimp only [ubxWeekMs] at *
  split
  · omega
  · split <;> omega

/-- Whole seconds between two times are those between the seconds they fall in, but one. -/
theorem tdiv_apart (fromMs toMs : Nat) :
    (toMs / 1000 : Nat) - (fromMs / 1000 : Nat) - 1 ≤ ((toMs : Int) - fromMs).tdiv 1000 ∧
      ((toMs : Int) - fromMs).tdiv 1000 ≤ (toMs / 1000 : Nat) - (fromMs / 1000 : Nat) + 1 := by
  rcases Nat.le_total fromMs toMs with later | earlier
  · rw [Int.tdiv_eq_ediv_of_nonneg (by omega)]
    omega
  · rw [show (toMs : Int) - fromMs = -((fromMs : Int) - toMs) by ring, Int.neg_tdiv,
      Int.tdiv_eq_ediv_of_nonneg (by omega)]
    omega

/-- A second's label and how many seconds on the event is give the event to within one. -/
theorem place_event {event : UtcLeap} (label : Label) (scheduled : Scheduled (some event))
    (changes : event.change ≠ 0) :
    (event.eventUtc.toNat : Int) - 1 ≤ label.1.toNat +
        ((place (some event) (event.eventUtc, false) : Int) - place (some event) label) ∧
      label.1.toNat + ((place (some event) (event.eventUtc, false) : Int) -
        place (some event) label) ≤ (event.eventUtc.toNat : Int) + 1 := by
  obtain ⟨late, before⟩ := scheduled.event
  rcases lt_or_gt_of_ne changes with deleted | inserted
  · rw [place_deleted deleted, place_deleted deleted]
    dsimp only
    rw [if_pos (BitVec.le_refl _)]
    split
    · next after =>
        rw [BitVec.le_def] at after
        omega
    · omega
  · have reached : false = true ∨ event.eventUtc ≤ event.eventUtc := .inr (BitVec.le_refl _)
    rw [place_inserted inserted, place_inserted inserted]
    dsimp only
    rw [if_pos reached]
    split <;> omega

/-- How far from the leap second a receiver's announcement of it is placed. -/
theorem estimate_near (atMidnight : AtMidnight world) {weekMs errorS : Nat} {timels : UbxNavTimels}
    {latest : AssembledEpoch} (announced : AnnouncedTruly world weekMs errorS timels (some latest))
    (toEvent : timels.validTimeToEvent = true) (changes : timels.leapSecondChange ≠ 0)
    (timed : latest.timeValid = true) (small : errorS ≤ 20000) :
    ∃ event, world.leap = some event ∧ timels.leapSecondChange = event.change ∧
      ∀ estimate, latest.utcSeconds + (timels.timeToEventS + BitVec.ofInt 32
          ((timeOfWeekDeltaMs latest.timeOfWeekMs timels.timeOfWeekMs).tdiv 1000)) = estimate →
        event.eventUtc.toNat ≤ estimate.toNat + (2 + errorS) ∧
          estimate.toNat ≤ event.eventUtc.toNat + (2 + errorS) := by
  obtain ⟨event, timeMs, epochMs, leap, change, time, toGo, epoch, near, placed⟩ :=
    announced toEvent changes latest rfl timed
  refine ⟨event, leap, change, ?_⟩
  rintro estimate rfl
  have whole := atMidnight.midnight event leap
  have scheduled := atMidnight.scheduled
  rw [leap] at scheduled placed toGo
  have late := scheduled.event.1
  have events := place_event (latest.utcSeconds, latest.leapSecond) scheduled (change ▸ changes)
  have apart := tdiv_apart epochMs timeMs
  have wrong := abs_le.mp toGo
  rw [time, epoch, timeOfWeekDeltaMs_eq near]
  generalize ((timeMs : Int) - epochMs).tdiv 1000 = seconds at *
  have sum : latest.utcSeconds + (timels.timeToEventS + BitVec.ofInt 32 seconds) =
      BitVec.ofInt 32 (latest.utcSeconds.toNat + (timels.timeToEventS.toInt + seconds)) := by
    rw [BitVec.ofInt_add, BitVec.ofInt_add, BitVec.ofInt_toInt, BitVec.ofInt_natCast,
      BitVec.ofNat_toNat, BitVec.setWidth_eq]
  have fits := event.eventUtc.isLt
  dsimp only at events
  rw [sum, BitVec.toNat_ofInt]
  omega

/-- A receiver that is right to the second is placed at the leap second. -/
theorem placed_truly (atMidnight : AtMidnight world) {weekMs : Nat} {timels : UbxNavTimels}
    {latest : AssembledEpoch} (announced : AnnouncedTruly world weekMs 0 timels (some latest))
    (toEvent : timels.validTimeToEvent = true) (changes : timels.leapSecondChange ≠ 0)
    (timed : latest.timeValid = true) :
    ∃ event, world.leap = some event ∧ timels.leapSecondChange = event.change ∧
      utcLeapSnap (latest.utcSeconds + (timels.timeToEventS +
        BitVec.ofInt 32 ((timeOfWeekDeltaMs latest.timeOfWeekMs timels.timeOfWeekMs).tdiv 1000)))
          gnssLeapEventToleranceS = some event.eventUtc := by
  obtain ⟨event, leap, change, near⟩ :=
    estimate_near atMidnight announced toEvent changes timed (by decide)
  obtain ⟨low, high⟩ := near _ rfl
  exact ⟨event, leap, change,
    utcLeapSnap_near (atMidnight.midnight event leap) (by decide) low high⟩

/-! ## What the chain keeps -/

namespace LeapChain

/-- What a message or a state holds of the leap second, if anything, is true. -/
def Holds (world : TrueTime) (pending : Bool) (eventUtc : BitVec 32) (change : Int) : Prop :=
  pending = true → world.leap = some ⟨eventUtc, change⟩

variable {weekMs errorS : Nat} {chain : LeapChain}

theorem Holds.notFalse {pending : Bool} {leap : UtcLeap} (holds : Holds world pending leap.eventUtc leap.change)
    (set : pending = true) : world.NotFalse leap := by
  rw [TrueTime.NotFalse, UtcLeap.announced]
  split
  · exact .inl rfl
  · exact .inr (holds set).symm

/-- An announcement out by hours is placed at the leap second or nowhere: it is at no other
midnight. -/
theorem handled_truly (atMidnight : AtMidnight world) (small : errorS ≤ 20000) {gnss : GnssLeap}
    {timels : UbxNavTimels} {epoch : Option AssembledEpoch}
    (announced : AnnouncedTruly world weekMs errorS timels epoch) (nowMs : BitVec 32) :
    Holds world (gnss.handleLeapSeconds timels epoch nowMs).hasLeapEvent
      (gnss.handleLeapSeconds timels epoch nowMs).leapEvent.eventUtc
      (gnss.handleLeapSeconds timels epoch nowMs).leapEvent.change := by
  cases epoch with
  | none => exact fun impossible => by cases impossible
  | some latest =>
      simp only [GnssLeap.handleLeapSeconds]
      split
      · exact fun impossible => by cases impossible
      · next usable =>
          rw [not_or, not_or, Bool.not_eq_false, Bool.not_eq_false] at usable
          obtain ⟨event, leap, change, near⟩ :=
            estimate_near atMidnight announced usable.1 usable.2.1 usable.2.2 small
          obtain ⟨low, high⟩ := near _ rfl
          split
          · exact fun impossible => by cases impossible
          · next midnight snapped =>
              intro _
              have tolerance : (gnssLeapEventToleranceS : BitVec 32).toNat = 2 := rfl
              obtain ⟨whole, after, before⟩ := utcLeapSnap_some snapped
              have same : midnight = event.eventUtc := by
                have event_whole := atMidnight.midnight event leap
                rw [tolerance] at after before
                exact BitVec.eq_of_toNat_eq (by omega)
              dsimp only
              rw [leap, change, same]

theorem reported_truly {gnss : GnssLeap}
    (holds : Holds world gnss.hasLeapEvent gnss.leapEvent.eventUtc gnss.leapEvent.change)
    (nowMs : BitVec 32) :
    Holds world (gnss.espReportTimeGnss nowMs).leapEventValid
      (gnss.espReportTimeGnss nowMs).leapEventUtc (gnss.espReportTimeGnss nowMs).leapChange := by
  simp only [GnssLeap.espReportTimeGnss, GnssLeap.gnssLeapEvent]
  split
  · exact fun impossible => by cases impossible
  · next usable =>
      intro _
      refine holds ?_
      by_contra unset
      rw [Bool.not_eq_true] at unset
      exact usable (by rw [unset]; simp)

/-- Rolling on forgets an event or leaves it. -/
theorem rolled_truly {leap : SmlTimeLeap} (holds : Holds world leap.eventPending leap.eventUtc leap.change)
    (utcNow : Option (BitVec 32)) :
    Holds world (leap.rollOn utcNow).2.eventPending (leap.rollOn utcNow).2.eventUtc
      (leap.rollOn utcNow).2.change := by
  cases utcNow with
  | none => exact holds
  | some utc =>
      rw [SmlTimeLeap.rollOn]
      split
      · exact holds
      · exact fun impossible => by cases impossible

/-- What the ESP holds is true. -/
def EspTrue (world : TrueTime) (esp : EspLeap) : Prop :=
  Holds world esp.held.eventPending esp.held.eventUtc esp.held.change

theorem leap_truly {gnss : SmlTimeGnss}
    (holds : Holds world gnss.leapEventValid gnss.leapEventUtc gnss.leapChange) :
    Holds world gnss.leap.eventPending gnss.leap.eventUtc gnss.leap.change := by
  intro pending
  change (gnss.leapEventValid && gnss.leapChange != 0) = true at pending
  simp only [SmlTimeGnss.leap, pending, if_true]
  exact holds (Bool.and_eq_true_iff.mp pending).1

theorem taken_truly {esp : EspLeap} (holds : EspTrue world esp) {message : Option SmlTimeGnss}
    (told : ∀ found, message = some found →
      Holds world found.leapEventValid found.leapEventUtc found.leapChange)
    (utcNow : Option (BitVec 32)) : EspTrue world (esp.takeGnss message utcNow) := by
  cases message with
  | none => exact holds
  | some gnss =>
      simp only [EspLeap.takeGnss]
      split
      · exact holds
      · split
        · exact rolled_truly (leap_truly (told gnss rfl)) utcNow
        · exact holds

theorem served_truly {esp : EspLeap} (holds : EspTrue world esp) {message : Option SmlTimeGnss}
    (told : ∀ found, message = some found →
      Holds world found.leapEventValid found.leapEventUtc found.leapChange)
    (utcNow : Option (BitVec 32)) (linked : Bool) (nowMs : BitVec 32) :
    EspTrue world (esp.leapService message utcNow linked nowMs).2 ∧
      ∀ sent, (esp.leapService message utcNow linked nowMs).1 = some sent →
        Holds world sent.eventPending sent.eventUtc sent.change := by
  have rolled := rolled_truly (taken_truly holds told utcNow) utcNow
  simp only [EspLeap.leapService]
  split
  · exact ⟨rolled, fun sent impossible => by cases impossible⟩
  · split
    · refine ⟨rolled, fun sent same => ?_⟩
      cases same
      exact rolled
    · exact ⟨rolled, fun sent impossible => by cases impossible⟩

/-- What the PIC announces of a true message: the leap second or none. -/
theorem announces_truly (atMidnight : AtMidnight world) {leap : SmlTimeLeap}
    (holds : Holds world leap.eventPending leap.eventUtc leap.change) :
    world.NotFalse leap.announces := by
  rw [SmlTimeLeap.announces]
  split
  · next pending =>
      have whole := atMidnight.midnight _ (holds pending.2.1)
      rw [utcLeapSnap_near whole (by decide) (by simp) (by simp)]
      exact Holds.notFalse holds pending.2.1
  · exact .inl rfl

/-- What every act keeps. -/
structure Kept (world : TrueTime) (chain : LeapChain) : Prop where
  gnss : Holds world chain.gnss.hasLeapEvent chain.gnss.leapEvent.eventUtc
    chain.gnss.leapEvent.change
  reported : ∀ message ∈ chain.reported,
    Holds world message.leapEventValid message.leapEventUtc message.leapChange
  esp : EspTrue world chain.esp
  sent : ∀ message ∈ chain.sent, Holds world message.eventPending message.eventUtc message.change
  keeper : Keeper.machine.Reachable (Keeper.Truthful world) chain.keeper

theorem kept_invariant (atMidnight : AtMidnight world) (weekMs : Nat) (small : errorS ≤ 20000) :
    machine.Invariant (Admits world weekMs errorS) (Kept world) where
  start chain started := by
    rw [started]
    exact ⟨fun impossible => (by cases impossible), fun _ none => (by cases none),
      fun impossible => (by cases impossible), fun _ none => (by cases none), .start rfl⟩
  step chain act kept admitted := by
    cases act with
    | timels message epoch nowMs =>
        exact { kept with gnss := handled_truly atMidnight small admitted nowMs }
    | report nowMs =>
        refine { kept with reported := fun message member => ?_ }
        rcases List.mem_cons.mp member with rfl | earlier
        · exact reported_truly kept.gnss nowMs
        · exact kept.reported message earlier
    | service message utcNow linked nowMs =>
        obtain ⟨esp, sent⟩ := served_truly kept.esp
          (fun found same => kept.reported found (admitted found same)) utcNow linked nowMs
        refine { kept with esp := esp, sent := fun message member => ?_ }
        rcases List.mem_append.mp member with new | earlier
        · exact sent message (Option.mem_toList.mp new)
        · exact kept.sent message earlier
    | received message =>
        exact { kept with keeper := kept.keeper.step (.setLeap message.announces)
                            (announces_truly atMidnight (kept.sent message admitted)) }
    | espStarts => exact { kept with esp := fun impossible => (by cases impossible) }
    | keep act => exact { kept with keeper := kept.keeper.step act admitted.2 }

/-- **No false leap second.** However the messages are lost, delayed, repeated and put out of
order, whenever the ESP starts again and whatever it takes the time to be, and though the
receiver's time to the event be out by hours, the receiver's part announces the true leap
second or none, so does the link to the synchroniser, and the time the synchroniser keeps is
the true second's. -/
theorem announced_truly (atMidnight : AtMidnight world) (weekMs errorS : Nat)
    (small : errorS ≤ 20000) (chain : LeapChain)
    (reached : machine.Reachable (Admits world weekMs errorS) chain) :
    (∀ nowMs event, chain.gnss.gnssLeapEvent nowMs = some event → world.NotFalse event) ∧
      world.NotFalse chain.keeper.sync.status.linkLeap ∧
      (chain.keeper.sync.status.time.known = true →
        (chain.keeper.sync.status.time.utcSeconds, chain.keeper.sync.status.time.leapSecond) =
          world.labelAt chain.keeper.count) := by
  have kept := (kept_invariant atMidnight weekMs small).reachable reached
  have keeps := (Keeper.kept_invariant world).reachable kept.keeper
  refine ⟨fun nowMs event found => ?_, keeps.link, keeps.time.label⟩
  rw [GnssLeap.gnssLeapEvent] at found
  split at found
  · cases found
  · next usable =>
      cases found
      refine Holds.notFalse kept.gnss ?_
      by_contra unset
      rw [Bool.not_eq_true] at unset
      exact usable (by rw [unset]; simp)

/-- The receiver's announcement a hundred seconds before the end of 2016, and its epoch. -/
def lastTimels : UbxNavTimels where
  timeOfWeekMs := weekTime 0 1483228700000
  timeToEventS := 101
  currentLeapSeconds := 17
  leapSecondChange := 1
  validityFlags := 3

def lastEpoch : AssembledEpoch where
  timeOfWeekMs := weekTime 0 1483228700000
  timeValid := true
  utcSeconds := 1483228700

/-- What is reported of it, and answered. -/
def lastReport : SmlTimeGnss where
  leapValid := true
  leapEventValid := true
  gpsUtcS := 17
  leapChange := 1
  leapEventUtc := 1483228800

theorem atMidnight_2016 : AtMidnight endOf2016 where
  scheduled known same := by
    cases same
    decide
  midnight event same := by
    cases same
    decide

theorem lastTimels_truly : AnnouncedTruly endOf2016 0 0 lastTimels (some lastEpoch) := by
  intro _ _ latest same _
  cases same
  exact ⟨⟨1483228800, 1⟩, 1483228700000, 1483228700000, rfl, rfl, rfl, by decide, rfl, by decide,
    by decide⟩

/-- Reported, answered, and the answer received twice. -/
def lastRound : List LeapAct :=
  [.timels lastTimels (some lastEpoch) 0, .report 0, .service (some lastReport) none true 700000,
    .received lastReport.leap, .espStarts, .received lastReport.leap]

theorem announced_truly_2016 :
    let chain := lastRound.foldl machine.step {}
    chain.keeper.sync.status.linkLeap = ⟨1483228800, 1⟩ ∧
      (∀ nowMs event, chain.gnss.gnssLeapEvent nowMs = some event → endOf2016.NotFalse event) ∧
      endOf2016.NotFalse chain.keeper.sync.status.linkLeap ∧
      (chain.keeper.sync.status.time.known = true →
        (chain.keeper.sync.status.time.utcSeconds, chain.keeper.sync.status.time.leapSecond) =
          endOf2016.labelAt chain.keeper.count) := by
  have start : machine.Reachable (Admits endOf2016 0 0) {} := .start rfl
  have told := (start.step (LeapAct.timels lastTimels (some lastEpoch) 0) lastTimels_truly).step
    (LeapAct.report 0) trivial
  have answered := told.step (LeapAct.service (some lastReport) none true 700000) (by
    intro found same
    cases same
    decide)
  have received := answered.step (LeapAct.received lastReport.leap) (by
    change lastReport.leap ∈ LeapChain.sent _
    decide)
  have again := (received.step LeapAct.espStarts trivial).step
    (LeapAct.received lastReport.leap) (by
      change lastReport.leap ∈ LeapChain.sent _
      decide)
  exact ⟨by decide, announced_truly atMidnight_2016 0 0 (by decide) _ again⟩

/-! ## One round is enough -/

theorem handleLeapSeconds_placed {gnss : GnssLeap} {timels : UbxNavTimels} {latest : AssembledEpoch}
    {eventUtc : BitVec 32} (toEvent : timels.validTimeToEvent = true)
    (changes : timels.leapSecondChange ≠ 0) (timed : latest.timeValid = true)
    (snapped : utcLeapSnap (latest.utcSeconds + (timels.timeToEventS +
      BitVec.ofInt 32 ((timeOfWeekDeltaMs latest.timeOfWeekMs timels.timeOfWeekMs).tdiv 1000)))
        gnssLeapEventToleranceS = some eventUtc) (nowMs : BitVec 32) :
    gnss.handleLeapSeconds timels (some latest) nowMs =
      { leapSeconds := timels
        hasLeapSeconds := true
        leapSecondsReceivedMs := nowMs
        hasLeapEvent := true
        leapEvent := ⟨eventUtc, timels.leapSecondChange⟩ } := by
  have usable : ¬(timels.validTimeToEvent = false ∨ timels.leapSecondChange = 0 ∨
      latest.timeValid = false) := by
    rw [toEvent, timed]
    simpa using changes
  simp only [GnssLeap.handleLeapSeconds]
  rw [if_neg usable, snapped]

theorem espReportTimeGnss_fresh {timels : UbxNavTimels} (current : timels.validCurrent = true)
    (event : UtcLeap) (nowMs : BitVec 32) :
    GnssLeap.espReportTimeGnss
        { leapSeconds := timels
          hasLeapSeconds := true
          leapSecondsReceivedMs := nowMs
          hasLeapEvent := true
          leapEvent := event } nowMs =
      { leapValid := true
        leapEventValid := true
        gpsUtcS := timels.currentLeapSeconds
        leapChange := event.change
        leapEventUtc := event.eventUtc } := by
  simp [GnssLeap.espReportTimeGnss, GnssLeap.gnssLeapSeconds, GnssLeap.gnssLeapEvent,
    GnssLeap.aged, current]

/-- An event still to come is not rolled on. -/
theorem rollOn_early {leap : SmlTimeLeap} {utcNow : Option (BitVec 32)}
    (early : ∀ utc, utcNow = some utc → utc < leap.eventUtc) :
    leap.rollOn utcNow = (false, leap) := by
  cases utcNow with
  | none => rfl
  | some utc => exact if_pos (.inr (early utc rfl))

theorem leapService_sends {esp : EspLeap} {gnss : SmlTimeGnss} {utcNow : Option (BitVec 32)}
    {nowMs : BitVec 32} (valid : gnss.leapValid = true)
    (early : ∀ utc, utcNow = some utc → utc < gnss.leap.eventUtc)
    (due : resendMs < nowMs - esp.lastSentMs) :
    (esp.leapService (some gnss) utcNow true nowMs).1 = some gnss.leap := by
  have still : gnss.leap.rollOn utcNow = (false, gnss.leap) := rollOn_early early
  have taken : (esp.takeGnss (some gnss) utcNow).held = gnss.leap ∧
      (esp.takeGnss (some gnss) utcNow).lastSentMs = esp.lastSentMs := by
    simp only [EspLeap.takeGnss]
    rw [valid, if_neg (by decide), still]
    split
    · exact ⟨rfl, rfl⟩
    · next same => exact ⟨(not_not.mp same).symm, rfl⟩
  have late : (decide (resendMs < nowMs - (esp.takeGnss (some gnss) utcNow).lastSentMs)) = true := by
    rw [taken.2]
    exact decide_eq_true due
  have set : gnss.leap.valid = true := rfl
  simp only [EspLeap.leapService, taken.1, still, set, late, Bool.or_true, Bool.not_true,
    Bool.or_self, Bool.false_eq_true, if_false, if_true]

/-- **One round is enough.** From whatever state, the receiver's announcement, a report of it,
an answer and its receipt leave the synchroniser with the leap second, as long as it is still
to come by the ESP's clock and the ESP is due to send. -/
theorem announcement_arrives (atMidnight : AtMidnight world) (chain : LeapChain)
    {timels : UbxNavTimels} {latest : AssembledEpoch} {event : UtcLeap}
    (announced : AnnouncedTruly world weekMs 0 timels (some latest))
    (current : timels.validCurrent = true) (toEvent : timels.validTimeToEvent = true)
    (timed : latest.timeValid = true)
    (changes : timels.leapSecondChange = 1 ∨ timels.leapSecondChange = -1)
    (leap : world.leap = some event) {nowMs espMs : BitVec 32} {utcNow : Option (BitVec 32)}
    (early : ∀ utc, utcNow = some utc → utc < event.eventUtc)
    (due : resendMs < espMs - chain.esp.lastSentMs) :
    ∃ report answer final,
      machine.Run (Admits world weekMs 0) chain
        [.timels timels (some latest) nowMs, .report nowMs, .service (some report) utcNow true espMs,
          .received answer] final ∧
      final.keeper.sync.status.linkLeap = event := by
  have changed : timels.leapSecondChange ≠ 0 := by
    rcases changes with inserted | deleted <;> omega
  obtain ⟨same, known, change, snapped⟩ := placed_truly atMidnight announced toEvent changed timed
  rw [leap] at known
  cases known
  have placed : chain.gnss.handleLeapSeconds timels (some latest) nowMs = _ :=
    handleLeapSeconds_placed toEvent changed timed snapped nowMs
  have reported := espReportTimeGnss_fresh current ⟨event.eventUtc, timels.leapSecondChange⟩ nowMs
  rw [← placed] at reported
  generalize told : ({ leapValid := true
                       leapEventValid := true
                       gpsUtcS := timels.currentLeapSeconds
                       leapChange := timels.leapSecondChange
                       leapEventUtc := event.eventUtc } : SmlTimeGnss) = report at reported
  have answered : report.leap = { valid := true
                                  eventPending := true
                                  sourceGnss := true
                                  taiUtcS := timels.currentLeapSeconds + 19
                                  change := event.change
                                  eventUtc := event.eventUtc } := by
    rw [change] at changed
    simp [← told, SmlTimeGnss.leap, change, changed]
  have heard : report.leap.announces = event := by
    rw [change] at changes
    rw [answered, SmlTimeLeap.announces, if_pos ⟨rfl, rfl, changes⟩]
    dsimp only
    rw [utcLeapSnap_near (atMidnight.midnight event leap) (by decide) (by simp) (by simp)]
  have sent : (chain.esp.leapService (some report) utcNow true espMs).1 = some report.leap := by
    refine leapService_sends ?_ ?_ due
    · rw [← told]
    · rw [answered]
      exact early
  have unquiet : event.change ≠ 0 := change ▸ changed
  refine ⟨report, report.leap, _, .cons _ announced (.cons _ trivial (.cons _ ?_ (.cons _ ?_ (.nil _)))),
    ?_⟩
  · intro found same
    cases same
    exact List.mem_cons.mpr (.inl reported.symm)
  · refine List.mem_append.mpr (.inl ?_)
    exact Option.mem_toList.mpr sent
  · change (if report.leap.announces.change = 0 then _ else report.leap.announces) = event
    rw [heard, if_neg unquiet]

/-- From the start, with no time of the ESP's own. -/
theorem announcement_arrives_2016 :
    ∃ report answer final,
      machine.Run (Admits endOf2016 0 0) {}
        [.timels lastTimels (some lastEpoch) 0, .report 0, .service (some report) none true 700000,
          .received answer] final ∧
      final.keeper.sync.status.linkLeap = ⟨1483228800, 1⟩ :=
  announcement_arrives atMidnight_2016 {} lastTimels_truly (by decide) (by decide) rfl (.inl rfl) rfl
    (fun _ none => by cases none) (by decide)

end LeapChain

end GpsClock.Sync
