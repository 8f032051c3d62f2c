import GpsClock.Menu.Edits
import GpsClock.Menu.Frames

/-! # A setting confirmed unchanged

A value item opened and confirmed field by field, with no step in between, writes the
settings again. Each item's load and store are each other's inverse on the item's grid and
within a step of it off the grid, all but one stretch apart: an offset of the time zone
between a quarter of an hour and an hour behind loads as no hours and some minutes, and the
minutes take the hours' sign, so it is written back ahead of UTC
(`GpsClock.Menu.confirmed_unchanged_iff`).
-/

namespace GpsClock.Menu

open Settings Display

/-- The value items of tZ, dSt, ALrM, bEEP and dISP. -/
def valueItems : List MenuItem :=
  (([.tz, .dst, .alarm, .beep, .display] : List MenuSection).flatMap MenuSection.items).filter
    fun item => 0 < item.fields

namespace MenuItem

/-- The item's own value, flags as 0 and 1; `remote`'s is the ESP's. -/
def value (item : MenuItem) (body : SmlSettingsBody) : Int :=
  match item with
  | .tzAuto => (flag body smlSettingTzAuto).toNat
  | .tzOffset => body.baseOffsetS.toInt
  | .dstAuto => (flag body smlSettingDstAuto).toNat
  | .dstActive => (flag body smlSettingDstActive).toNat
  | .dstOffset => body.dstOffsetS.toInt
  | .alarmOn => (flag body smlSettingAlarmEnabled).toNat
  | .alarmTime => body.alarmOffsetS.toNat
  | .beep => (flag body smlSettingBeepEnabled).toNat
  | .hours => (flag body smlSettingFormat12h).toNat
  | .mode => body.selectedDisplay.toNat
  | .brightness => body.brightness.toNat
  | _ => 0

/-- One step, in the unit the value is held in. -/
def grid : MenuItem → Int
  | .tzOffset | .dstOffset => 900
  | .alarmTime => 60
  | .brightness => menuBrightnessStep
  | _ => 1

/-- The value within the item's range: -12:45 to +14:45, -1 h to +2 h, and 10 % to 100 % if
the brightness is not automatic. -/
def InRange (item : MenuItem) (body : SmlSettingsBody) : Prop :=
  match item with
  | .tzOffset => -45900 ≤ body.baseOffsetS.toInt ∧ body.baseOffsetS.toInt ≤ 53100
  | .dstOffset => -3600 ≤ body.dstOffsetS.toInt ∧ body.dstOffsetS.toInt ≤ 7200
  | .brightness => flag body smlSettingBriAuto = true ∨ menuBrightnessStep ≤ body.brightness.toNat
  | _ => True

/-- What of the settings an item written back may have changed: its own value, by a step at
most, and not at all on the grid. -/
structure Kept (item : MenuItem) (before after : SmlSettingsBody) : Prop where
  others : item.others after = item.others before
  flags : after.flags = before.flags
  near : |item.value after - item.value before| ≤ item.grid
  onGrid : item.grid ∣ item.value before → after = before

/-- Behind UTC by less than an hour, and by a quarter of one at least. -/
def LosesSign (item : MenuItem) (body : SmlSettingsBody) : Prop :=
  item = .tzOffset ∧ -3600 < body.baseOffsetS.toInt ∧ body.baseOffsetS.toInt ≤ -900

/-- The settings with an item's loaded values stored again. -/
def rewritten (item : MenuItem) (body : SmlSettingsBody) (outlook : Outlook) : SmlSettingsBody :=
  (item.edit (item.load body outlook) body).getD body

end MenuItem

/-! ## Toggles -/

/-- A flag set to what it is leaves the flags as they are. -/
theorem setFlag_flag (body : SmlSettingsBody) {bit : Word} {place : Nat} (inside : place < 16)
    (one : bit = BitVec.twoPow 16 place) : setFlag body bit (flag body bit) = body := by
  subst one
  have nonzero : BitVec.twoPow 16 place ≠ 0 := by
    intro none
    have bit := congrArg (·.getLsbD place) none
    simp [inside] at bit
  suffices same : (if body.flags &&& BitVec.twoPow 16 place != 0 then
      body.flags ||| BitVec.twoPow 16 place
      else body.flags &&& ~~~BitVec.twoPow 16 place) = body.flags by
    rw [setFlag, flag, same]
  rw [BitVec.and_twoPow]
  apply BitVec.eq_of_getLsbD_eq
  intro index within
  by_cases set : body.flags.getLsbD place = true
  · rw [if_pos set, if_pos (bne_iff_ne.mpr nonzero)]
    by_cases here : place = index
    · subst here
      simp [set]
    · simp [here]
  · rw [if_neg set, if_neg (by decide)]
    by_cases here : place = index
    · subst here
      simp [set]
    · simp [Ne.symm here, within]

/-- A toggle loads as what its store takes it for. -/
theorem toggle_at (on : Bool) : ((toggle on).at 0 != 0) = on := by
  cases on <;> rfl

/-! ## Offsets in quarters of an hour -/

/-- The seconds that an offset of the time zone is written back as. -/
def tzQuarter (offset : Int) : Int :=
  tzOffsetMinutes (.of [offset.tdiv 3600, (offset.natAbs : Int) % 3600 / 900 * 15]) * 60

/-- The seconds that a DST amount within its range is written back as. -/
def dstQuarter (offset : Int) : Int := (offset.tdiv 60).tdiv 15 * 15 * 60

/-- Whole quarters of an hour next to an offset, on the same side of 0. -/
structure Quarter (offset quarter : Int) : Prop where
  near : |quarter - offset| < 900
  whole : 900 ∣ quarter
  between : 0 ≤ quarter ∧ quarter ≤ offset ∨ offset ≤ quarter ∧ quarter ≤ 0

theorem Quarter.eq_of_dvd {offset quarter : Int} (nearest : Quarter offset quarter)
    (grid : 900 ∣ offset) : quarter = offset := by
  have near := abs_lt.mp nearest.near
  obtain ⟨steps, rfl⟩ := grid
  obtain ⟨others, rfl⟩ := nearest.whole
  omega

theorem tzOffsetMinutes_of (hours minutes : Int) :
    tzOffsetMinutes (.of [hours, minutes]) =
      if hours < 0 then hours * 60 - minutes else hours * 60 + minutes :=
  rfl

/-- An offset forward is taken down to its quarter of an hour. -/
theorem tzQuarter_forward (seconds : Nat) : tzQuarter seconds = (seconds / 900 * 900 : Nat) := by
  rw [tzQuarter, tzOffsetMinutes_of, Int.natAbs_natCast,
    Int.tdiv_eq_ediv_of_nonneg (Int.natCast_nonneg seconds), if_neg (by omega)]
  omega

/-- An offset back by an hour or more as well. -/
theorem tzQuarter_back {seconds : Nat} (hour : 3600 ≤ seconds) :
    tzQuarter (-seconds) = -(seconds / 900 * 900 : Nat) := by
  rw [tzQuarter, tzOffsetMinutes_of, Int.natAbs_neg, Int.natAbs_natCast, Int.neg_tdiv,
    Int.tdiv_eq_ediv_of_nonneg (Int.natCast_nonneg seconds), if_pos (by omega)]
  omega

/-- One back by less comes out forward. -/
theorem tzQuarter_lost {seconds : Nat} (short : seconds < 3600) :
    tzQuarter (-seconds) = (seconds / 900 * 900 : Nat) := by
  rw [tzQuarter, tzOffsetMinutes_of, Int.natAbs_neg, Int.natAbs_natCast, Int.neg_tdiv,
    Int.tdiv_eq_ediv_of_nonneg (Int.natCast_nonneg seconds), if_neg (by omega)]
  omega

/-- The time zone's offsets are taken to quarters of an hour, those apart that lose their
sign. -/
theorem quarter_tzQuarter {offset : Int} (keeps : offset ≤ -3600 ∨ -900 < offset) :
    Quarter offset (tzQuarter offset) := by
  obtain ⟨seconds, rfl | rfl⟩ := offset.eq_nat_or_neg
  · rw [tzQuarter_forward]
    exact ⟨abs_lt.mpr (by omega), ⟨seconds / 900, by omega⟩, .inl (by omega)⟩
  · by_cases hour : 3600 ≤ seconds
    · rw [tzQuarter_back hour]
      exact ⟨abs_lt.mpr (by omega), ⟨-(seconds / 900 : Nat), by omega⟩, .inr (by omega)⟩
    · rw [tzQuarter_lost (by omega)]
      exact ⟨abs_lt.mpr (by omega), ⟨seconds / 900, by omega⟩, .inr (by omega)⟩

theorem quarter_dstQuarter (offset : Int) : Quarter offset (dstQuarter offset) := by
  have whole (seconds : Nat) : ((seconds : Int).tdiv 60).tdiv 15 = seconds / 60 / 15 := by
    rw [Int.tdiv_eq_ediv_of_nonneg (Int.natCast_nonneg seconds),
      Int.tdiv_eq_ediv_of_nonneg (by omega)]
  rw [dstQuarter]
  obtain ⟨seconds, rfl | rfl⟩ := offset.eq_nat_or_neg
  · rw [whole]
    exact ⟨abs_lt.mpr (by omega), ⟨seconds / 900, by omega⟩, .inl (by omega)⟩
  · rw [Int.neg_tdiv, Int.neg_tdiv, whole]
    exact ⟨abs_lt.mpr (by omega), ⟨-(seconds / 900 : Nat), by omega⟩, .inr (by omega)⟩

/-! ## The settings written -/

/-- What `settings_check` asks. -/
theorem settingsCheck_iff (body : SmlSettingsBody) :
    settingsCheck body = .none ↔
      (body.schemaVersion = smlSettingsSchema ∧ body.flags &&& ~~~flagsDefined = 0 ∧
          body.reserved = 0 ∧ fcy - foscLimitHz ≤ body.calibrationFoscHz ∧
          body.calibrationFoscHz ≤ fcy + foscLimitHz) ∧
        smlDisplaySelectable body.selectedDisplay = true ∧
        offsetOk body.baseOffsetS = true ∧ offsetOk body.dstOffsetS = true ∧
        body.alarmOffsetS < secondsPerDay ∧ body.brightness ≤ tubesBrightnessFull := by
  rw [settingsCheck]
  by_cases schema : body.schemaVersion = smlSettingsSchema
  · rw [if_neg (not_not.mpr schema)]
    simp [schema]
    tauto
  · rw [if_pos schema]
    simp [schema]

namespace MenuItem

variable {body : SmlSettingsBody} {item : MenuItem}

/-- What is written back passes the check, differs from what was read as it may, and is
written back as it is. -/
structure Restored (item : MenuItem) (body after : SmlSettingsBody) : Prop where
  valid : settingsCheck after = .none
  kept : item.Kept body after
  again : ∀ outlook, item.rewritten after outlook = after

theorem Restored.of_same (valid : settingsCheck body = .none)
    (same : ∀ outlook, item.rewritten body outlook = body) (outlook : Outlook) :
    item.Restored body (item.rewritten body outlook) := by
  rw [same]
  refine ⟨valid, ⟨rfl, rfl, ?_, fun _ => rfl⟩, same⟩
  rw [sub_self, abs_zero]
  unfold grid
  split <;> decide

/-- A toggle is written back as it is. -/
theorem restored_toggle (valid : settingsCheck body = .none) {bit : Word} {place : Nat}
    (inside : place < 16) (one : bit = BitVec.twoPow 16 place)
    (load : ∀ outlook, item.load body outlook = toggle (flag body bit))
    (edit : ∀ values, item.edit values body = some (setFlag body bit (values.at 0 != 0)))
    (outlook : Outlook) : item.Restored body (item.rewritten body outlook) := by
  apply Restored.of_same valid
  intro outlook
  rw [rewritten, load, edit, toggle_at, setFlag_flag body inside one]
  rfl

/-- A mode is written back as it is. -/
theorem restored_mode (valid : settingsCheck body = .none) (outlook : Outlook) :
    mode.Restored body (mode.rewritten body outlook) := by
  apply Restored.of_same valid
  intro outlook
  have selectable := ((settingsCheck_iff body).mp valid).2.1
  have found : modeCodes.getD (((List.range displayModeCount).foldl
      (fun found index => if modeCodes.getD index 0 = body.selectedDisplay then index else found)
      0 : Nat) : Int).toNat 0 = body.selectedDisplay := by
    generalize body.selectedDisplay = code at selectable ⊢
    revert code
    decide
  exact congrArg (fun code => { body with selectedDisplay := code }) found

theorem toInt_ofInt_of_small {value : Int} (low : -100000 ≤ value) (high : value ≤ 100000) :
    (BitVec.ofInt 32 value).toInt = value := by
  rw [BitVec.toInt_ofInt, Int.bmod_eq_of_le (by omega) (by omega)]

theorem offsetOk_ofInt {value : Int} (low : -86399 ≤ value) (high : value ≤ 86399) :
    offsetOk (BitVec.ofInt 32 value) = true := by
  rw [offsetOk, toInt_ofInt_of_small (by omega) (by omega), timezoneOffsetLimitS,
    decide_eq_true low, decide_eq_true high]
  rfl

theorem rewritten_tzOffset (body : SmlSettingsBody) (outlook : Outlook) :
    tzOffset.rewritten body outlook =
      { body with baseOffsetS := BitVec.ofInt 32 (tzQuarter body.baseOffsetS.toInt) } := rfl

theorem restored_tzOffset (valid : settingsCheck body = .none)
    (range : tzOffset.InRange body) (keeps : ¬tzOffset.LosesSign body) (outlook : Outlook) :
    tzOffset.Restored body (tzOffset.rewritten body outlook) := by
  have nearest : Quarter body.baseOffsetS.toInt (tzQuarter body.baseOffsetS.toInt) := by
    apply quarter_tzQuarter
    by_contra lost
    exact keeps ⟨rfl, by omega, by omega⟩
  obtain ⟨low, high⟩ : -45900 ≤ body.baseOffsetS.toInt ∧ body.baseOffsetS.toInt ≤ 53100 := range
  have between := nearest.between
  have back : (BitVec.ofInt 32 (tzQuarter body.baseOffsetS.toInt)).toInt =
      tzQuarter body.baseOffsetS.toInt := toInt_ofInt_of_small (by omega) (by omega)
  rw [rewritten_tzOffset]
  refine ⟨?_, ⟨rfl, rfl, ?_, fun grid => ?_⟩, fun _ => ?_⟩
  · obtain ⟨rest, display, -, dst, alarm, bright⟩ := (settingsCheck_iff body).mp valid
    exact (settingsCheck_iff _).mpr
      ⟨rest, display, offsetOk_ofInt (by omega) (by omega), dst, alarm, bright⟩
  · change |(BitVec.ofInt 32 _).toInt - _| ≤ 900
    rw [back]
    exact nearest.near.le
  · rw [nearest.eq_of_dvd grid, BitVec.ofInt_toInt]
  · -- a quarter of an hour that has kept its sign is taken to itself
    obtain ⟨steps, whole⟩ := nearest.whole
    have near := abs_lt.mp nearest.near
    have settled : tzQuarter (tzQuarter body.baseOffsetS.toInt) = tzQuarter body.baseOffsetS.toInt :=
      (quarter_tzQuarter (by
        by_contra lost
        exact keeps ⟨rfl, by omega, by omega⟩)).eq_of_dvd nearest.whole
    rw [rewritten_tzOffset, back, settled]

theorem rewritten_dstOffset {body : SmlSettingsBody} (range : dstOffset.InRange body)
    (outlook : Outlook) :
    dstOffset.rewritten body outlook =
      { body with dstOffsetS := BitVec.ofInt 32 (dstQuarter body.dstOffsetS.toInt) } := by
  obtain ⟨low, high⟩ : -3600 ≤ body.dstOffsetS.toInt ∧ body.dstOffsetS.toInt ≤ 7200 := range
  have between := (quarter_dstQuarter body.dstOffsetS.toInt).between
  rw [dstQuarter] at between
  change { body with dstOffsetS := BitVec.ofInt 32 ((if (body.dstOffsetS.toInt.tdiv 60).tdiv 15 * 15
      < -60 then -60 else if 120 < (body.dstOffsetS.toInt.tdiv 60).tdiv 15 * 15 then 120
      else (body.dstOffsetS.toInt.tdiv 60).tdiv 15 * 15) * 60) } = _
  rw [if_neg (by omega), if_neg (by omega), dstQuarter]

theorem restored_dstOffset (valid : settingsCheck body = .none)
    (range : dstOffset.InRange body) (outlook : Outlook) :
    dstOffset.Restored body (dstOffset.rewritten body outlook) := by
  have nearest := quarter_dstQuarter body.dstOffsetS.toInt
  have between := nearest.between
  have bounds : -3600 ≤ body.dstOffsetS.toInt ∧ body.dstOffsetS.toInt ≤ 7200 := range
  have back : (BitVec.ofInt 32 (dstQuarter body.dstOffsetS.toInt)).toInt =
      dstQuarter body.dstOffsetS.toInt := toInt_ofInt_of_small (by omega) (by omega)
  rw [rewritten_dstOffset range]
  refine ⟨?_, ⟨rfl, rfl, ?_, fun grid => ?_⟩, fun _ => ?_⟩
  · obtain ⟨rest, display, base, -, alarm, bright⟩ := (settingsCheck_iff body).mp valid
    exact (settingsCheck_iff _).mpr
      ⟨rest, display, base, offsetOk_ofInt (by omega) (by omega), alarm, bright⟩
  · change |(BitVec.ofInt 32 _).toInt - _| ≤ 900
    rw [back]
    exact nearest.near.le
  · rw [nearest.eq_of_dvd grid, BitVec.ofInt_toInt]
  · have inside : dstOffset.InRange
        { body with dstOffsetS := BitVec.ofInt 32 (dstQuarter body.dstOffsetS.toInt) } := by
      change -3600 ≤ (BitVec.ofInt 32 _).toInt ∧ (BitVec.ofInt 32 _).toInt ≤ 7200
      rw [back]
      omega
    rw [rewritten_dstOffset inside, back,
      (quarter_dstQuarter (dstQuarter body.dstOffsetS.toInt)).eq_of_dvd nearest.whole]

theorem rewritten_alarmTime (body : SmlSettingsBody) (outlook : Outlook) :
    alarmTime.rewritten body outlook =
      { body with alarmOffsetS := BitVec.ofNat 32 (body.alarmOffsetS.toNat / 60 * 60) } := by
  have minutes : (body.alarmOffsetS.toNat : Int) / 3600 * 3600 +
      body.alarmOffsetS.toNat / 60 % 60 * 60 = (body.alarmOffsetS.toNat / 60 * 60 : Nat) := by
    omega
  change { body with alarmOffsetS := BitVec.ofInt 32 ((body.alarmOffsetS.toNat : Int) / 3600 * 3600 +
    body.alarmOffsetS.toNat / 60 % 60 * 60) } = _
  rw [minutes, BitVec.ofInt_natCast]

theorem restored_alarmTime (valid : settingsCheck body = .none) (outlook : Outlook) :
    alarmTime.Restored body (alarmTime.rewritten body outlook) := by
  have range := body.alarmOffsetS.isLt
  have back : (BitVec.ofNat 32 (body.alarmOffsetS.toNat / 60 * 60)).toNat =
      body.alarmOffsetS.toNat / 60 * 60 := Nat.mod_eq_of_lt (by omega)
  rw [rewritten_alarmTime]
  refine ⟨?_, ⟨rfl, rfl, ?_, fun grid => ?_⟩, fun _ => ?_⟩
  · obtain ⟨rest, display, base, dst, alarm, bright⟩ := (settingsCheck_iff body).mp valid
    refine (settingsCheck_iff _).mpr ⟨rest, display, base, dst, ?_, bright⟩
    have day : body.alarmOffsetS.toNat < 86400 := alarm
    change (BitVec.ofNat 32 _).toNat < 86400
    rw [back]
    omega
  · change |((BitVec.ofNat 32 _).toNat : Int) - body.alarmOffsetS.toNat| ≤ 60
    rw [back]
    exact abs_le.mpr (by omega)
  · have whole : (60 : Int) ∣ body.alarmOffsetS.toNat := grid
    rw [show body.alarmOffsetS.toNat / 60 * 60 = body.alarmOffsetS.toNat by omega,
      BitVec.ofNat_toNat, BitVec.setWidth_eq]
  · rw [rewritten_alarmTime, back, Nat.mul_div_cancel _ (by decide)]

/-- The tenths a brightness is shown as. -/
def tenths (brightness : Word) : Nat :=
  (brightness.toNat + menuBrightnessStep / 2) / menuBrightnessStep

theorem setFlag_briAuto (body : SmlSettingsBody) :
    setFlag body smlSettingBriAuto (flag body smlSettingBriAuto) = body :=
  setFlag_flag body (show 6 < 16 by decide) rfl

theorem level_of_inRange {body : SmlSettingsBody} (range : brightness.InRange body)
    (automatic : flag body smlSettingBriAuto = false) : 400 ≤ body.brightness.toNat := by
  obtain set | level := range
  · rw [automatic] at set
    cases set
  · exact level

theorem brightnessLoad_tenths {body : SmlSettingsBody} (level : 400 ≤ body.brightness.toNat)
    (automatic : flag body smlSettingBriAuto = false) :
    brightnessLoad body = .of [(tenths body.brightness : Int)] := by
  have some_ : 1 ≤ tenths body.brightness := by
    rw [tenths, menuBrightnessStep]
    omega
  rw [brightnessLoad, automatic, if_neg Bool.false_ne_true]
  change Fields.of [if tenths body.brightness < 1 then 1 else (tenths body.brightness : Int)] = _
  rw [if_neg (by omega)]

/-- The level is taken to a tenth, the nearest, if it is not automatic. -/
theorem rewritten_brightness {body : SmlSettingsBody} (range : brightness.InRange body)
    (outlook : Outlook) :
    brightness.rewritten body outlook =
      if flag body smlSettingBriAuto then body
      else { body with brightness := BitVec.ofNat 16 (tenths body.brightness * 400) } := by
  have kept := setFlag_briAuto body
  cases automatic : flag body smlSettingBriAuto with
  | true =>
      rw [automatic] at kept
      change (some (brightnessStore (brightnessLoad body) body)).getD body = body
      rw [brightnessLoad, automatic]
      exact kept
  | false =>
      rw [automatic] at kept
      have level := level_of_inRange range automatic
      have differs : (tenths body.brightness : Int) ≠ 0 := by
        rw [tenths, menuBrightnessStep]
        omega
      change (some (brightnessStore (brightnessLoad body) body)).getD body = _
      rw [brightnessLoad_tenths level automatic, if_neg Bool.false_ne_true]
      change (if (tenths body.brightness : Int) ≠ 0 then
        { setFlag body smlSettingBriAuto ((tenths body.brightness : Int) == 0) with
          brightness := BitVec.ofInt 16 ((tenths body.brightness : Int) * 400) }
        else _) = _
      rw [if_pos differs, beq_eq_false_iff_ne.mpr differs, kept]
      rw [show (tenths body.brightness : Int) * 400 = (tenths body.brightness * 400 : Nat) by
        push_cast
        rfl, BitVec.ofInt_natCast]

theorem restored_brightness (valid : settingsCheck body = .none)
    (range : brightness.InRange body) (outlook : Outlook) :
    brightness.Restored body (brightness.rewritten body outlook) := by
  cases automatic : flag body smlSettingBriAuto with
  | true =>
      apply Restored.of_same valid
      intro outlook
      rw [rewritten_brightness range, automatic]
      rfl
  | false =>
      have level := level_of_inRange range automatic
      obtain ⟨rest, display, base, dst, alarm, bright⟩ := (settingsCheck_iff body).mp valid
      have full : body.brightness.toNat ≤ 4000 := bright
      have nearest : tenths body.brightness * 400 ≤ body.brightness.toNat + 200 ∧
          body.brightness.toNat ≤ tenths body.brightness * 400 + 200 := by
        rw [tenths, menuBrightnessStep]
        omega
      have back : (BitVec.ofNat 16 (tenths body.brightness * 400)).toNat =
          tenths body.brightness * 400 := Nat.mod_eq_of_lt (by omega)
      rw [rewritten_brightness range, automatic, if_neg Bool.false_ne_true]
      refine ⟨?_, ⟨rfl, rfl, ?_, fun grid => ?_⟩, fun _ => ?_⟩
      · refine (settingsCheck_iff _).mpr ⟨rest, display, base, dst, alarm, ?_⟩
        change (BitVec.ofNat 16 _).toNat ≤ 4000
        rw [back]
        omega
      · change |((BitVec.ofNat 16 _).toNat : Int) - body.brightness.toNat| ≤ 400
        rw [back]
        exact abs_le.mpr (by omega)
      · have whole : (400 : Int) ∣ body.brightness.toNat := grid
        rw [show tenths body.brightness * 400 = body.brightness.toNat by omega,
          BitVec.ofNat_toNat, BitVec.setWidth_eq]
      · have inside : brightness.InRange
            { body with brightness := BitVec.ofNat 16 (tenths body.brightness * 400) } := by
          refine .inr ?_
          change 400 ≤ (BitVec.ofNat 16 _).toNat
          rw [back]
          omega
        have settled : tenths (BitVec.ofNat 16 (tenths body.brightness * 400)) =
            tenths body.brightness := by
          generalize tenths body.brightness = count at back
          rw [tenths, back, menuBrightnessStep]
          omega
        rw [rewritten_brightness inside]
        change (if flag body smlSettingBriAuto then _ else
          { body with brightness := BitVec.ofNat 16 (tenths (BitVec.ofNat 16
            (tenths body.brightness * 400)) * 400) }) = _
        rw [automatic, if_neg Bool.false_ne_true, settled]

/-- Every value item but the time zone's offset where it loses its sign. -/
theorem restored (value : item ∈ valueItems) (valid : settingsCheck body = .none)
    (range : item.InRange body) (keeps : ¬item.LosesSign body) (outlook : Outlook) :
    item.Restored body (item.rewritten body outlook) := by
  cases item with
  | tzAuto => exact restored_toggle valid (show 0 < 16 by decide) rfl (fun _ => rfl) (fun _ => rfl) _
  | tzOffset => exact restored_tzOffset valid range keeps outlook
  | remote => exact .of_same valid (fun _ => rfl) outlook
  | dstAuto => exact restored_toggle valid (show 1 < 16 by decide) rfl (fun _ => rfl) (fun _ => rfl) _
  | dstActive => exact restored_toggle valid (show 2 < 16 by decide) rfl (fun _ => rfl) (fun _ => rfl) _
  | dstOffset => exact restored_dstOffset valid range outlook
  | alarmOn => exact restored_toggle valid (show 3 < 16 by decide) rfl (fun _ => rfl) (fun _ => rfl) _
  | alarmTime => exact restored_alarmTime valid outlook
  | beep => exact restored_toggle valid (show 4 < 16 by decide) rfl (fun _ => rfl) (fun _ => rfl) _
  | hours => exact restored_toggle valid (show 5 < 16 by decide) rfl (fun _ => rfl) (fun _ => rfl) _
  | mode => exact restored_mode valid outlook
  | brightness => exact restored_brightness valid range outlook
  | opens into => cases into <;> exact absurd value (by decide)
  | title | time | resetWifi | resetSettings | resetAll | back | exit =>
      exact absurd value (by decide)

end MenuItem

/-! ## What is shown -/

namespace MenuItem

/-- A frame that shows an item's value as the settings hold it, or as the ESP is asked
for it. -/
def Shows (item : MenuItem) (frame : TubesFrame) (body : SmlSettingsBody)
    (asked : Option (Word × BitVec 32)) : Prop :=
  match item with
  | .tzAuto => frame = toggleFrame autoText manText (flag body smlSettingTzAuto)
  | .tzOffset => ∃ minutes, readOffset frame = some minutes ∧ body.baseOffsetS.toInt = minutes * 60
  | .remote => ∃ on, frame = toggleFrame ['r', ' ', 'O', 'N'] ['r', 'O', 'F', 'F'] on ∧
      asked = some (smlUserEspTzRemote, if on then 1 else 0)
  | .dstAuto => frame = toggleFrame autoText manText (flag body smlSettingDstAuto)
  | .dstActive => frame = toggleFrame onText offText (flag body smlSettingDstActive)
  | .dstOffset => ∃ minutes, readOffset frame = some minutes ∧ body.dstOffsetS.toInt = minutes * 60
  | .alarmOn => frame = toggleFrame onText offText (flag body smlSettingAlarmEnabled)
  | .alarmTime => ∃ minutes, readMinutes frame = some minutes ∧ body.alarmOffsetS.toNat = minutes * 60
  | .beep => frame = toggleFrame onText offText (flag body smlSettingBeepEnabled)
  | .hours =>
      frame = toggleFrame [' ', ' ', '1', '2'] [' ', ' ', '2', '4'] (flag body smlSettingFormat12h)
  | .mode => ∃ place < displayModeCount, frame = frameText {} (modeNames.getD place []) ∧
      body.selectedDisplay = modeCodes.getD place 0
  | .brightness =>
      if flag body smlSettingBriAuto then frame = frameText {} autoText
      else ∃ percent, readPercent frame = some percent ∧ body.brightness.toNat = percent * 40
  | _ => False

variable {body : SmlSettingsBody} {item : MenuItem}

theorem toggleRender_toggle (on off : List Char) (set : Bool) :
    toggleRender on off (toggle set) false = toggleFrame on off set := by
  cases set <;> rfl

theorem shows_tzOffset (range : tzOffset.InRange body) (keeps : ¬tzOffset.LosesSign body)
    (outlook : Outlook) (asked : Option (Word × BitVec 32)) :
    tzOffset.Shows (tzOffset.render (tzOffset.load body outlook) none false)
      (tzOffset.rewritten body outlook) asked := by
  have nearest : Quarter body.baseOffsetS.toInt (tzQuarter body.baseOffsetS.toInt) := by
    apply quarter_tzQuarter
    by_contra lost
    exact keeps ⟨rfl, by omega, by omega⟩
  have bounds : -45900 ≤ body.baseOffsetS.toInt ∧ body.baseOffsetS.toInt ≤ 53100 := range
  have between := nearest.between
  have seconds : tzQuarter body.baseOffsetS.toInt = tzOffsetMinutes (tzOffsetLoad body) * 60 := rfl
  have small : (tzOffsetMinutes (tzOffsetLoad body)).natAbs < 6000 := by omega
  refine ⟨tzOffsetMinutes (tzOffsetLoad body), readOffset_renderOffsetMinutes small, ?_⟩
  rw [rewritten_tzOffset]
  change (BitVec.ofInt 32 _).toInt = _
  rw [toInt_ofInt_of_small (by omega) (by omega), seconds]

theorem shows_dstOffset (range : dstOffset.InRange body) (outlook : Outlook)
    (asked : Option (Word × BitVec 32)) :
    dstOffset.Shows (dstOffset.render (dstOffset.load body outlook) none false)
      (dstOffset.rewritten body outlook) asked := by
  have nearest := quarter_dstQuarter body.dstOffsetS.toInt
  have bounds : -3600 ≤ body.dstOffsetS.toInt ∧ body.dstOffsetS.toInt ≤ 7200 := range
  have between := nearest.between
  have seconds : dstQuarter body.dstOffsetS.toInt =
      (body.dstOffsetS.toInt.tdiv 60).tdiv 15 * 15 * 60 := rfl
  have loaded : (dstOffsetLoad body).at 0 = (body.dstOffsetS.toInt.tdiv 60).tdiv 15 * 15 := by
    change (if (body.dstOffsetS.toInt.tdiv 60).tdiv 15 * 15 < -60 then -60 else
      if 120 < (body.dstOffsetS.toInt.tdiv 60).tdiv 15 * 15 then 120 else _) = _
    rw [if_neg (by omega), if_neg (by omega)]
  have small : ((dstOffsetLoad body).at 0).natAbs < 6000 := by
    rw [loaded]
    omega
  refine ⟨(dstOffsetLoad body).at 0, readOffset_renderOffsetMinutes small, ?_⟩
  · rw [rewritten_dstOffset range, loaded, ← seconds]
    exact toInt_ofInt_of_small (by omega) (by omega)

theorem shows_alarmTime (valid : settingsCheck body = .none) (outlook : Outlook)
    (asked : Option (Word × BitVec 32)) :
    alarmTime.Shows (alarmTime.render (alarmTime.load body outlook) none false)
      (alarmTime.rewritten body outlook) asked := by
  have day : body.alarmOffsetS.toNat < 86400 := ((settingsCheck_iff body).mp valid).2.2.2.2.1
  have hours : body.alarmOffsetS.toNat / 3600 < 100 := by omega
  have minutes : body.alarmOffsetS.toNat / 60 % 60 < 100 := by omega
  have nested : body.alarmOffsetS.toNat / 60 / 60 = body.alarmOffsetS.toNat / 3600 :=
    Nat.div_div_eq_div_mul _ 60 60
  refine ⟨body.alarmOffsetS.toNat / 3600 * 60 + body.alarmOffsetS.toNat / 60 % 60, ?_, ?_⟩
  · exact readMinutes_hhMmRender hours minutes
  · rw [rewritten_alarmTime]
    change (BitVec.ofNat 32 _).toNat = _
    rw [BitVec.toNat_ofNat]
    omega

theorem shows_mode (outlook : Outlook) (asked : Option (Word × BitVec 32)) :
    mode.Shows (mode.render (mode.load body outlook) none false) (mode.rewritten body outlook)
      asked := by
  have found (code : Byte) : (List.range displayModeCount).foldl
      (fun found index => if modeCodes.getD index 0 = code then index else found) 0 <
        displayModeCount := by
    revert code
    decide
  exact ⟨_, found body.selectedDisplay, rfl, rfl⟩

theorem shows_brightness (valid : settingsCheck body = .none) (range : brightness.InRange body)
    (outlook : Outlook) (asked : Option (Word × BitVec 32)) :
    brightness.Shows (brightness.render (brightness.load body outlook) none false)
      (brightness.rewritten body outlook) asked := by
  rw [rewritten_brightness range]
  cases automatic : flag body smlSettingBriAuto with
  | true =>
      rw [if_pos rfl, Shows, automatic, if_pos rfl]
      change brightnessRender (brightnessLoad body) false = _
      rw [brightnessLoad, automatic]
      rfl
  | false =>
      have level : 400 ≤ body.brightness.toNat := level_of_inRange range automatic
      have full : body.brightness.toNat ≤ 4000 := ((settingsCheck_iff body).mp valid).2.2.2.2.2
      have most : 1 ≤ tenths body.brightness ∧ tenths body.brightness ≤ 10 := by
        rw [tenths, menuBrightnessStep]
        omega
      rw [if_neg Bool.false_ne_true, Shows]
      refine (if_neg (ne_true_of_eq_false automatic)).mpr ⟨tenths body.brightness * 10, ?_, ?_⟩
      · change readPercent (brightnessRender (brightnessLoad body) false) = _
        rw [brightnessLoad_tenths level automatic]
        exact readPercent_brightnessRender most.1 most.2
      · change (BitVec.ofNat 16 _).toNat = _
        rw [BitVec.toNat_ofNat]
        omega

/-- What is drawn while moving through is the value that is written back. -/
theorem shows (value : item ∈ valueItems) (valid : settingsCheck body = .none)
    (range : item.InRange body) (keeps : ¬item.LosesSign body) (outlook : Outlook)
    {asked : Option (Word × BitVec 32)}
    (request : item = .remote →
      asked = some (smlUserEspTzRemote, if outlook.remoteTz.getD false then 1 else 0)) :
    item.Shows (item.render (item.load body outlook) none false) (item.rewritten body outlook)
      asked := by
  have kept := (restored value valid range keeps outlook).kept.flags
  cases item with
  | tzOffset => exact shows_tzOffset range keeps outlook asked
  | dstOffset => exact shows_dstOffset range outlook asked
  | alarmTime => exact shows_alarmTime valid outlook asked
  | mode => exact shows_mode outlook asked
  | brightness => exact shows_brightness valid range outlook asked
  | remote => exact ⟨outlook.remoteTz.getD false, toggleRender_toggle _ _ _, request rfl⟩
  | tzAuto | dstAuto | dstActive | alarmOn | beep | hours =>
      rw [Shows, flag, kept]
      exact toggleRender_toggle _ _ _
  | opens into => cases into <;> exact absurd value (by decide)
  | title | time | resetWifi | resetSettings | resetAll | back | exit =>
      exact absurd value (by decide)

end MenuItem

/-! ## Passing through an item -/

namespace Desk

/-- An item opened and its fields confirmed one after another. -/
def passedThrough (desk : Desk) (opens : MenuInput) (confirms : List MenuInput) : Desk :=
  confirms.foldl confirm (desk.moveLong opens)

/-- What the ESP was asked last. -/
def lastRequest (desk : Desk) : Option (Word × BitVec 32) :=
  desk.calls.findSome? fun
    | .espRequest command argument => some (command, argument)
    | _ => none

variable {desk : Desk}

theorem moveLong_value (value : desk.menu.current ∈ valueItems) (opens : MenuInput) :
    desk.moveLong opens = desk.startEditing opens := by
  rw [moveLong]
  split
  · next title => exact absurd value (by rw [title]; decide)
  · next exit => exact absurd value (by rw [exit]; decide)
  · next place into => exact absurd value (by rw [into]; cases place <;> decide)
  · next back => exact absurd value (by rw [back]; decide)
  · rfl

/-- An edit about to be stored, its values as they were loaded. -/
structure Ready (desk ready : Desk) (values : Fields) : Prop where
  current : ready.menu.current = desk.menu.current
  values : ready.menu.values = values
  work : ready.menu.work = desk.body
  settings : ready.settings = desk.settings

theorem startEditing_ready (desk : Desk) (opens : MenuInput) :
    Ready desk (desk.startEditing opens)
      (desk.menu.current.load desk.body (desk.outlook opens)) where
  current := by
    rw [startEditing, preview_menu]
    rfl
  values := by
    rw [startEditing, preview_menu]
    rfl
  work := by
    rw [startEditing, preview_menu]
    rfl
  settings := by rw [startEditing, preview_settings]

theorem fields_of_valueItems {item : MenuItem} (value : item ∈ valueItems) :
    item.fields = 1 ∨ item = .tzOffset ∨ item = .alarmTime := by
  cases item with
  | tzOffset => exact .inr (.inl rfl)
  | alarmTime => exact .inr (.inr rfl)
  | opens into => cases into <;> exact absurd value (by decide)
  | title | time | back | exit => exact absurd value (by decide)
  | tzAuto | remote | dstAuto | dstActive | dstOffset | alarmOn | beep | hours | mode | brightness
  | resetWifi | resetSettings | resetAll => exact .inl rfl

theorem within_eq {limits : Limits} {value : Int} (low : limits.low ≤ value)
    (high : value ≤ limits.high) : within limits value = value := by
  rw [within, if_neg (by omega), if_neg (by omega)]

/-- The second field of an item of two is within its range as it is loaded. -/
theorem within_loaded {item : MenuItem} (two : item = .tzOffset ∨ item = .alarmTime)
    (body : SmlSettingsBody) (outlook : Outlook) :
    (item.load body outlook).set 1 (within (item.limits (item.load body outlook) 1)
      ((item.load body outlook).at 1)) = item.load body outlook := by
  obtain rfl | rfl := two
  · change (tzOffsetLoad body).set 1 (within ⟨0, 45, 15⟩
      ((body.baseOffsetS.toInt.natAbs : Int) % 3600 / 900 * 15)) = tzOffsetLoad body
    rw [within_eq (by change 0 ≤ _; omega) (by change _ ≤ 45; omega)]
    rfl
  · change (alarmTimeLoad body).set 1 (within ⟨0, 59, 1⟩
      ((body.alarmOffsetS.toNat : Int) / 60 % 60)) = alarmTimeLoad body
    rw [within_eq (by change 0 ≤ _; omega) (by change _ ≤ 59; omega)]
    rfl

/-- Confirmed without a step, an item's last field finds the values as they were loaded. -/
theorem passedThrough_eq (value : desk.menu.current ∈ valueItems) (opens : MenuInput)
    {confirms : List MenuInput} (all : confirms.length = desk.menu.current.fields) :
    ∃ ready last, desk.passedThrough opens confirms = (ready.store last).stopEditing ∧
      Ready desk ready (desk.menu.current.load desk.body (desk.outlook opens)) := by
  have started := startEditing_ready desk opens
  have first : (desk.startEditing opens).menu.field = 0 := by
    rw [startEditing, preview_menu]
  rw [passedThrough, moveLong_value value]
  obtain one | two := fields_of_valueItems value
  · obtain ⟨last, rfl⟩ := List.length_eq_one_iff.mp (all.trans one)
    refine ⟨desk.startEditing opens, last, ?_, started⟩
    rw [List.foldl_cons, List.foldl_nil, confirm]
    dsimp only
    rw [first, started.current, one, if_neg (by decide)]
  · have fields : desk.menu.current.fields = 2 := by
      obtain here | here := two <;> rw [here] <;> rfl
    obtain ⟨once, last, rfl⟩ := List.length_eq_two.mp (all.trans fields)
    -- the first field confirmed leaves the second one's value, which is within its range
    have onward : (desk.startEditing opens).confirm once =
        { desk.startEditing opens with
          menu :=
            { (desk.startEditing opens).menu with
              field := 1
              values := desk.menu.current.load desk.body (desk.outlook opens)
              flashStartMs := once.nowMs } } := by
      rw [confirm]
      dsimp only
      rw [first, started.current, fields, if_pos (by decide), started.values,
        within_loaded two]
    refine ⟨(desk.startEditing opens).confirm once, last, ?_, ?_⟩
    · rw [List.foldl_cons, List.foldl_cons, List.foldl_nil, onward, confirm]
      refine if_neg ?_
      change ¬1 + 1 < (desk.startEditing opens).menu.current.fields
      rw [started.current, fields]
      decide
    · rw [onward]
      exact ⟨started.current, rfl, started.work, started.settings⟩

/-- A store of settings writes what the check passes. -/
theorem writeSettings_spec (desk : Desk) {body : SmlSettingsBody}
    (valid : settingsCheck body = .none) :
    (desk.writeSettings body).body = body ∧
      (desk.writeSettings body).menu.current = desk.menu.current := by
  obtain ⟨refused, -⟩ | ⟨-, same, written⟩ | ⟨-, -, written⟩ :=
    desk.settings.settingsWrite_cases body
  · exact absurd valid refused
  · rw [writeSettings, written]
    exact ⟨same.symm, rfl⟩
  · rw [writeSettings, written]
    exact ⟨rfl, rfl⟩

/-- An item passed through without a step has its loaded values stored again. -/
theorem passedThrough_body (value : desk.menu.current ∈ valueItems) (opens : MenuInput)
    {confirms : List MenuInput} (all : confirms.length = desk.menu.current.fields)
    (valid : settingsCheck (desk.menu.current.rewritten desk.body (desk.outlook opens)) = .none) :
    (desk.passedThrough opens confirms).body =
        desk.menu.current.rewritten desk.body (desk.outlook opens) ∧
      (desk.passedThrough opens confirms).menu.current = desk.menu.current := by
  obtain ⟨ready, last, passed, loaded⟩ := passedThrough_eq value opens all
  have same : ready.body = desk.body := by rw [body, loaded.settings, body]
  rw [passed, stopEditing_body]
  have current : (ready.store last).stopEditing.menu.current = (ready.store last).menu.current :=
    rfl
  rw [current, MenuItem.rewritten] at *
  cases edited : desk.menu.current.edit (desk.menu.current.load desk.body (desk.outlook opens))
      desk.body with
  | some written =>
      rw [edited] at valid
      obtain ⟨becomes, stays⟩ := ready.writeSettings_spec valid
      rw [store, loaded.current, loaded.values, loaded.work, edited]
      exact ⟨becomes, stays.trans loaded.current⟩
  | none =>
      -- only the ESP's item stores nothing in the settings
      have remote : desk.menu.current = .remote := by
        generalize desk.menu.current = item at value edited
        cases item with
        | remote => rfl
        | opens into => cases into <;> exact absurd value (by decide)
        | title | time | back | exit | resetWifi | resetSettings | resetAll =>
            exact absurd value (by decide)
        | tzAuto | tzOffset | dstAuto | dstActive | dstOffset | alarmOn | alarmTime | beep | hours
        | mode | brightness => cases edited
      rw [store, loaded.current, loaded.values, loaded.work, edited, remote]
      exact ⟨same, loaded.current.trans remote⟩

/-- The ESP's item passed through asks it for what was loaded. -/
theorem passedThrough_asks (remote : desk.menu.current = .remote) (opens : MenuInput)
    {confirms : List MenuInput} (all : confirms.length = desk.menu.current.fields) :
    (desk.passedThrough opens confirms).lastRequest =
      some (smlUserEspTzRemote, if opens.remoteTz.getD false then 1 else 0) := by
  obtain ⟨ready, last, passed, loaded⟩ :=
    passedThrough_eq (by rw [remote]; decide) opens all
  have here := loaded.current.trans remote
  have values : ready.menu.values = toggle (opens.remoteTz.getD false) := by
    rw [loaded.values, remote]
    rfl
  have stored : ready.store last = ready.remoteStore last := by
    rw [store, here]
    rfl
  have elsewhere : (ready.remoteStore last).menu.current ≠ .brightness := by
    change ready.menu.current ≠ .brightness
    rw [here]
    decide
  rw [passed, stored, stopEditing, preview, if_pos elsewhere]
  change some (smlUserEspTzRemote, if ready.menu.values.at 0 ≠ 0 then (1 : BitVec 32) else 0) = _
  rw [values]
  cases opens.remoteTz.getD false <;> rfl

/-- An offset that loses its sign is written back by more than a step away, and passes the
check there. -/
theorem rewritten_lost {body : SmlSettingsBody} {item : MenuItem} (lost : item.LosesSign body)
    (valid : settingsCheck body = .none) (outlook : Outlook) :
    settingsCheck (item.rewritten body outlook) = .none ∧
      item.grid < |item.value (item.rewritten body outlook) - item.value body| := by
  obtain ⟨rfl, low, high⟩ := lost
  obtain ⟨seconds, behind⟩ : ∃ seconds : Nat, body.baseOffsetS.toInt = -seconds :=
    ⟨body.baseOffsetS.toInt.natAbs, by omega⟩
  have quarter : tzQuarter body.baseOffsetS.toInt = (seconds / 900 * 900 : Nat) := by
    rw [behind, tzQuarter_lost (by omega)]
  have back : (BitVec.ofInt 32 (tzQuarter body.baseOffsetS.toInt)).toInt =
      (seconds / 900 * 900 : Nat) := by
    rw [quarter, MenuItem.toInt_ofInt_of_small (by omega) (by omega)]
  rw [MenuItem.rewritten_tzOffset]
  constructor
  · obtain ⟨rest, display, -, others⟩ := (settingsCheck_iff body).mp valid
    exact (settingsCheck_iff _).mpr
      ⟨rest, display, MenuItem.offsetOk_ofInt (by omega) (by omega), others⟩
  · change 900 < |(BitVec.ofInt 32 _).toInt - body.baseOffsetS.toInt|
    rw [back, behind]
    exact lt_abs.mpr (.inl (by omega))

/-- **A value confirmed unchanged is kept**: opened and confirmed without a step, an item
writes back settings that differ in nothing else, and in its own value by a step of its grid
at most and not at all on the grid; passing through it again changes nothing more, and what is
drawn while moving through is what is written. An offset of the time zone behind UTC by less
than an hour is the one exception. -/
theorem confirmed_unchanged_iff (desk : Desk) (moving : desk.menu.editing = false)
    (copied : desk.menu.work = desk.body) (value : desk.menu.current ∈ valueItems)
    (valid : settingsCheck desk.body = .none) (range : desk.menu.current.InRange desk.body)
    (opens : MenuInput) (confirms : List MenuInput)
    (all : confirms.length = desk.menu.current.fields) :
    let after := desk.passedThrough opens confirms
    (desk.menu.current.Kept desk.body after.body ∧
        (∀ opensAgain confirmsAgain, confirmsAgain.length = desk.menu.current.fields →
          (after.passedThrough opensAgain confirmsAgain).body = after.body) ∧
        ∃ overlay : Overlay,
          (desk.render opens).calls.head? = some (.displaySetOverlay (some overlay)) ∧
            desk.menu.current.Shows overlay.frame after.body after.lastRequest) ↔
      ¬desk.menu.current.LosesSign desk.body := by
  intro after
  constructor
  · rintro ⟨kept, -, -⟩ lost
    obtain ⟨accepted, far⟩ := rewritten_lost lost valid (desk.outlook opens)
    have near := kept.near
    rw [(passedThrough_body value opens all accepted).1] at near
    exact absurd near (not_le.mpr far)
  · intro keeps
    have restored := MenuItem.restored value valid range keeps (desk.outlook opens)
    obtain ⟨written, here⟩ := passedThrough_body value opens all restored.valid
    change after.body = _ at written
    change after.menu.current = _ at here
    refine ⟨written ▸ restored.kept, fun opensAgain confirmsAgain allAgain => ?_, ?_⟩
    · have same := restored.again (after.outlook opensAgain)
      rw [← written, ← here] at same
      rw [← here] at value allAgain
      have accepted : settingsCheck
          (after.menu.current.rewritten after.body (after.outlook opensAgain)) = .none := by
        rw [same, written]
        exact restored.valid
      exact (passedThrough_body value opensAgain allAgain accepted).1.trans same
    · have unlabelled : desk.menu.current.labelled = false := by
        generalize desk.menu.current = item at value
        cases item with
        | opens into => cases into <;> exact absurd value (by decide)
        | title | time | back | exit | resetWifi | resetSettings | resetAll =>
            exact absurd value (by decide)
        | _ => rfl
      refine ⟨.values desk.menu.current (desk.menu.current.load desk.body (desk.outlook opens))
        none false, ?_, ?_⟩
      · rw [render]
        dsimp only
        rw [moving, copied, unlabelled]
        rfl
      · rw [written]
        exact MenuItem.shows value valid range keeps (desk.outlook opens) fun remote =>
          passedThrough_asks remote opens all

end Desk

/-- The menu open at the time zone's offset, so many seconds of it held. -/
def atOffset (offset : BitVec 32) : Desk :=
  let body := { settingsDefaults with flags := 0, baseOffsetS := offset }
  { menu := { opened := true, place := .tz, item := 1, work := body }
    settings :=
      { running := { body := body, debugMask := 0 }
        stored := { body := body, debugMask := 0 }
        revision := 0
        haveRecord := true
        saveRequested := false
        saveError := .none }
    sync := {} }

theorem confirmed_unchanged_iff_behind :
    MenuItem.tzOffset.Kept (atOffset (-12600)).body
      ((atOffset (-12600)).passedThrough (callAt 0 false) [callAt 1 true, callAt 2 true]).body :=
  ((Desk.confirmed_unchanged_iff (atOffset (-12600)) rfl rfl (by decide) (by decide)
    ⟨by decide, by decide⟩ (callAt 0 false) [callAt 1 true, callAt 2 true] rfl).mpr
      (by decide : ¬(_ ∧ _ ∧ _))).1

end GpsClock.Menu
