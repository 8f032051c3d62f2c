import GpsClock.Link.EspLink
import GpsClock.Settings.Restart
import GpsClock.Store.Runs

/-! # Saves and their answers

A SAVE is answered ACCEPTED at once and again when the settings are stored. Four askers
share `save_requested` and `save_error`: SAVE, a write to be persisted, the menu, and
whoever asks again before the answer; `settings_service` serves them at quiet moments, over
the store as it is in flash. In every run within a start of the PIC the answers follow the
SAVEs one for one, and an ACK is true of the record in the store
(`GpsClock.Link.Saves.saves_answered`).
-/

namespace GpsClock.Link

open Store (StoreStatus Flash Outcome storeWrite reading storeInit)

/-- `SETTINGS_RECORD_SETTINGS`. -/
def settingsRecordSettings : Nat := 1

/-- The records `settings.c` keeps beside the settings. -/
inductive OtherRecord
  | timezone
  | oscillator
  | rtc
  deriving DecidableEq, Repr

/-- `SETTINGS_RECORD_*`. -/
def OtherRecord.type : OtherRecord → Nat
  | .timezone => 2
  | .oscillator => 3
  | .rtc => 4

theorem OtherRecord.type_ne (record : OtherRecord) : settingsRecordSettings ≠ record.type := by
  cases record <;> decide

/-- What can happen: a frame received, the menu and the console, `settings_service` with how
the flash does and the other record due, if any, a message sent unasked, and the end of
`esp_link_service`. -/
inductive SaveAct
  | receive (frame : EspFrame) (other : SmlError)
  | write (body : SmlSettingsBody)
  | setDebug (mask : Word)
  | defaults
  | save
  | service (quiet : Bool) (outcomes : List Outcome) (due : Option (OtherRecord × List Byte))
  | stat
  | answerSave

/-- An act in a run: what it wrote, and from before it whether a save was pending, the
settings record in the store, and the values that had been running since the SAVE last
accepted. -/
structure SaveEntry where
  act : SaveAct
  wrote : List PicFrame
  pending : Bool
  record : Settings.Loaded
  since : List Settings.Values

/-- The PIC's end of the link, and the store and its flash. -/
structure Saves where
  link : EspLink
  store : StoreStatus
  flash : Flash
  since : List Settings.Values := []
  log : List SaveEntry := []

namespace Saves

/-- The settings record as it reads now. -/
def record (saves : Saves) : Settings.Loaded :=
  Settings.readRecord (reading saves.store saves.flash settingsRecordSettings)

/-- `store_write`, with how the flash does; where power is lost there is no result, and the
run is over but for what the model goes on with as a failure. -/
def storeWrites (saves : Saves) (type : Nat) (data : List Byte) (outcomes : List Outcome) :
    Option Store.StoreResult × Saves :=
  let written := storeWrite saves.store { flash := saves.flash, outcomes } type data
  (written.1, { saves with store := written.2.1, flash := written.2.2.flash })

/-- `save_settings`. -/
def saveSettings (saves : Saves) (outcomes : List Outcome) : Saves :=
  let settings := saves.link.settings
  if settings.settingsFlags &&& Settings.smlSettingsDirty = 0 && settings.haveRecord then
    { saves with link := { saves.link with settings := settings.saveSettings .none } }
  else
    let written := saves.storeWrites settingsRecordSettings
      (Settings.encodeRecord settings.running settings.revision) outcomes
    let result := Settings.storeError (written.1.getD .flashFailed)
    { written.2 with link := { saves.link with settings := settings.saveSettings result } }

/-- `settings_service`: one record at most. -/
def service (saves : Saves) (quiet : Bool) (outcomes : List Outcome)
    (due : Option (OtherRecord × List Byte)) : Saves :=
  if !quiet then saves
  else if saves.link.settings.saveRequested then saves.saveSettings outcomes
  else
    match due with
    | some (other, data) => (saves.storeWrites other.type data outcomes).2
    | none => saves

def act (saves : Saves) : SaveAct → Saves
  | .receive frame other => { saves with link := saves.link.receive frame other }
  | .write body =>
      { saves with link := { saves.link with
          settings := (saves.link.settings.settingsWrite body).2 } }
  | .setDebug mask =>
      { saves with link := { saves.link with
          settings := saves.link.settings.settingsSetDebug mask } }
  | .defaults =>
      { saves with link := { saves.link with
          settings := saves.link.settings.settingsRestoreDefaults } }
  | .save => { saves with link := { saves.link with settings := saves.link.settings.settingsSave } }
  | .service quiet outcomes due => saves.service quiet outcomes due
  | .stat => { saves with link := saves.link.sendSettings }
  | .answerSave => { saves with link := saves.link.answerSave }

/-- What was written goes on its way, and the act is noted. -/
def step (saves : Saves) (act : SaveAct) : Saves :=
  let after := { saves with link := { saves.link with uart := [] } }.act act
  let accepted := !saves.link.saveAnswerDue && after.link.saveAnswerDue
  { after with
    since := after.link.settings.running :: if accepted then [] else saves.since
    log := ⟨act, after.link.uart, saves.link.settings.saveRequested, saves.record, saves.since⟩ ::
      saves.log }

/-- From `settings_init` and `esp_link_init` on, over the store started on any flash. -/
def machine : Machine Saves SaveAct where
  start saves :=
    saves.store = storeInit saves.flash ∧ saves.log = [] ∧ saves.link.saveAnswerDue = false ∧
      saves.link.settings =
        Settings.settingsInit (reading saves.store saves.flash settingsRecordSettings)
  step := step

/-- The SAVE whose final answer is due. -/
def due (saves : Saves) : Option (Word × Word) :=
  if saves.link.saveAnswerDue then some (saves.link.saveToken, saves.link.saveCommand) else none

/-- An account of a run, its latest act first: a SAVE is accepted where no answer is due and
refused as busy where one is; the answer due is given at the end of a service, once no save
is pending, and if it acknowledges, the record in the store holds values that have been
running since; and nothing else answers a SAVE. -/
inductive Account : List SaveEntry → Option (Word × Word) → Prop
  | start : Account [] none
  | accepted {log : List SaveEntry} {entry : SaveEntry} {request : SmlCmdUser} {other : SmlError}
      {revision : BitVec 32} (idle : Account log none)
      (act : entry.act = .receive (.user request) other) (save : request.command = smlUserSave)
      (wrote : entry.wrote = [.response ⟨smlResultAccepted, SmlError.none.code, request.token,
        request.command, revision⟩]) :
      Account (entry :: log) (some (request.token, request.command))
  | refused {log : List SaveEntry} {entry : SaveEntry} {request : SmlCmdUser} {other : SmlError}
      {revision : BitVec 32} {due : Word × Word} (busy : Account log (some due))
      (act : entry.act = .receive (.user request) other) (save : request.command = smlUserSave)
      (wrote : entry.wrote = [.response ⟨smlResultNack, SmlError.busy.code, request.token,
        request.command, revision⟩]) :
      Account (entry :: log) (some due)
  | answered {log : List SaveEntry} {entry : SaveEntry} {response : SmlCmdResponse}
      (owed : Account log (some (response.token, response.command)))
      (act : entry.act = .answerSave) (wrote : entry.wrote = [.response response])
      (served : entry.pending = false)
      (stored : response.status = smlResultAck → ∃ values ∈ entry.since, ∃ revision,
        entry.record = .record values revision) :
      Account (entry :: log) none
  | waits {log : List SaveEntry} {entry : SaveEntry} {due : Option (Word × Word)}
      (before : Account log due) (act : entry.act = .answerSave) (wrote : entry.wrote = [])
      (still : due = none ∨ entry.pending = true) :
      Account (entry :: log) due
  | other {log : List SaveEntry} {entry : SaveEntry} {due : Option (Word × Word)}
      (before : Account log due) (act : entry.act ≠ .answerSave)
      (save : ∀ request other, entry.act = .receive (.user request) other →
        request.command ≠ smlUserSave)
      (wrote : ∀ response, .response response ∈ entry.wrote → response.command ≠ smlUserSave) :
      Account (entry :: log) due

/-! ## The settings between saves -/

/-- What leaves alone what is stored, and asks for a save at most. -/
structure Asks (before after : Settings.State) : Prop where
  stored : after.stored = before.stored
  haveRecord : after.haveRecord = before.haveRecord
  saveError : after.saveError = before.saveError
  requested : before.saveRequested = true → after.saveRequested = true
  proper : before.running.Proper → after.running.Proper

variable {before after : Settings.State}

theorem Asks.refl (settings : Settings.State) : Asks settings settings :=
  ⟨rfl, rfl, rfl, id, id⟩

theorem settingsSave_asks (asks : Asks before after) : Asks before after.settingsSave :=
  ⟨asks.stored, asks.haveRecord, asks.saveError, fun _ => rfl, asks.proper⟩

theorem settingsSetDebug_asks (asks : Asks before after) (mask : Word) :
    Asks before (after.settingsSetDebug mask) :=
  ⟨asks.stored, asks.haveRecord, asks.saveError, asks.requested,
    fun proper => ⟨(asks.proper proper).checked, Settings.masked_masked mask⟩⟩

theorem settingsWrite_asks (settings : Settings.State) (body : SmlSettingsBody) :
    Asks settings (settings.settingsWrite body).2 := by
  obtain ⟨-, same⟩ | ⟨-, -, same⟩ | ⟨checked, -, changed⟩ := settings.settingsWrite_cases body
  · rw [same]
    exact .refl settings
  · rw [same]
    exact .refl settings
  · rw [changed]
    exact ⟨rfl, rfl, rfl, id, fun proper => ⟨checked, proper.masked⟩⟩

theorem settingsRestoreDefaults_asks (settings : Settings.State) :
    Asks settings settings.settingsRestoreDefaults :=
  settingsSetDebug_asks (settingsWrite_asks settings Settings.settingsDefaults) 0

/-! ## What one act does -/

/-- What leaves the answer due, and answers no SAVE. -/
structure Quiet (before after : EspLink) : Prop where
  settings : Asks before.settings after.settings
  answerDue : after.saveAnswerDue = before.saveAnswerDue
  token : after.saveToken = before.saveToken
  command : after.saveCommand = before.saveCommand
  wrote : ∀ response, .response response ∈ after.uart →
    .response response ∈ before.uart ∨ response.command ≠ smlUserSave

theorem Quiet.refl (link : EspLink) : Quiet link link :=
  ⟨.refl _, rfl, rfl, rfl, fun _ member => .inl member⟩

theorem Quiet.sends {before after : EspLink} (quiet : Quiet before after) {frame : PicFrame}
    (other : ∀ response, frame = .response response → response.command ≠ smlUserSave) :
    Quiet before (after.send frame) where
  settings := quiet.settings
  answerDue := quiet.answerDue
  token := quiet.token
  command := quiet.command
  wrote response member := by
    rcases List.mem_append.mp member with earlier | new
    · exact quiet.wrote response earlier
    · exact .inr (other response (List.mem_singleton.mp new).symm)

theorem Quiet.asks {before after : EspLink} (quiet : Quiet before after) {settings : Settings.State}
    (asks : Asks before.settings settings) : Quiet before { after with settings } :=
  ⟨asks, quiet.answerDue, quiet.token, quiet.command, quiet.wrote⟩

theorem Quiet.sendSettings {before after : EspLink} (quiet : Quiet before after) :
    Quiet before after.sendSettings :=
  quiet.sends fun _ wrong => PicFrame.noConfusion wrong

theorem Quiet.respond {before after : EspLink} (quiet : Quiet before after)
    (token result : Word) {command : Word} (detail : SmlError) (other : command ≠ smlUserSave) :
    Quiet before (after.respond token command result detail) :=
  quiet.sends fun _ same => PicFrame.response.inj same ▸ other

/-- A command that is no SAVE. -/
theorem runCommand_quiet (link : EspLink) (request : SmlCmdUser) (other : SmlError)
    (save : request.command ≠ smlUserSave) : Quiet link (link.runCommand request other).2.2 := by
  unfold EspLink.runCommand
  split
  · split
    · exact .refl link
    · dsimp only [EspLink.sendMessage]
      split
      · exact (Quiet.refl link).sendSettings
      · exact .refl link
  · split
    · exact (Quiet.refl link).asks (settingsRestoreDefaults_asks _)
    · split
      · dsimp only [EspLink.changeDebug]
        split
        · exact .refl link
        · exact (Quiet.refl link).asks (settingsSetDebug_asks (.refl _) _)
      · exact .refl link

theorem checkedWrite_asks (link : EspLink) (write : SmlCmdSettings) :
    Asks link.settings (link.checkedWrite write).2 := by
  unfold EspLink.checkedWrite
  split
  · exact .refl _
  · split
    · exact .refl _
    · exact settingsWrite_asks _ _

theorem handleSettings_quiet (link : EspLink) (write : SmlCmdSettings) :
    Quiet link (link.handleSettings write).2 := by
  have asks := checkedWrite_asks link write
  refine Quiet.respond ((Quiet.refl link).asks ?_) _ _ _ (by decide)
  split
  · exact settingsSave_asks asks
  · exact asks

theorem receive_quiet (link : EspLink) (frame : EspFrame) (other : SmlError)
    (save : ∀ request, frame = .user request → request.command ≠ smlUserSave) :
    Quiet link (link.receive frame other) := by
  cases frame with
  | user request =>
      have command := save request rfl
      exact (runCommand_quiet link request other command).respond _ _ _ command
  | settings write => exact handleSettings_quiet link write

/-- A SAVE where no answer is due. -/
theorem receive_accepted (link : EspLink) (request : SmlCmdUser) (other : SmlError)
    (save : request.command = smlUserSave) (idle : link.saveAnswerDue = false) :
    link.receive (.user request) other =
      { link with
        settings := link.settings.settingsSave
        saveAnswerDue := true
        saveToken := request.token
        saveCommand := request.command
        uart := link.uart ++ [.response ⟨smlResultAccepted, SmlError.none.code, request.token,
          request.command, link.settings.revision⟩] } := by
  have run : link.runCommand request other = (.none, true,
      { link with
        settings := link.settings.settingsSave
        saveAnswerDue := true
        saveToken := request.token
        saveCommand := request.command }) := by
    rw [EspLink.runCommand, if_neg (by rw [save]; decide), if_pos save, EspLink.startSave, idle]
    rfl
  rw [EspLink.receive, EspLink.handleCommand, run]
  rfl

/-- A SAVE while an answer is due. -/
theorem receive_refused (link : EspLink) (request : SmlCmdUser) (other : SmlError)
    (save : request.command = smlUserSave) (busy : link.saveAnswerDue = true) :
    link.receive (.user request) other =
      { link with
        uart := link.uart ++ [.response ⟨smlResultNack, SmlError.busy.code, request.token,
          request.command, link.settings.revision⟩] } := by
  have run : link.runCommand request other = (.busy, false, link) := by
    rw [EspLink.runCommand, if_neg (by rw [save]; decide), if_pos save, EspLink.startSave, busy]
    rfl
  rw [EspLink.receive, EspLink.handleCommand, run]
  rfl

/-! ## The store -/

/-- A write changes what is read of its own type alone, and only where it succeeds. -/
theorem storeWrites_reading {saves : Saves} (sound : Store.Sound saves.store saves.flash)
    (type : Nat) (data : List Byte) (outcomes : List Outcome) :
    Store.Sound (saves.storeWrites type data outcomes).2.store
        (saves.storeWrites type data outcomes).2.flash ∧
      reading (saves.storeWrites type data outcomes).2.store
          (saves.storeWrites type data outcomes).2.flash settingsRecordSettings =
        if (saves.storeWrites type data outcomes).1 = some .ok ∧ settingsRecordSettings = type
        then some data
        else reading saves.store saves.flash settingsRecordSettings := by
  obtain ⟨still, reads⟩ :=
    Store.storeWrite_reading { flash := saves.flash, outcomes } sound type data
  exact ⟨still, reads settingsRecordSettings⟩

/-- The store is sound, the running values are proper, and the settings record reads as what
is held as stored. -/
structure Held (saves : Saves) : Prop where
  sound : Store.Sound saves.store saves.flash
  proper : saves.link.settings.running.Proper
  stored : saves.link.settings.haveRecord = true →
    ∃ revision, saves.record = .record saves.link.settings.stored revision

variable {saves : Saves}

theorem Held.asks (held : saves.Held) {link : EspLink}
    (asks : Asks saves.link.settings link.settings) : { saves with link }.Held where
  sound := held.sound
  proper := asks.proper held.proper
  stored have_ := by
    dsimp only at have_ ⊢
    rw [asks.stored]
    exact held.stored (asks.haveRecord ▸ have_)

/-- A save leaves no save asked for; if it shows no error the record holds what runs. -/
theorem saveSettings_held (held : saves.Held) (outcomes : List Outcome) :
    (saves.saveSettings outcomes).Held ∧
      (saves.saveSettings outcomes).link.settings.saveRequested = false ∧
      (saves.saveSettings outcomes).link.settings.running = saves.link.settings.running ∧
      ((saves.saveSettings outcomes).link.settings.saveError = .none →
        ∃ revision, (saves.saveSettings outcomes).record =
          .record saves.link.settings.running revision) := by
  by_cases unchanged : (saves.link.settings.settingsFlags &&& Settings.smlSettingsDirty = 0 &&
      saves.link.settings.haveRecord) = true
  · have after : saves.saveSettings outcomes = { saves with link := { saves.link with
        settings := { saves.link.settings with saveRequested := false, saveError := .none } } } := by
      rw [saveSettings, if_pos unchanged, Settings.State.saveSettings, if_pos unchanged]
    rw [after]
    obtain ⟨clean, have_⟩ := Bool.and_eq_true_iff.mp unchanged
    have same := saves.link.settings.dirty_clear.mp (of_decide_eq_true clean)
    refine ⟨⟨held.sound, held.proper, held.stored⟩, rfl, rfl, fun _ => ?_⟩
    rw [same]
    exact held.stored have_
  · obtain ⟨still, reads⟩ := storeWrites_reading held.sound settingsRecordSettings
      (Settings.encodeRecord saves.link.settings.running saves.link.settings.revision) outcomes
    rw [saveSettings, if_neg unchanged]
    dsimp only
    cases written : saves.storeWrites settingsRecordSettings
        (Settings.encodeRecord saves.link.settings.running saves.link.settings.revision)
        outcomes with
    | mk code next =>
        rw [written] at still reads
        dsimp only at still reads ⊢
        by_cases ok : code = some .ok
        · have kept : Settings.readRecord (reading next.store next.flash settingsRecordSettings) =
              .record saves.link.settings.running saves.link.settings.revision := by
            rw [reads, if_pos ⟨ok, rfl⟩, Settings.readRecord_encodeRecord _ _ held.proper.checked,
              held.proper.masked]
          have saved : saves.link.settings.saveSettings
              (Settings.storeError (code.getD .flashFailed)) =
              { saves.link.settings with
                saveRequested := false
                saveError := .none
                stored := saves.link.settings.running
                haveRecord := true } := by
            rw [ok, Settings.State.saveSettings, if_neg unchanged]
            rfl
          rw [saved]
          exact ⟨⟨still, held.proper, fun _ => ⟨_, kept⟩⟩, rfl, rfl, fun _ => ⟨_, kept⟩⟩
        · have error : Settings.storeError (code.getD .flashFailed) ≠ .none := by
            cases code with
            | none => decide
            | some result =>
                cases result with
                | ok => exact absurd rfl ok
                | badArgument => decide
                | flashFailed => decide
                | verify => decide
          have kept : Settings.readRecord (reading next.store next.flash settingsRecordSettings) =
              saves.record := by
            rw [reads, if_neg fun written => ok written.1]
            rfl
          have failed : saves.link.settings.saveSettings
              (Settings.storeError (code.getD .flashFailed)) =
              { saves.link.settings with
                saveRequested := false
                saveError := Settings.storeError (code.getD .flashFailed) } := by
            rw [Settings.State.saveSettings, if_neg unchanged, if_neg error]
          rw [failed]
          refine ⟨⟨still, held.proper, fun have_ => ?_⟩, rfl, rfl, fun none => absurd none error⟩
          obtain ⟨revision, before⟩ := held.stored have_
          exact ⟨revision, kept.trans before⟩

/-- A save touches nothing of the link but the settings. -/
theorem saveSettings_link (saves : Saves) (outcomes : List Outcome) :
    (saves.saveSettings outcomes).link.uart = saves.link.uart ∧
      (saves.saveSettings outcomes).link.saveAnswerDue = saves.link.saveAnswerDue ∧
      (saves.saveSettings outcomes).due = saves.due ∧
      (saves.saveSettings outcomes).log = saves.log := by
  rw [saveSettings]
  dsimp only
  split
  · exact ⟨rfl, rfl, rfl, rfl⟩
  · exact ⟨rfl, rfl, rfl, rfl⟩

/-- `settings_service` serves a save asked for, or leaves the settings and their record. -/
theorem service_held (held : saves.Held) (quiet : Bool) (outcomes : List Outcome)
    (due : Option (OtherRecord × List Byte)) :
    (saves.service quiet outcomes due).Held ∧
      ((saves.service quiet outcomes due = saves.saveSettings outcomes) ∨
        (saves.service quiet outcomes due).link = saves.link ∧
          (saves.service quiet outcomes due).record = saves.record ∧
          (saves.service quiet outcomes due).log = saves.log) := by
  unfold Saves.service
  split
  · exact ⟨held, .inr ⟨rfl, rfl, rfl⟩⟩
  · split
    · exact ⟨(saveSettings_held held outcomes).1, .inl rfl⟩
    · cases due with
      | none => exact ⟨held, .inr ⟨rfl, rfl, rfl⟩⟩
      | some due =>
          obtain ⟨other, data⟩ := due
          obtain ⟨still, reads⟩ := storeWrites_reading held.sound other.type data outcomes
          rw [if_neg fun written => other.type_ne written.2] at reads
          have record : (saves.storeWrites other.type data outcomes).2.record = saves.record :=
            congrArg Settings.readRecord reads
          refine ⟨⟨still, held.proper, fun have_ => ?_⟩, .inr ⟨rfl, record, rfl⟩⟩
          obtain ⟨revision, before⟩ := held.stored have_
          exact ⟨revision, record.trans before⟩

/-! ## Runs -/

/-- What every run keeps: while an answer is due, what runs is one of the values since; once
the save is served, an error free one has left such a value in the record. -/
structure Kept (saves : Saves) : Prop where
  held : saves.Held
  running : saves.link.saveAnswerDue = true → saves.link.settings.running ∈ saves.since
  served : saves.link.saveAnswerDue = true → saves.link.settings.saveRequested = false →
    saves.link.settings.saveError = .none →
      ∃ values ∈ saves.since, ∃ revision, saves.record = .record values revision
  account : Account saves.log saves.due

/-- The link before an act: what was written is on its way. -/
def cleared (saves : Saves) : Saves :=
  { saves with link := { saves.link with uart := [] } }

theorem step_eq {act : SaveAct} {after : Saves} (does : saves.cleared.act act = after) :
    saves.step act =
      { after with
        since := after.link.settings.running ::
          if !saves.link.saveAnswerDue && after.link.saveAnswerDue then [] else saves.since
        log := ⟨act, after.link.uart, saves.link.settings.saveRequested, saves.record,
          saves.since⟩ :: saves.log } := by
  subst does
  rfl

/-- An act that leaves the answer due, the settings' record and its errors. -/
theorem Kept.quiet (kept : saves.Kept) {act : SaveAct} {after : Saves}
    (does : saves.cleared.act act = after) (held : after.Held)
    (quiet : Quiet saves.cleared.link after.link) (record : after.record = saves.record)
    (log : after.log = saves.log) (answer : act ≠ .answerSave)
    (save : ∀ request other, act = .receive (.user request) other →
      request.command ≠ smlUserSave) : (saves.step act).Kept := by
  subst does
  have answerDue : (saves.cleared.act act).link.saveAnswerDue = saves.link.saveAnswerDue :=
    quiet.answerDue
  have since : (saves.step act).since =
      (saves.cleared.act act).link.settings.running :: saves.since := by
    change _ :: (if (!saves.link.saveAnswerDue && (saves.cleared.act act).link.saveAnswerDue) = true
      then [] else saves.since) = _
    rw [answerDue, Bool.not_and_self, if_neg Bool.false_ne_true]
    rfl
  have due : (saves.step act).due = saves.due := by
    change (if (saves.cleared.act act).link.saveAnswerDue = true then
      some ((saves.cleared.act act).link.saveToken, (saves.cleared.act act).link.saveCommand)
      else none) = _
    rw [answerDue, quiet.token, quiet.command]
    rfl
  refine ⟨⟨held.sound, held.proper, held.stored⟩, fun _ => ?_, fun still idle clean => ?_, ?_⟩
  · rw [since]
    exact List.mem_cons_self
  · rw [since]
    have before : saves.link.settings.saveRequested = false := by
      by_contra asked
      exact absurd (quiet.settings.requested (Bool.not_eq_false _ ▸ asked))
        (Bool.eq_false_iff.mp idle)
    obtain ⟨values, member, revision, stored⟩ := kept.served (answerDue ▸ still) before
      (quiet.settings.saveError ▸ clean)
    exact ⟨values, List.mem_cons_of_mem _ member, revision, record.trans stored⟩
  · rw [due]
    refine .other (log ▸ kept.account) answer save fun response member => ?_
    rcases quiet.wrote response member with wrong | other
    · cases wrong
    · exact other

theorem Kept.accepted (kept : saves.Kept) (request : SmlCmdUser) (other : SmlError)
    (save : request.command = smlUserSave) (idle : saves.link.saveAnswerDue = false) :
    (saves.step (.receive (.user request) other)).Kept := by
  have received := receive_accepted saves.cleared.link request other save idle
  have after : saves.step (.receive (.user request) other) =
      { saves with
        link := { saves.link with
          settings := saves.link.settings.settingsSave
          saveAnswerDue := true
          saveToken := request.token
          saveCommand := request.command
          uart := [.response ⟨smlResultAccepted, SmlError.none.code, request.token,
            request.command, saves.link.settings.revision⟩] }
        since := [saves.link.settings.running]
        log := ⟨.receive (.user request) other, [.response ⟨smlResultAccepted, SmlError.none.code,
          request.token, request.command, saves.link.settings.revision⟩],
          saves.link.settings.saveRequested, saves.record, saves.since⟩ :: saves.log } := by
    have did : saves.cleared.act (.receive (.user request) other) =
        { saves.cleared with link := saves.cleared.link.receive (.user request) other } := rfl
    rw [received] at did
    rw [step_eq did, idle]
    rfl
  have none : saves.due = none := by rw [due, idle, if_neg Bool.false_ne_true]
  rw [after]
  refine ⟨⟨kept.held.sound, kept.held.proper, kept.held.stored⟩, fun _ => List.mem_singleton_self _,
    fun _ wrong => ?_, ?_⟩
  · cases wrong
  · exact .accepted (none ▸ kept.account) rfl save rfl

theorem Kept.refused (kept : saves.Kept) (request : SmlCmdUser) (other : SmlError)
    (save : request.command = smlUserSave) (busy : saves.link.saveAnswerDue = true) :
    (saves.step (.receive (.user request) other)).Kept := by
  have received := receive_refused saves.cleared.link request other save busy
  have after : saves.step (.receive (.user request) other) =
      { saves with
        link := { saves.link with
          uart := [.response ⟨smlResultNack, SmlError.busy.code, request.token,
            request.command, saves.link.settings.revision⟩] }
        since := saves.link.settings.running :: saves.since
        log := ⟨.receive (.user request) other, [.response ⟨smlResultNack, SmlError.busy.code,
          request.token, request.command, saves.link.settings.revision⟩],
          saves.link.settings.saveRequested, saves.record, saves.since⟩ :: saves.log } := by
    have did : saves.cleared.act (.receive (.user request) other) =
        { saves.cleared with link := saves.cleared.link.receive (.user request) other } := rfl
    rw [received] at did
    rw [step_eq did, busy]
    rfl
  have some_ : saves.due = some (saves.link.saveToken, saves.link.saveCommand) := by
    rw [due, busy, if_pos rfl]
  rw [after]
  refine ⟨⟨kept.held.sound, kept.held.proper, kept.held.stored⟩, fun _ => List.mem_cons_self,
    fun due idle clean => ?_, ?_⟩
  · obtain ⟨values, member, stored⟩ := kept.served due idle clean
    exact ⟨values, List.mem_cons_of_mem _ member, stored⟩
  · have account := kept.account
    rw [some_] at account
    change Account _ saves.due
    rw [some_]
    exact .refused account rfl save rfl

/-- The end of `esp_link_service`. -/
theorem Kept.answerSave (kept : saves.Kept) : (saves.step .answerSave).Kept := by
  have does : saves.cleared.act .answerSave =
      { saves.cleared with link := saves.cleared.link.answerSave } := rfl
  by_cases ready : (saves.link.saveAnswerDue && !saves.link.settings.saveRequested) = true
  · obtain ⟨answerDue, served⟩ := Bool.and_eq_true_iff.mp ready
    rw [Bool.not_eq_true'] at served
    have answered : saves.cleared.link.answerSave =
        { saves.link with
          saveAnswerDue := false
          uart := [.response ⟨if saves.link.settings.saveError = SmlError.none then smlResultAck
            else smlResultNack, saves.link.settings.saveError.code, saves.link.saveToken,
              saves.link.saveCommand, saves.link.settings.revision⟩] } := by
      have same : (saves.cleared.link.saveAnswerDue &&
          !saves.cleared.link.settings.saveRequested) = true := ready
      rw [EspLink.answerSave, if_pos same]
      rfl
    have owed : saves.due = some (saves.link.saveToken, saves.link.saveCommand) := by
      rw [due, answerDue, if_pos rfl]
    rw [answered] at does
    rw [step_eq does]
    refine ⟨⟨kept.held.sound, kept.held.proper, kept.held.stored⟩, fun wrong => ?_,
      fun wrong => ?_, ?_⟩
    · cases wrong
    · cases wrong
    · refine .answered (owed ▸ kept.account) rfl rfl served fun ack => ?_
      have clean : saves.link.settings.saveError = .none := by
        by_contra error
        dsimp only at ack
        rw [if_neg error] at ack
        exact absurd ack (by decide)
      exact kept.served answerDue served clean
  · have waiting : saves.cleared.link.answerSave = saves.cleared.link := by
      have same : ¬(saves.cleared.link.saveAnswerDue &&
          !saves.cleared.link.settings.saveRequested) = true := ready
      rw [EspLink.answerSave, if_neg same]
    rw [waiting] at does
    have after : saves.step .answerSave =
        { saves.cleared with
          since := saves.link.settings.running :: saves.since
          log := ⟨.answerSave, [], saves.link.settings.saveRequested, saves.record,
            saves.since⟩ :: saves.log } := by
      have still : (!saves.link.saveAnswerDue && saves.cleared.link.saveAnswerDue) = false :=
        Bool.not_and_self _
      rw [step_eq does]
      dsimp only
      rw [still, if_neg Bool.false_ne_true]
      rfl
    have busy : saves.link.saveAnswerDue = true → saves.link.settings.saveRequested = true := by
      intro answerDue
      by_contra served
      rw [Bool.not_eq_true] at served
      rw [answerDue, served] at ready
      exact ready rfl
    rw [after]
    refine ⟨⟨kept.held.sound, kept.held.proper, kept.held.stored⟩, fun _ => List.mem_cons_self,
      fun answerDue served => ?_, .waits kept.account rfl rfl ?_⟩
    · exact absurd (busy answerDue) (Bool.not_eq_true _ ▸ served)
    · change saves.due = none ∨ _
      rw [Saves.due]
      split
      · next answerDue => exact .inr (busy answerDue)
      · exact .inl rfl

theorem Kept.service (kept : saves.Kept) (quiet : Bool) (outcomes : List Outcome)
    (due : Option (OtherRecord × List Byte)) :
    (saves.step (.service quiet outcomes due)).Kept := by
  have held : saves.cleared.Held := kept.held.asks (.refl _)
  obtain ⟨after, served | ⟨link, record, log⟩⟩ := service_held held quiet outcomes due
  · obtain ⟨still, idle, running, stored⟩ := saveSettings_held held outcomes
    obtain ⟨silent, answerDue, owed, log⟩ := saveSettings_link saves.cleared outcomes
    have does : saves.cleared.act (.service quiet outcomes due) =
        saves.cleared.saveSettings outcomes := served
    have unaccepted : (!saves.link.saveAnswerDue &&
        (saves.cleared.saveSettings outcomes).link.saveAnswerDue) = false := by
      rw [answerDue]
      exact Bool.not_and_self _
    rw [step_eq does, unaccepted, if_neg Bool.false_ne_true, running]
    refine ⟨⟨still.sound, still.proper, still.stored⟩, fun _ => ?_, fun _ _ clean => ?_, ?_⟩
    · exact running ▸ List.mem_cons_self
    · exact ⟨_, List.mem_cons_self, stored clean⟩
    · change Account _ (saves.cleared.saveSettings outcomes).due
      rw [owed]
      change Account _ saves.due
      refine .other (log ▸ kept.account) SaveAct.noConfusion
        (fun _ _ wrong => SaveAct.noConfusion wrong) fun response member => ?_
      rw [silent] at member
      cases member
  · exact kept.quiet rfl after (link ▸ .refl _) record log SaveAct.noConfusion
      fun _ _ wrong => SaveAct.noConfusion wrong

/-- Nothing but the end of a service answers a SAVE, and nothing but SAVE asks for it. -/
theorem Kept.link (kept : saves.Kept) {act : SaveAct} {link : EspLink}
    (does : saves.cleared.act act = { saves.cleared with link })
    (quiet : Quiet saves.cleared.link link) (answer : act ≠ .answerSave)
    (save : ∀ request other, act = .receive (.user request) other →
      request.command ≠ smlUserSave) : (saves.step act).Kept :=
  kept.quiet does (kept.held.asks quiet.settings) quiet rfl rfl answer save

/-- What start-up has a record of is what it puts in force. -/
theorem settingsInit_record {held : Option (List Byte)}
    (have_ : (Settings.settingsInit held).haveRecord = true) :
    ∃ revision, Settings.readRecord held =
      .record (Settings.settingsInit held).running revision := by
  unfold Settings.settingsInit at have_ ⊢
  dsimp only at have_ ⊢
  split
  · next read => exact ⟨_, read⟩
  · next absent =>
      split at have_
      · next read => exact absurd read (absent _ _)
      · cases have_

theorem kept : machine.Invariant (fun _ _ => True) Kept where
  start := by
    rintro saves ⟨started, log, idle, settings⟩
    obtain ⟨proper, stored⟩ := Settings.settingsInit_spec
      (reading saves.store saves.flash settingsRecordSettings)
    rw [← settings] at proper stored
    refine ⟨⟨started ▸ Store.Sound.storeInit saves.flash, proper, fun have_ => ?_⟩, fun wrong => ?_,
      fun wrong => ?_, ?_⟩
    · rw [stored, settings]
      rw [settings] at have_
      exact settingsInit_record have_
    · rw [idle] at wrong
      cases wrong
    · rw [idle] at wrong
      cases wrong
    · rw [log, due, idle, if_neg Bool.false_ne_true]
      exact .start
  step := by
    intro saves act kept _
    have fresh := Quiet.refl saves.cleared.link
    cases act with
    | receive frame other =>
        by_cases asks : ∃ request, frame = .user request ∧ request.command = smlUserSave
        · obtain ⟨request, rfl, save⟩ := asks
          cases busy : saves.link.saveAnswerDue with
          | false => exact kept.accepted request other save busy
          | true => exact kept.refused request other save busy
        · have save : ∀ request, frame = .user request → request.command ≠ smlUserSave :=
            fun request same save => asks ⟨request, same, save⟩
          refine kept.link rfl (receive_quiet _ frame other save) SaveAct.noConfusion
            fun request answers same => ?_
          cases same
          exact save request rfl
    | write body =>
        exact kept.link rfl (fresh.asks (settingsWrite_asks _ body)) SaveAct.noConfusion
          fun _ _ wrong => SaveAct.noConfusion wrong
    | setDebug mask =>
        exact kept.link rfl (fresh.asks (settingsSetDebug_asks (.refl _) mask)) SaveAct.noConfusion
          fun _ _ wrong => SaveAct.noConfusion wrong
    | defaults =>
        exact kept.link rfl (fresh.asks (settingsRestoreDefaults_asks _)) SaveAct.noConfusion
          fun _ _ wrong => SaveAct.noConfusion wrong
    | save =>
        exact kept.link rfl (fresh.asks (settingsSave_asks (.refl _))) SaveAct.noConfusion
          fun _ _ wrong => SaveAct.noConfusion wrong
    | service quiet outcomes due => exact kept.service quiet outcomes due
    | stat =>
        exact kept.link rfl fresh.sendSettings SaveAct.noConfusion
          fun _ _ wrong => SaveAct.noConfusion wrong
    | answerSave => exact kept.answerSave

/-- **A SAVE is answered once and truthfully**, in every run from a start of the PIC on. -/
theorem saves_answered (reached : machine.Reachable (fun _ _ => True) saves) :
    Account saves.log saves.due :=
  (kept.reachable reached).account

/-- The first start, from blank flash. -/
def begun : Saves where
  link := { settings := Settings.settingsInit none }
  store := storeInit Store.blankFlash
  flash := Store.blankFlash

/-- From blank flash: a SAVE, its save, another SAVE before the answer, and the answer. -/
def asked : Saves :=
  [SaveAct.receive (.user { command := smlUserSave, token := 7, argument := 0 }) .none,
    .service true [] none,
    .receive (.user { command := smlUserSave, token := 8, argument := 0 }) .none,
    .answerSave].foldl machine.step begun

theorem begun_start : machine.start begun :=
  ⟨rfl, rfl, rfl, by decide +kernel⟩

theorem saves_answered_asked :
    Account asked.log asked.due ∧ asked.log.map SaveEntry.wrote =
      [[.response ⟨smlResultAck, 0, 7, smlUserSave, 0⟩],
        [.response ⟨smlResultNack, 4, 8, smlUserSave, 0⟩], [],
        [.response ⟨smlResultAccepted, 0, 7, smlUserSave, 0⟩]] :=
  ⟨saves_answered ((Machine.Reachable.start begun_start).run
    (Machine.Run.foldl (fun _ _ => trivial) _ _)), by decide +kernel⟩

end Saves

end GpsClock.Link
