import GpsClock.Link.Payloads

/-! # The PIC's end of the link

`esp_link.c`, as far as settings, commands and their answers go. Every answer
carries the revision of the settings at that moment. Between two resets of the
PIC: what RESET asks for ends a run. What the modules outside the link and the
settings answer a command with is a parameter.
-/

namespace GpsClock.Link

structure EspLink where
  settings : Settings.State
  /-- A SAVE was answered ACCEPTED and waits for its final answer. -/
  saveAnswerDue : Bool := false
  saveToken : Word := 0
  saveCommand : Word := 0
  /-- The frames written, oldest first. -/
  uart : List PicFrame := []
  deriving DecidableEq, Repr

namespace EspLink

/-- `esp_link_send`. -/
def send (link : EspLink) (frame : PicFrame) : EspLink :=
  { link with uart := link.uart ++ [frame] }

def respond (link : EspLink) (token command result : Word) (detail : SmlError) : EspLink :=
  link.send (.response ⟨result, detail.code, token, command, link.settings.revision⟩)

/-- `settings_stat` and its message. -/
def sendSettings (link : EspLink) : EspLink :=
  link.send (.stat ⟨link.settings.settingsFlags, link.settings.revision, link.settings.running.body⟩)

/-- `send_message`, `other` telling whether any other message could be sent. -/
def sendMessage (link : EspLink) (classId messageId : Byte) (other : Bool) : Bool × EspLink :=
  if classId.setWidth 32 = smlClassStat ∧ messageId.setWidth 32 = smlStatSettings then
    (true, link.sendSettings)
  else (other, link)

/-- `start_save`: the error, whether a final answer will follow, and the link. -/
def startSave (link : EspLink) (request : SmlCmdUser) : SmlError × Bool × EspLink :=
  if link.saveAnswerDue then (.busy, false, link)
  else
    (.none, true,
      { link with
        settings := link.settings.settingsSave
        saveAnswerDue := true
        saveToken := request.token
        saveCommand := request.command })

/-- `change_debug`. -/
def changeDebug (link : EspLink) (argument : BitVec 32) : SmlError × EspLink :=
  let set : Word := argument.setWidth 16
  let clear : Word := (argument >>> 16).setWidth 16
  if set &&& ~~~Settings.debugAll ≠ 0 then (.argument, link)
  else
    (.none,
      { link with
        settings := link.settings.settingsSetDebug
          (link.settings.running.debugMask &&& ~~~clear ||| set) })

/-- `run_command`, `other` being what another module answers. -/
def runCommand (link : EspLink) (request : SmlCmdUser) (other : SmlError) :
    SmlError × Bool × EspLink :=
  if request.command = smlUserRequestMessage then
    if request.argument >>> 16 ≠ 0 then (.argument, false, link)
    else
      let sent := link.sendMessage ((request.argument >>> 8).setWidth 8)
        (request.argument.setWidth 8) (other = .none)
      (if sent.1 then SmlError.none else SmlError.unsupported, false, sent.2)
  else if request.command = smlUserSave then link.startSave request
  else if request.command = smlUserDefaults then
    (.none, false, { link with settings := link.settings.settingsRestoreDefaults })
  else if request.command = smlUserSetDebug then
    let changed := link.changeDebug request.argument
    (changed.1, false, changed.2)
  else (other, false, link)

def handleCommand (link : EspLink) (request : SmlCmdUser) (other : SmlError) : EspLink :=
  let run := link.runCommand request other
  run.2.2.respond request.token request.command
    (if run.1 ≠ SmlError.none then smlResultNack
      else if run.2.1 then smlResultAccepted else smlResultAck) run.1

/-- The checks and the write of `handle_settings`: the error, and the settings. -/
def checkedWrite (link : EspLink) (write : SmlCmdSettings) : SmlError × Settings.State :=
  if write.flags &&& ~~~smlWritePersist ≠ 0 ∨ write.reserved ≠ 0 then (.argument, link.settings)
  else if write.expectedRevision ≠ link.settings.revision then (.staleRevision, link.settings)
  else link.settings.settingsWrite write.settings

/-- `handle_settings`: the error answered, and the link. -/
def handleSettings (link : EspLink) (write : SmlCmdSettings) : SmlError × EspLink :=
  let written := link.checkedWrite write
  let saved :=
    if written.1 = .none ∧ write.flags &&& smlWritePersist ≠ 0 then written.2.settingsSave
    else written.2
  (written.1,
    { link with settings := saved }.respond write.token smlOperationSettingsWrite
      (if written.1 = SmlError.none then smlResultAck else smlResultNack) written.1)

/-- `handle_frame`. -/
def receive (link : EspLink) (frame : EspFrame) (other : SmlError) : EspLink :=
  match frame with
  | .user request => link.handleCommand request other
  | .settings write => (link.handleSettings write).2

/-- `esp_link_service`'s final answer to a SAVE. -/
def answerSave (link : EspLink) : EspLink :=
  if link.saveAnswerDue && !link.settings.saveRequested then
    { link with saveAnswerDue := false }.respond link.saveToken link.saveCommand
      (if link.settings.saveError = SmlError.none then smlResultAck else smlResultNack)
      link.settings.saveError
  else link

/-- What happens at the PIC's end on its own account: the menu and the defaults,
saves asked for and done, and the messages it sends unasked. -/
inductive Act
  | write (body : SmlSettingsBody)
  | defaults
  | save
  | stored (result : SmlError)
  | stat
  | answerSave
  deriving DecidableEq, Repr

def act (link : EspLink) : Act → EspLink
  | .write body => { link with settings := (link.settings.settingsWrite body).2 }
  | .defaults => { link with settings := link.settings.settingsRestoreDefaults }
  | .save => { link with settings := link.settings.settingsSave }
  | .stored result =>
      if link.settings.saveRequested then
        { link with settings := link.settings.saveSettings result }
      else link
  | .stat => link.sendSettings
  | .answerSave => link.answerSave

/-! ## What a step does -/

/-- The token a SAVE's final answer will carry. -/
def savedToken (link : EspLink) : Option Word :=
  if link.saveAnswerDue then some link.saveToken else none

/-- A step of the PIC's, answering a frame with the given token, if any: what it
writes carries the settings as they are after it. -/
structure Steps (before after : EspLink) (token : Option Word) : Prop where
  moves : Settings.Moves before.settings after.settings
  stats : ∀ stat, .stat stat ∈ after.uart → stat.revision = after.settings.revision ∧
    stat.settings = after.settings.running.body
  answers : ∀ response, .response response ∈ after.uart →
    response.settingsRevision = after.settings.revision ∧
      (token = some response.token ∨ before.savedToken = some response.token)
  save : after.savedToken = before.savedToken ∨ after.savedToken = none ∨ after.savedToken = token

variable {before after : EspLink} {token : Option Word}

/-- A step that writes nothing and keeps no token. -/
theorem Steps.quiet (moves : Settings.Moves before.settings after.settings)
    (silent : after.uart = [])
    (save : after.savedToken = before.savedToken ∨ after.savedToken = none ∨
      after.savedToken = token) : Steps before after token where
  moves := moves
  stats stat member := by
    rw [silent] at member
    cases member
  answers response member := by
    rw [silent] at member
    cases member
  save := save

theorem Steps.sendSettings (steps : Steps before after token) :
    Steps before after.sendSettings token where
  moves := steps.moves
  stats stat member := by
    obtain earlier | new := List.mem_append.mp member
    · exact steps.stats stat earlier
    · obtain rfl := PicFrame.stat.inj (List.mem_singleton.mp new)
      exact ⟨rfl, rfl⟩
  answers response member := by
    obtain earlier | new := List.mem_append.mp member
    · exact steps.answers response earlier
    · cases List.mem_singleton.mp new
  save := steps.save

theorem Steps.respond (steps : Steps before after token) {answered command result : Word}
    {detail : SmlError} (owed : token = some answered ∨ before.savedToken = some answered) :
    Steps before (after.respond answered command result detail) token where
  moves := steps.moves
  stats stat member := by
    obtain earlier | new := List.mem_append.mp member
    · exact steps.stats stat earlier
    · cases List.mem_singleton.mp new
  answers response member := by
    obtain earlier | new := List.mem_append.mp member
    · exact steps.answers response earlier
    · obtain rfl := PicFrame.response.inj (List.mem_singleton.mp new)
      exact ⟨rfl, owed⟩
  save := steps.save

theorem Steps.refl (silent : before.uart = []) : Steps before before token :=
  .quiet (.refl _) silent (.inl rfl)

theorem runCommand_steps {link : EspLink} (silent : link.uart = []) (request : SmlCmdUser)
    (other : SmlError) :
    Steps link (link.runCommand request other).2.2 (some request.token) := by
  unfold runCommand
  split
  · split
    · exact .refl silent
    · simp only [sendMessage]
      split
      · exact (Steps.refl silent).sendSettings
      · exact .refl silent
  · split
    · unfold startSave
      split
      · exact .refl silent
      · exact .quiet (.inl ⟨rfl, rfl⟩) silent (.inr (.inr rfl))
    · split
      · exact .quiet link.settings.settingsRestoreDefaults_moves silent (.inl rfl)
      · split
        · simp only [changeDebug]
          split
          · exact .refl silent
          · exact .quiet (.inl ⟨rfl, rfl⟩) silent (.inl rfl)
        · exact .refl silent

/-- A settings write is accepted only against the present revision, and then its
body is the running one. -/
theorem checkedWrite_cases (link : EspLink) (write : SmlCmdSettings) :
    Settings.Moves link.settings (link.checkedWrite write).2 ∧
      ((link.checkedWrite write).1 = .none →
        write.expectedRevision = link.settings.revision ∧
          (link.checkedWrite write).2.running.body = write.settings) := by
  unfold checkedWrite
  split
  · exact ⟨.refl _, fun accepted => by cases accepted⟩
  · split
    · exact ⟨.refl _, fun accepted => by cases accepted⟩
    · next fresh =>
        refine ⟨link.settings.settingsWrite_moves write.settings, fun accepted => ?_⟩
        refine ⟨not_not.mp fresh, ?_⟩
        obtain ⟨refused, failed⟩ | ⟨_, same, kept⟩ | ⟨_, _, changed⟩ :=
          link.settings.settingsWrite_cases write.settings
        · rw [failed] at accepted
          exact (refused accepted).elim
        · rw [kept]
          exact same.symm
        · rw [changed]

theorem handleSettings_body (link : EspLink) (write : SmlCmdSettings) :
    (link.handleSettings write).2.settings.running = (link.checkedWrite write).2.running ∧
      (link.handleSettings write).2.settings.revision = (link.checkedWrite write).2.revision := by
  simp only [handleSettings, respond, send]
  split <;> exact ⟨rfl, rfl⟩

theorem handleSettings_steps {link : EspLink} (silent : link.uart = []) (write : SmlCmdSettings) :
    Steps link (link.handleSettings write).2 (some write.token) := by
  apply Steps.respond _ (.inl rfl)
  refine .quiet ?_ silent (.inl rfl)
  have moves := (link.checkedWrite_cases write).1
  simp only
  split
  · exact moves
  · exact moves

/-- Only an accepted write is acknowledged. -/
theorem handleSettings_ack {link : EspLink} (silent : link.uart = []) (write : SmlCmdSettings)
    (response : SmlCmdResponse)
    (member : .response response ∈ (link.handleSettings write).2.uart)
    (ack : response.status = smlResultAck) : (link.handleSettings write).1 = .none := by
  simp only [handleSettings, respond, send, silent, List.nil_append, List.mem_singleton,
    PicFrame.response.injEq] at member
  subst member
  by_contra refused
  have nack : (link.checkedWrite write).1 ≠ SmlError.none := refused
  simp only [nack, ↓reduceIte] at ack
  exact absurd ack (by decide)

theorem receive_steps {link : EspLink} (silent : link.uart = []) (frame : EspFrame)
    (other : SmlError) : Steps link (link.receive frame other) (some frame.token) := by
  cases frame with
  | user request => exact (runCommand_steps silent request other).respond (.inl rfl)
  | settings write => exact handleSettings_steps silent write

theorem act_steps {link : EspLink} (silent : link.uart = []) (act : Act) :
    Steps link (link.act act) none := by
  cases act with
  | write body => exact .quiet (link.settings.settingsWrite_moves body) silent (.inl rfl)
  | defaults => exact .quiet link.settings.settingsRestoreDefaults_moves silent (.inl rfl)
  | save => exact .quiet (.inl ⟨rfl, rfl⟩) silent (.inl rfl)
  | stored result =>
      simp only [EspLink.act]
      split
      · exact .quiet (link.settings.saveSettings_moves result) silent (.inl rfl)
      · exact .refl silent
  | stat => exact (Steps.refl silent).sendSettings
  | answerSave =>
      simp only [EspLink.act, answerSave]
      split
      · next due =>
          have owed : link.savedToken = some link.saveToken := by
            rw [savedToken, if_pos (Bool.and_eq_true_iff.mp due).1]
          refine Steps.respond ?_ (.inr owed)
          exact .quiet (.refl _) silent (.inr (.inl rfl))
      · exact .refl silent

end EspLink

end GpsClock.Link
