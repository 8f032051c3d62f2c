import GpsClock.Link.Payloads

/-! # The ESP's end of the link

`pic_link.cpp`: a table of eight slots in which requests wait for their answers,
under tokens handed out in turn, and a copy of the PIC's settings with the ESP's
own writes folded in. A change made while a write is unanswered waits for the
answer. `millis()` is a parameter of each function that reads it.
-/

namespace GpsClock.Link

abbrev pendingMax : Nat := 8

def requestTimeoutMs : BitVec 32 := 5000

/-- The commands the ESP sends the PIC. -/
inductive SmlUser
  | show_
  | requestMessage
  | save
  | defaults
  | setRtc
  | setDebug
  | resync
  | reset
  | enterBootloader
  deriving DecidableEq, Repr

def SmlUser.code : SmlUser → Word
  | .show_ => 0x0001
  | .requestMessage => smlUserRequestMessage
  | .save => smlUserSave
  | .defaults => smlUserDefaults
  | .setRtc => 0x0020
  | .setDebug => smlUserSetDebug
  | .resync => 0x0030
  | .reset => 0x0031
  | .enterBootloader => 0x0032

structure Pending where
  token : Word := 0
  command : Word := 0
  argument : BitVec 32 := 0
  sentMs : BitVec 32 := 0
  deriving DecidableEq, Repr

abbrev Slot := Fin pendingMax

/-- The table's slots, in the order they are searched. -/
def slots : List Slot := List.finRange pendingMax

/-- `Settings`: what the ESP knows of the PIC's. -/
structure CachedSettings where
  valid : Bool := false
  revision : BitVec 32 := 0
  body : SmlSettingsBody := ⟨0, 0, 0, 0, 0, 0, 0, 0, 0, 0⟩
  /-- A CMD-SETTINGS is unanswered. -/
  writing : Bool := false
  /-- `body` holds changes not yet sent. -/
  waiting : Bool := false
  deriving DecidableEq, Repr

structure PicLinkStats where
  sent : BitVec 32 := 0
  requests : BitVec 32 := 0
  responses : BitVec 32 := 0
  unanswered : BitVec 32 := 0
  deriving DecidableEq, Repr

structure PicLink where
  pending : Slot → Pending := fun _ => {}
  settings : CachedSettings := {}
  nextToken : Word := 1
  stats : PicLinkStats := {}
  /-- The frames written, oldest first. -/
  uart : List EspFrame := []

namespace PicLink

/-- `pic_link_send`. -/
def send (link : PicLink) (frame : EspFrame) : PicLink :=
  { link with
    uart := link.uart ++ [frame]
    stats := { link.stats with sent := link.stats.sent + 1 } }

/-- `take_slot`'s loop: the first free slot, or the oldest of a full table. -/
def chooseSlot (pending : Slot → Pending) (slot : Slot) : List Slot → Slot
  | [] => slot
  | index :: rest =>
      if (pending index).token = 0 then index
      else if ((pending index).sentMs - (pending slot).sentMs).toInt < 0 then
        chooseSlot pending index rest
      else chooseSlot pending slot rest

/-- The slot the next request would take. -/
def nextSlot (link : PicLink) : Slot := chooseSlot link.pending 0 slots

/-- `take_slot`: the token given, and the link with it waiting. -/
def takeSlot (link : PicLink) (now : BitVec 32) (command : Word) (argument : BitVec 32) :
    Word × PicLink :=
  (link.nextToken,
    { link with
      pending := Function.update link.pending link.nextSlot ⟨link.nextToken, command, argument, now⟩
      nextToken := if link.nextToken = 0xFFFF then 1 else link.nextToken + 1
      stats := { link.stats with requests := link.stats.requests + 1 } })

/-- `pic_link_request`. -/
def picLinkRequest (link : PicLink) (now : BitVec 32) (command : SmlUser) (argument : BitVec 32) :
    PicLink :=
  let taken := link.takeSlot now command.code argument
  taken.2.send (.user { command := command.code, token := taken.1, argument := argument })

def sendSettings (link : PicLink) (now : BitVec 32) : PicLink :=
  let taken := link.takeSlot now smlOperationSettingsWrite 0
  let sent := taken.2.send (.settings {
    token := taken.1, expectedRevision := link.settings.revision, settings := link.settings.body })
  { sent with settings := { sent.settings with writing := true } }

def askForSettings (link : PicLink) (now : BitVec 32) : PicLink :=
  link.picLinkRequest now .requestMessage (smlClassStat <<< 8 ||| smlStatSettings)

/-- `pic_link_settings`: the body, if it is known. -/
def picLinkSettings (link : PicLink) (now : BitVec 32) : Option SmlSettingsBody × PicLink :=
  if !link.settings.valid then (none, link.askForSettings now)
  else (some link.settings.body, link)

/-- `pic_link_write_settings`. -/
def picLinkWriteSettings (link : PicLink) (now : BitVec 32) (body : SmlSettingsBody) :
    Bool × PicLink :=
  if !link.settings.valid then (false, link.askForSettings now)
  else
    let edited := { link with settings := { link.settings with body := body } }
    if link.settings.writing then
      (true, { edited with settings := { edited.settings with waiting := true } })
    else (true, edited.sendSettings now)

/-- `settings_answered`, `response` being none when there was no answer. -/
def settingsAnswered (link : PicLink) (now : BitVec 32) (response : Option SmlCmdResponse) :
    PicLink :=
  let answered := { link with settings := { link.settings with writing := false } }
  match response.filter fun response => response.status = smlResultAck with
  | some response =>
      let known := { answered with
        settings := { answered.settings with revision := response.settingsRevision } }
      if known.settings.waiting then
        { known with settings := { known.settings with waiting := false } }.sendSettings now
      else known
  | none =>
      { answered with
        settings := { answered.settings with waiting := false, valid := false } }.askForSettings now

def noteSettings (link : PicLink) (stat : SmlStatSettings) : PicLink :=
  if link.settings.writing || stat.flags &&& Settings.smlSettingsValid = 0 then link
  else
    { link with
      settings := { link.settings with
        valid := true, revision := stat.revision, body := stat.settings } }

/-- The slot, if any, that waits for an answer with this token. -/
def awaiting (link : PicLink) (token : Word) : Option Slot :=
  slots.find? fun index =>
    !((link.pending index).token = 0 || (link.pending index).token ≠ token)

/-- A slot's answer has come, or never will. -/
def free (link : PicLink) (index : Slot) : PicLink :=
  { link with
    pending := Function.update link.pending index { link.pending index with token := 0 } }

def handleResponse (link : PicLink) (now : BitVec 32) (response : SmlCmdResponse) : PicLink :=
  let counted := { link with stats := { link.stats with responses := link.stats.responses + 1 } }
  match counted.awaiting response.token with
  | none => counted
  | some index =>
      if response.status ≠ smlResultAccepted then
        let freed := counted.free index
        if (freed.pending index).command = smlOperationSettingsWrite then
          freed.settingsAnswered now (some response)
        else freed
      else counted

/-- What `millis()` returns in one turn of `expire_requests`: for the slot's check,
and for a request made there. -/
structure Reading where
  check : BitVec 32
  request : BitVec 32

/-- The check in `expire_requests`. -/
def Expired (link : PicLink) (index : Slot) (check : BitVec 32) : Prop :=
  (link.pending index).token ≠ 0 ∧ check - (link.pending index).sentMs > requestTimeoutMs

instance (link : PicLink) (index : Slot) (check : BitVec 32) :
    Decidable (link.Expired index check) :=
  inferInstanceAs (Decidable (_ ∧ _))

/-- One turn of `expire_requests`. -/
def expireSlot (reading : Slot → Reading) (link : PicLink) (index : Slot) : PicLink :=
  if link.Expired index (reading index).check then
    let freed := link.free index
    let counted :=
      { freed with stats := { freed.stats with unanswered := freed.stats.unanswered + 1 } }
    if (counted.pending index).command = smlOperationSettingsWrite then
      counted.settingsAnswered (reading index).request none
    else counted
  else link

def expireRequests (link : PicLink) (reading : Slot → Reading) : PicLink :=
  slots.foldl (expireSlot reading) link

/-- `pic_link_init`, the first show request carrying no token. -/
def picLinkInit (now : BitVec 32) : PicLink :=
  let link : PicLink := {}
  (link.send (.user { command := SmlUser.show_.code, token := 0, argument := 0 })).askForSettings
    now

/-- What can happen at the ESP's end, with `millis()` then. -/
inductive Act
  | request (command : SmlUser) (argument : BitVec 32) (now : BitVec 32)
  | read (now : BitVec 32)
  | write (body : SmlSettingsBody) (now : BitVec 32)
  | stat (stat : SmlStatSettings)
  | response (response : SmlCmdResponse) (now : BitVec 32)
  | service (reading : Slot → Reading)

def act (link : PicLink) : Act → PicLink
  | .request command argument now => link.picLinkRequest now command argument
  | .read now => (link.picLinkSettings now).2
  | .write body now => (link.picLinkWriteSettings now body).2
  | .stat stat => link.noteSettings stat
  | .response response now => link.handleResponse now response
  | .service reading => link.expireRequests reading

end PicLink

end GpsClock.Link
