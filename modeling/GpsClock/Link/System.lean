import GpsClock.Lib.Machine
import GpsClock.Link.PicLink
import GpsClock.Link.EspLink

/-! # Both ends and the links between them

The ESP and the PIC, joined by two links that deliver in order and may lose what
they carry. Beside the two programs' own states the system keeps what a reader of
its runs wants to know: with every frame on its way to the PIC the body that the
ESP's edit started from, and every body the PIC's settings have had.
-/

namespace GpsClock.Link

structure System where
  esp : PicLink
  pic : EspLink
  /-- To the PIC, oldest first, each with the body its edit started from. -/
  toPic : List (EspFrame × SmlSettingsBody)
  /-- To the ESP, oldest first. -/
  toEsp : List PicFrame
  /-- The cached body the latest edit started from. While changes wait for an
  answer that is the body in flight, however often they are edited again. -/
  base : SmlSettingsBody
  /-- The PIC's settings bodies in this run, the present one first. -/
  history : List SmlSettingsBody

namespace System

/-- What can happen: the ESP's own acts, the PIC's own acts, and what the links do. -/
inductive Act
  | request (command : SmlUser) (argument : BitVec 32) (now : BitVec 32)
  | read (now : BitVec 32)
  | write (body : SmlSettingsBody) (now : BitVec 32)
  | service (reading : Slot → PicLink.Reading)
  | pic (act : EspLink.Act)
  | deliverToPic (other : SmlError)
  | deliverToEsp (now : BitVec 32)
  | loseToPic
  | loseToEsp

/-- The body a change starts from: what is cached, unless changes already wait. -/
def baseAfter (system : System) : PicLink.Act → SmlSettingsBody
  | .write _ _ =>
      if system.esp.settings.valid && !system.esp.settings.waiting then system.esp.settings.body
      else system.base
  | _ => system.base

/-- The ESP acts, and what it writes goes on its way. -/
def espAct (system : System) (act : PicLink.Act) : System :=
  let esp := system.esp.act act
  { system with
    esp := { esp with uart := [] }
    base := system.baseAfter act
    toPic := system.toPic ++ esp.uart.map fun frame => (frame, system.baseAfter act) }

/-- The PIC has acted, and what it wrote goes on its way. -/
def picDone (system : System) (pic : EspLink) : System :=
  { system with
    pic := { pic with uart := [] }
    toEsp := system.toEsp ++ pic.uart
    history :=
      if pic.settings.running.body ≠ system.pic.settings.running.body then
        pic.settings.running.body :: system.history
      else system.history }

def act (system : System) : Act → System
  | .request command argument now => system.espAct (.request command argument now)
  | .read now => system.espAct (.read now)
  | .write body now => system.espAct (.write body now)
  | .service reading => system.espAct (.service reading)
  | .pic act => system.picDone (system.pic.act act)
  | .deliverToPic other =>
      match system.toPic with
      | [] => system
      | (frame, _) :: rest => { system with toPic := rest }.picDone (system.pic.receive frame other)
  | .deliverToEsp now =>
      match system.toEsp with
      | [] => system
      | .stat stat :: rest => { system with toEsp := rest }.espAct (.stat stat)
      | .response response :: rest => { system with toEsp := rest }.espAct (.response response now)
  | .loseToPic => { system with toPic := system.toPic.tail }
  | .loseToEsp => { system with toEsp := system.toEsp.tail }

/-- The system when both ends have started, with any settings. -/
def init (settings : Settings.State) (base : SmlSettingsBody) (now : BitVec 32) : System where
  esp := { PicLink.picLinkInit now with uart := [] }
  pic := { settings := settings }
  toPic := (PicLink.picLinkInit now).uart.map fun frame => (frame, base)
  toEsp := []
  base := base
  history := [settings.running.body]

def machine : Machine System Act where
  start system := ∃ settings base now, system = init settings base now
  step := act

/-- A token still in use: in a slot, on its way, or kept for a SAVE's final answer. -/
def Carries (system : System) (token : Word) : Prop :=
  (∃ index, (system.esp.pending index).token = token) ∨
    (∃ frame ∈ system.toPic, frame.1.token = token) ∨
    (∃ response, .response response ∈ system.toEsp ∧ response.token = token) ∨
    (system.pic.saveAnswerDue = true ∧ system.pic.saveToken = token)

/-- The act hands out no token still in use. -/
def Fresh (system : System) (act : Act) : Prop :=
  (system.act act).esp.nextToken ≠ system.esp.nextToken → ¬ system.Carries system.esp.nextToken

end System

end GpsClock.Link
