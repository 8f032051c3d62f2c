import GpsClock.Sml.Crc

/-! # The message table

`messages` in `common/sml.c`: every message of the link, with its class and
identifier, its payload length, who sends it and its layout, the sizes of its
fields in wire order. A layout is given without its terminating zero.
-/

namespace GpsClock.Sml

/-- Field sizes in wire order. -/
abbrev Layout := List Nat

def tzEntryFields : Layout := [4, 4, 2, 1, 1]

def settingsBodyFields : Layout := [2, 2, 4, 4, 4, 4, 4, 2, 1, 1]

def sourceEntryFields : Layout := [1, 1, 1, 1, 2, 2, 4, 4, 4, 4]

def layoutTimeAuth : Layout := [2, 1, 1, 4, 4, 4]

def layoutTimePic : Layout := [2, 1, 1, 1, 1, 1, 1, 4, 4, 4, 4, 4, 4, 4, 2]

def layoutTimeCtrl : Layout := [2, 1, 1, 4, 4, 4, 4, 4, 4, 4, 4, 4, 4, 4, 4, 4]

def layoutTimeMeas : Layout := [2, 1, 1, 4, 4, 4, 4, 4, 4, 4, 4, 4]

def layoutTimeVctcxo : Layout := [2, 1, 1, 4, 2, 4, 4, 2]

def layoutTimeGnss : Layout := [2, 1, 1, 4, 4, 4, 2, 2, 2, 4, 4, 4, 4, 4, 4, 2, 1, 1, 4]

def layoutTimeNtp : Layout := [2, 1, 1, 4, 4, 4, 4, 4, 2, 4, 4, 4, 4]

def layoutTimeRtc : Layout := [2, 1, 1, 4, 4, 4, 2, 4, 4, 4, 4]

def layoutTimeLeap : Layout := [2, 1, 1, 2, 1, 1, 4, 4]

def layoutTzState : Layout :=
  [2, 1, 1, 4, 4, 4] ++ tzEntryFields ++ tzEntryFields ++ tzEntryFields ++ tzEntryFields ++
    tzEntryFields ++ tzEntryFields ++ tzEntryFields ++ tzEntryFields ++ tzEntryFields

def layoutStatUi : Layout := [2, 1, 1, 1, 1, 2, 2, 2, 4, 4, 4, 4, 4]

def layoutStatEnv : Layout := [2, 2, 2, 2, 2, 2, 2]

def layoutStatSupply : Layout := [2, 2, 2, 2, 2, 2, 2]

def layoutStatNet : Layout := [2, 1, 1, 4, 4, 4, 4, 4]

def layoutStatSys : Layout := [2, 2, 4, 4, 2, 2]

def layoutStatSources : Layout :=
  [2, 1, 1, 1, 1, 2, 4] ++ sourceEntryFields ++ sourceEntryFields ++ sourceEntryFields ++
    sourceEntryFields

def layoutStatSettings : Layout := [2, 2, 4] ++ settingsBodyFields

def layoutCmdUser : Layout := [2, 2, 2, 4]

def layoutCmdResponse : Layout := [2, 2, 2, 2, 4]

def layoutCmdSettings : Layout := [2, 2, 2, 4] ++ settingsBodyFields

def layoutText : Layout := []

/-- `SmlMessage`. -/
structure SmlMessage where
  classId : Byte
  messageId : Byte
  /-- Payload bytes; zero for a variable length. -/
  length : Nat
  fromPic : Bool
  fromEsp : Bool
  layout : Layout
  name : String
  deriving DecidableEq, Repr

/-- `messages`. -/
def messages : List SmlMessage :=
  [⟨0x10, 0x01, 16, true, false, layoutTimeAuth, "TIME-AUTH"⟩,
    ⟨0x10, 0x10, 38, true, false, layoutTimePic, "TIME-PIC"⟩,
    ⟨0x10, 0x11, 56, true, false, layoutTimeCtrl, "TIME-CTRL"⟩,
    ⟨0x10, 0x12, 20, true, false, layoutTimeVctcxo, "TIME-VCTCXO"⟩,
    ⟨0x10, 0x13, 40, true, false, layoutTimeMeas, "TIME-MEAS"⟩,
    ⟨0x10, 0x20, 54, true, false, layoutTimeGnss, "TIME-GNSS"⟩,
    ⟨0x10, 0x30, 42, false, true, layoutTimeNtp, "TIME-NTP"⟩,
    ⟨0x10, 0x40, 34, true, false, layoutTimeRtc, "TIME-RTC"⟩,
    ⟨0x10, 0x50, 16, false, true, layoutTimeLeap, "TIME-LEAP"⟩,
    ⟨0x20, 0x01, 124, false, true, layoutTzState, "TZ-STATE"⟩,
    ⟨0x30, 0x01, 32, true, false, layoutStatUi, "STAT-UI"⟩,
    ⟨0x30, 0x10, 14, true, false, layoutStatEnv, "STAT-ENV"⟩,
    ⟨0x30, 0x20, 14, true, false, layoutStatSupply, "STAT-SUPPLY"⟩,
    ⟨0x30, 0x30, 36, true, false, layoutStatSettings, "STAT-SETTINGS"⟩,
    ⟨0x30, 0x40, 24, false, true, layoutStatNet, "STAT-NET"⟩,
    ⟨0x30, 0x50, 108, true, false, layoutStatSources, "STAT-SOURCES"⟩,
    ⟨0x30, 0x60, 16, true, false, layoutStatSys, "STAT-SYS"⟩,
    ⟨0x30, 0xF0, 0, true, false, layoutText, "STAT-DEBUG"⟩,
    ⟨0x80, 0x10, 10, true, true, layoutCmdUser, "CMD-USER"⟩,
    ⟨0x80, 0x20, 12, true, true, layoutCmdResponse, "CMD-RESPONSE"⟩,
    ⟨0x80, 0x30, 38, false, true, layoutCmdSettings, "CMD-SETTINGS"⟩]

/-- `sml_message`: the first entry for a class and identifier. -/
def smlMessage (classId messageId : Byte) : Option SmlMessage :=
  messages.find? fun message => message.classId = classId && message.messageId = messageId

/-- A layout the table may hold. -/
def Layout.Plain (layout : Layout) : Prop :=
  ∀ size ∈ layout, size = 1 ∨ size = 2 ∨ size = 4

instance (layout : Layout) : Decidable layout.Plain :=
  inferInstanceAs (Decidable (∀ size ∈ layout, _))

/-- Every entry is found under its own class and identifier. -/
theorem smlMessage_of_mem (message : SmlMessage) (member : message ∈ messages) :
    smlMessage message.classId message.messageId = some message := by
  revert message
  decide

/-- Every layout in the table adds up to its message's length, and fits a frame. -/
theorem layout_of_mem (message : SmlMessage) (member : message ∈ messages) :
    message.layout.Plain ∧ message.layout.sum = message.length ∧ message.length ≤ 240 := by
  revert message
  decide

end GpsClock.Sml
