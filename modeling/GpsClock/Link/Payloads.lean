import GpsClock.Settings.Values

/-! # The command messages

The payloads of `sml_proto.h` that settings and their answers travel in, between
the ESP and the PIC.
-/

namespace GpsClock.Link

def smlClassStat : BitVec 32 := 0x30

def smlStatSettings : BitVec 32 := 0x30

def smlResultAck : Word := 0

def smlResultNack : Word := 1

def smlResultAccepted : Word := 2

/-- The command a settings write is answered under. -/
def smlOperationSettingsWrite : Word := 0x0100

def smlUserRequestMessage : Word := 0x0002

def smlUserSave : Word := 0x0010

def smlUserDefaults : Word := 0x0011

def smlUserSetDebug : Word := 0x0021

def smlWritePersist : Word := 0x0001

/-- `SML_CMD_USER_PAYLOAD`. -/
structure SmlCmdUser where
  command : Word
  flags : Word := 0
  token : Word
  argument : BitVec 32
  deriving DecidableEq, Repr

/-- `SML_CMD_SETTINGS_PAYLOAD`. -/
structure SmlCmdSettings where
  flags : Word := 0
  reserved : Word := 0
  token : Word
  expectedRevision : BitVec 32
  settings : SmlSettingsBody
  deriving DecidableEq, Repr

/-- `SML_CMD_RESPONSE_PAYLOAD`. -/
structure SmlCmdResponse where
  status : Word
  detail : Word
  token : Word
  command : Word
  settingsRevision : BitVec 32
  deriving DecidableEq, Repr

/-- `SML_STAT_SETTINGS_PAYLOAD`. -/
structure SmlStatSettings where
  flags : Word
  revision : BitVec 32
  settings : SmlSettingsBody
  deriving DecidableEq, Repr

/-- What the ESP sends. -/
inductive EspFrame
  | user (request : SmlCmdUser)
  | settings (write : SmlCmdSettings)
  deriving DecidableEq, Repr

def EspFrame.token : EspFrame → Word
  | .user request => request.token
  | .settings write => write.token

/-- What the PIC sends. -/
inductive PicFrame
  | stat (stat : SmlStatSettings)
  | response (response : SmlCmdResponse)
  deriving DecidableEq, Repr

end GpsClock.Link
