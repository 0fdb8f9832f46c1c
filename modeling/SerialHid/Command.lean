/-
SerialHid.Command — the commands of the chip and the codes it answers with (SPEC_FULL §6, wire
format).

* `Command` — the commands that have a name; `Command.code` and `Command.ofCode?` lead to
  their bytes and back.
* `ackOf`, `errorAckOf : UInt8 → UInt8` — the command byte of the acknowledgement and of
  the error acknowledgement of a request, modulo 256.
* `DeviceStatus` — the codes that an error acknowledgement carries.
-/

namespace SerialHid

/-! ## Commands -/

/-- The commands of the chip. -/
inductive Command where
  | getInfo
  | sendKeyboardGeneral
  | sendKeyboardMedia
  | sendMouseAbsolute
  | sendMouseRelative
  | sendCustomHid
  | readCustomHid
  | getParaConfig
  | getUsbString
  | setUsbString
  | setDefaultConfig
  | reset
  deriving DecidableEq, Repr

namespace Command

/-- Every command, by ascending code but for `readCustomHid`, which keeps the place of the
request that it completes. -/
def all : List Command :=
  [getInfo, sendKeyboardGeneral, sendKeyboardMedia, sendMouseAbsolute, sendMouseRelative,
    sendCustomHid, readCustomHid, getParaConfig, getUsbString, setUsbString, setDefaultConfig,
    reset]

/-- The byte of a command. -/
def code : Command → UInt8
  | getInfo => 0x01
  | sendKeyboardGeneral => 0x02
  | sendKeyboardMedia => 0x03
  | sendMouseAbsolute => 0x04
  | sendMouseRelative => 0x05
  | sendCustomHid => 0x06
  | readCustomHid => 0x87
  | getParaConfig => 0x08
  | getUsbString => 0x0A
  | setUsbString => 0x0B
  | setDefaultConfig => 0x0C
  | reset => 0x0F

/-- The command with this byte, if there is one. -/
def ofCode? (byte : UInt8) : Option Command := all.find? (·.code == byte)

/-- The name of a command in the chip's manual. -/
def name : Command → String
  | getInfo => "GetInfo"
  | sendKeyboardGeneral => "SendKeyboardGeneral"
  | sendKeyboardMedia => "SendKeyboardMedia"
  | sendMouseAbsolute => "SendMouseAbsolute"
  | sendMouseRelative => "SendMouseRelative"
  | sendCustomHid => "SendCustomHid"
  | readCustomHid => "ReadCustomHid"
  | getParaConfig => "GetParaConfig"
  | getUsbString => "GetUsbString"
  | setUsbString => "SetUsbString"
  | setDefaultConfig => "SetDefaultConfig"
  | reset => "Reset"

end Command

/-! ## Acknowledgements -/

/-- An acknowledgement carries the command of its request raised by this much. -/
def ackOffset : UInt8 := 0x80

/-- An error acknowledgement carries the command of its request raised by this much. -/
def errorAckOffset : UInt8 := 0xC0

/-- Requests with a command below this one are complete once they are acknowledged. -/
def simpleCommandLimit : UInt8 := 0x10

/-- The command byte that acknowledges `command`. -/
def ackOf (command : UInt8) : UInt8 := command + ackOffset

/-- The command byte that reports an error of `command`. -/
def errorAckOf (command : UInt8) : UInt8 := command + errorAckOffset

/-! ## Status codes -/

/-- What an error acknowledgement says about the request. -/
inductive DeviceStatus where
  | success
  | timeout
  | head
  | command
  | sum
  | parameter
  | operate
  deriving DecidableEq, Repr

namespace DeviceStatus

/-- The status with this code, if there is one. -/
def ofCode? : UInt8 → Option DeviceStatus
  | 0x00 => some success
  | 0xE1 => some timeout
  | 0xE2 => some head
  | 0xE3 => some command
  | 0xE4 => some sum
  | 0xE5 => some parameter
  | 0xE6 => some operate
  | _ => none

/-- The name of a status in the chip's manual. -/
def name : DeviceStatus → String
  | success => "DEF_CMD_SUCCESS"
  | timeout => "DEF_CMD_ERR_TIMEOUT"
  | head => "DEF_CMD_ERR_HEAD"
  | command => "DEF_CMD_ERR_CMD"
  | sum => "DEF_CMD_ERR_SUM"
  | parameter => "DEF_CMD_ERR_PARA"
  | operate => "DEF_CMD_ERR_OPERATE"

end DeviceStatus

end SerialHid
