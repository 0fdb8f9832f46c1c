/-
SerialHid.Event — what the host wants typed, clicked or moved (SPEC_FULL §3, Event, and §4.2, Event
Model).

* `Event` — a key, a button, an absolute or relative move, a turn of the wheel.
* `Event.ofKey`, `Event.ofButton`, `Event.ofMove`, `Event.ofRelative`, `Event.ofWheel` — the checked
  ways to make one, from names and host numbers; `EventError` says what was refused.
* `Event.frame : Event → Frame` — the request that carries the event to the chip.
* `getInfoFrame`, `resetFrame`, `keyboardReleaseFrame`, `mouseReleaseFrame` — the fixed
  requests; `bytes_getInfoFrame` and the lemmas like it say what goes over the wire.
-/
import SerialHid.Command
import SerialHid.Frame
import SerialHid.Key
import SerialHid.Pointer
import SerialHid.Text.Quoted

namespace SerialHid

/-! ## Buttons -/

/-- The buttons of a mouse; the wheel counts as two of them. -/
inductive Button where
  | left
  | right
  | middle
  | up
  | down
  deriving DecidableEq, Repr

namespace Button

/-- The button with this name, if there is one. Names are compared exactly. -/
def ofName? (text : String) : Option Button :=
  if text = "left" then some left
  else if text = "right" then some right
  else if text = "middle" then some middle
  else if text = "up" then some up
  else if text = "down" then some down
  else none

/-- The buttons byte of a relative report in which the button is down. -/
def buttonsByte : Button → UInt8
  | left => 0x01
  | right => 0x02
  | middle => 0x04
  | up => 0x00
  | down => 0x00

/-- The wheel byte of a relative report in which the button is down. -/
def wheelByte : Button → UInt8
  | left => 0x00
  | right => 0x00
  | middle => 0x00
  | up => 0x01
  | down => 0x81

end Button

/-! ## Events -/

/-- One intent of the host. -/
inductive Event where
  | key (key : Key) (pressed : Bool)
  | button (button : Button) (pressed : Bool)
  | move (x y : Int16)
  | relative (dx dy : Int8)
  | wheel (dx dy : Int8)
  deriving DecidableEq, Repr

/-- The numbers that a host passes in, by the names under which they are refused. -/
inductive Parameter where
  | toX
  | toY
  | deltaX
  | deltaY
  deriving DecidableEq, Repr

/-- The name of a parameter. -/
def Parameter.name : Parameter → String
  | toX => "to_x"
  | toY => "to_y"
  | deltaX => "delta_x"
  | deltaY => "delta_y"

/-- Why an event was refused. -/
inductive EventError where
  /-- No key has this name. -/
  | unknownKey (name : String)
  /-- No button has this name. -/
  | unknownButton (name : String)
  /-- A number outside its range. -/
  | invalidParameter (parameter : Parameter) (value min max : Int)
  deriving DecidableEq, Repr

/-- The text of a refusal. -/
def EventError.message : EventError → String
  | .unknownKey name => "unknown key: " ++ Quoted.quote name
  | .unknownButton name => "unknown mouse button: " ++ Quoted.quote name
  | .invalidParameter parameter value min max =>
    "invalid parameter " ++ parameter.name ++ s!"={value}: expected {min}..={max}"

namespace Event

/-- The value, if it lies within the bounds, and the refusal of it otherwise. -/
def inRange (parameter : Parameter) (min max value : Int) : Except EventError Int :=
  if min ≤ value ∧ value ≤ max then .ok value
  else .error (.invalidParameter parameter value min max)

/-- An absolute coordinate, checked against the host's range. -/
def coordinate (parameter : Parameter) (value : Int) : Except EventError Int16 :=
  (inRange parameter Pointer.hostMin Pointer.hostMax value).map Int16.ofInt

/-- A relative step, checked against the limit of a report. -/
def delta (parameter : Parameter) (value : Int) : Except EventError Int8 :=
  (inRange parameter (-Pointer.deltaLimit) Pointer.deltaLimit value).map Int8.ofInt

/-- A press or release of the key with this name. -/
def ofKey (name : String) (pressed : Bool) : Except EventError Event :=
  match Key.ofName? name with
  | some k => .ok (.key k pressed)
  | none => .error (.unknownKey name)

/-- A press or release of the button with this name. -/
def ofButton (name : String) (pressed : Bool) : Except EventError Event :=
  match Button.ofName? name with
  | some b => .ok (.button b pressed)
  | none => .error (.unknownButton name)

/-- A move to a place in the host's range. The horizontal coordinate is checked first. -/
def ofMove (x y : Int) : Except EventError Event := do
  return .move (← coordinate .toX x) (← coordinate .toY y)

/-- A move by at most 127 in each direction. The horizontal step is checked first. -/
def ofRelative (dx dy : Int) : Except EventError Event := do
  return .relative (← delta .deltaX dx) (← delta .deltaY dy)

/-- A turn of the wheel. Both steps are checked; only the vertical one reaches the chip. -/
def ofWheel (dx dy : Int) : Except EventError Event := do
  return .wheel (← delta .deltaX dx) (← delta .deltaY dy)

/-! ## Reports -/

/-- The mode byte of an absolute mouse report. -/
def absoluteMode : UInt8 := 0x02

/-- The mode byte of a relative mouse report. -/
def relativeMode : UInt8 := 0x01

/-- A step with 127 added, so that `-127 .. 127` becomes `0 .. 254`; a step of `-128` counts
as `-127`. -/
def relativeByte (d : Int8) : UInt8 :=
  UInt8.ofNat (min (max (d.toInt + Pointer.deltaLimit) 0) (2 * Pointer.deltaLimit)).toNat

/-- Half of a step with 127 added, rounded down, so that `-127 .. 127` becomes `0 .. 127`; a
step of `-128` counts as `-127`. -/
def wheelByte (d : Int8) : UInt8 :=
  UInt8.ofNat ((max (d.toInt + Pointer.deltaLimit) 0).toNat / 2)

/-- The low and the high byte of a device coordinate. -/
def coordinateBytes (n : Nat) : List UInt8 := [UInt8.ofNat n, UInt8.ofNat (n / 256)]

/-- A keyboard report with one key down; code zero is no key. -/
def keyboardReport (code : UInt8) : Frame :=
  ⟨Command.sendKeyboardGeneral.code, [0, 0, code, 0, 0, 0, 0, 0], by simp⟩

/-- A relative mouse report. -/
def relativeReport (buttons dx dy wheel : UInt8) : Frame :=
  ⟨Command.sendMouseRelative.code, [relativeMode, buttons, dx, dy, wheel], by simp⟩

/-- An absolute mouse report. -/
def absoluteReport (x y : Nat) : Frame :=
  ⟨Command.sendMouseAbsolute.code,
    [absoluteMode, 0] ++ coordinateBytes x ++ coordinateBytes y ++ [0],
    by simp [coordinateBytes]⟩

/-- The request that carries an event. Every release of a key is the report without keys, and
every release of a button the report without buttons. -/
def frame : Event → Frame
  | .key k true => keyboardReport k.code
  | .key _ false => keyboardReport 0
  | .button b true => relativeReport b.buttonsByte 0 0 b.wheelByte
  | .button _ false => relativeReport 0 0 0 0
  | .move x y => absoluteReport (Pointer.toDevice x.toInt) (Pointer.toDevice y.toInt)
  | .relative dx dy => relativeReport 0 (relativeByte dx) (relativeByte dy) 0
  | .wheel _ dy => relativeReport 0 0 0 (wheelByte dy)

end Event

/-! ## Fixed requests -/

/-- Asks the chip for its status. -/
def getInfoFrame : Frame := ⟨Command.getInfo.code, [], by decide⟩

theorem bytes_getInfoFrame : getInfoFrame.bytes = [0x57, 0xAB, 0x00, 0x01, 0x00, 0x03] := rfl

/-- Tells the chip to reset itself. -/
def resetFrame : Frame := ⟨Command.reset.code, [], by decide⟩

theorem bytes_resetFrame : resetFrame.bytes = [0x57, 0xAB, 0x00, 0x0F, 0x00, 0x11] := rfl

/-- Releases every key. -/
def keyboardReleaseFrame : Frame := Event.keyboardReport 0

theorem bytes_keyboardReleaseFrame :
    keyboardReleaseFrame.bytes =
      [0x57, 0xAB, 0x00, 0x02, 0x08, 0x00, 0x00, 0x00, 0x00, 0x00, 0x00, 0x00, 0x00, 0x0C] := rfl

/-- Releases every button. -/
def mouseReleaseFrame : Frame := Event.relativeReport 0 0 0 0

theorem bytes_mouseReleaseFrame :
    mouseReleaseFrame.bytes =
      [0x57, 0xAB, 0x00, 0x05, 0x05, 0x01, 0x00, 0x00, 0x00, 0x00, 0x0D] := rfl

end SerialHid
