/-
SerialHid.Notice — the lines of the log (SPEC_FULL §11, Logging).

* `Level` — how much a line matters.
* `Notice` — every line that the library writes, by what it is about.
* `Notice.line : Notice → String` — the line as it is written: its level and its text.
-/
import SerialHid.ResetError
import SerialHid.Settings
import SerialHid.Verdict

namespace SerialHid

/-- How much a line of the log matters. -/
inductive Level where
  | trace
  | debug
  | info
  | warn
  | error
  deriving DecidableEq, Repr

/-- The name of a level. -/
def Level.name : Level → String
  | trace => "TRACE"
  | debug => "DEBUG"
  | info => "INFO"
  | warn => "WARN"
  | error => "ERROR"

/-- Why the worker had to leave a pass. -/
inductive Fault where
  /-- The transport could not be opened. -/
  | openFailed (e : LinkError)
  /-- The connection collapsed. -/
  | crash (message : Option String)
  deriving DecidableEq, Repr

/-- The text of a fault. -/
def Fault.message : Fault → String
  | openFailed e => "can't open HID transport: " ++ e.chain
  | crash message => "panic: " ++ message.getD "unknown"

/-- A line of the log. -/
inductive Notice where
  /-- A request was answered. -/
  | exchanged (request response : List UInt8)
  /-- The chip told its version. -/
  | firmware (version : UInt8)
  /-- The probe after a garbled answer was not answered either. -/
  | resyncFailed (e : LinkError)
  /-- An attempt failed. -/
  | attemptFailed (f : Failure)
  /-- No attempt at the request is left. -/
  | exhausted (request : List UInt8)
  /-- The engine stops, and the request is given up. -/
  | abandoned (request : List UInt8)
  /-- The worker starts. -/
  | workerStarted
  /-- The worker ends. -/
  | workerStopped
  /-- A pass begins. -/
  | waiting
  /-- The device is there. -/
  | found
  /-- The device did not come. -/
  | missing
  /-- The device went while it was in use. -/
  | disappeared
  /-- The reset line could not be driven. -/
  | resetFailed (e : ResetError)
  /-- There is no reset line to pulse. -/
  | resetSkipped
  /-- The chip is told to reset itself. -/
  | chipReset
  /-- No more events will come. -/
  | queueClosed
  /-- The worker threw events away. -/
  | dropped (count : Nat)
  /-- A pass ended in a fault. -/
  | fault (f : Fault)
  /-- The engine starts. -/
  | starting (settings : Settings)
  /-- The engine is told to stop. -/
  | stopping
  /-- A reset was asked for. -/
  | resetAsked
  /-- A producer threw events away. -/
  | cleared (count : Nat)
  /-- A serial line was opened. -/
  | lineOpened (path : String) (speed : Nat)
  /-- A serial line fell silent. -/
  | lineSilent (received : List UInt8) (wanted : Nat)
  /-- A pin was made the reset line. -/
  | pinReady (pin : Nat)
  /-- The pin is pulsed. -/
  | pinPulsed (pin : Nat)
  deriving Repr

namespace Notice

/-- How much a line matters. -/
def level : Notice → Level
  | exchanged .. | firmware _ => .trace
  | resyncFailed _ | abandoned _ | resetSkipped | chipReset | queueClosed | dropped _
  | cleared _ | lineSilent .. => .debug
  | workerStarted | workerStopped | waiting | found | starting _ | stopping | resetAsked
  | lineOpened .. | pinReady _ | pinPulsed _ => .info
  | disappeared | resetFailed _ => .warn
  | attemptFailed _ | exhausted _ | missing | fault _ => .error

/-- The version byte less the one of version 1.0, modulo 256. -/
def minorVersion (version : UInt8) : UInt8 := version - 0x30

/-- The text of a line. -/
def text : Notice → String
  | exchanged request response =>
    "request " ++ Hex.spaced request ++ " -> response " ++ Hex.spaced response
  | firmware version => s!"chip firmware V1.{(minorVersion version).toNat}"
  | resyncFailed e => "resync probe failed: " ++ e.message
  | attemptFailed f => f.message
  | exhausted request => "Can't process HID request due many errors: " ++ Hex.spaced request
  | abandoned request => "stop requested; abandoning request " ++ Hex.spaced request
  | workerStarted => "HID worker started"
  | workerStopped => "HID worker stopped"
  | waiting => "Initial HID reset and wait ..."
  | found => "HID found"
  | missing => "Missing HID"
  | disappeared => "HID device disappeared; releasing transport"
  | resetFailed e => "HID reset failed: " ++ e.message
  | resetSkipped => "no reset pin configured; skipping HID reset"
  | chipReset => "no reset line; sending the chip reset command"
  | queueClosed => "event queue closed; stopping"
  | dropped count => s!"dropped {count} pending HID events"
  | fault f => "Unexpected error in the HID loop: " ++ f.message
  | starting settings =>
    s!"starting HID engine (read_retries={settings.readRetries}, "
      ++ s!"common_retries={settings.commonRetries}, noop="
      ++ DeviceState.word settings.noop ++ ")"
  | stopping => "Stopping HID daemon ..."
  | resetAsked => "HID reset requested"
  | cleared count => s!"cleared {count} pending HID events"
  | lineOpened path speed => "opened " ++ path ++ s!" at {speed} baud"
  | lineSilent received wanted => "short read " ++ Hex.spaced received ++ s!" of {wanted} bytes"
  | pinReady pin => s!"using GPIO {pin} as HID reset line"
  | pinPulsed pin => s!"pulsing HID reset line (GPIO {pin})"

/-- The line as it is written. -/
def line (n : Notice) : String := n.level.name ++ " " ++ n.text

end Notice

end SerialHid
