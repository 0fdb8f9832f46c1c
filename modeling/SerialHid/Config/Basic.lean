/-
SerialHid.Config.Basic — the configuration, and which values it may hold (SPEC_FULL §12,
Configuration).

* `Config.Sections` — the four sections, each with its defaults.
* `Config.Violation` — a field with a value that it may not hold, and why.
* `Config.Sections.violation?` — the first violation, in a fixed order of the fields.
* `Config.Sections.settings?`, `readTimeout?`, `resetDelay?`, `pin?` — what the engine is
  started with.
-/
import SerialHid.Number.Shortest
import SerialHid.Settings

namespace SerialHid.Config

/-! ## Sections -/

/-- A tenth of a second, the least delay. -/
def tenth : Binary64 := ⟨0x3FB999999999999A⟩

/-- How requests are tried. -/
structure Retry where
  readRetries : Nat := 5
  commonRetries : Nat := 5
  /-- Seconds between two attempts; half a second. -/
  retriesDelay : Binary64 := ⟨0x3FE0000000000000⟩
  errorsThreshold : Nat := 5
  noop : Bool := false
  deriving DecidableEq, Repr

/-- Where the chip is. -/
structure Line where
  device : String := "/dev/ttyUSB0"
  speed : Nat := 115200
  /-- Seconds to wait for each part of an answer; five of them. -/
  readTimeout : Binary64 := ⟨0x4014000000000000⟩
  deriving DecidableEq, Repr

/-- How the chip is reset. -/
structure Reset where
  gpioRoot : String := "/sys/class/gpio"
  /-- A negative pin is none. -/
  pin : Int := -1
  inverted : Bool := false
  /-- Seconds for which the chip is held in reset. -/
  delay : Binary64 := tenth
  deriving DecidableEq, Repr

/-- How the program runs. -/
structure Daemon where
  logLevel : String := "info"
  deriving DecidableEq, Repr

/-- The whole configuration. -/
structure Sections where
  hid : Retry := {}
  serial : Line := {}
  reset : Reset := {}
  daemon : Daemon := {}
  deriving DecidableEq, Repr

/-! ## Violations -/

/-- The fields that can be violated. -/
inductive Field where
  | readRetries
  | commonRetries
  | retriesDelay
  | readTimeout
  | resetDelay
  | speed
  deriving DecidableEq, Repr

/-- The name of a field. -/
def Field.name : Field → String
  | readRetries => "hid.read_retries"
  | commonRetries => "hid.common_retries"
  | retriesDelay => "hid.retries_delay"
  | readTimeout => "serial.read_timeout"
  | resetDelay => "reset.reset_delay"
  | speed => "serial.speed"

/-- Why a value is not allowed. -/
inductive Reason where
  /-- No attempt would ever be made. -/
  | noAttempts
  /-- Less than a tenth of a second, or not a number. -/
  | tooShort (seconds : Binary64)
  /-- No length of time is that long. -/
  | tooLong (seconds : Binary64)
  /-- No line has this speed. -/
  | oddSpeed (speed : Nat)
  deriving DecidableEq, Repr

/-- The text of a reason. -/
def Reason.text : Reason → String
  | noAttempts => "must be at least 1"
  | tooShort seconds => seconds.text ++ " is below " ++ tenth.text ++ " seconds"
  | tooLong seconds => seconds.text ++ " seconds is out of range"
  | oddSpeed speed => s!"{speed} is not a standard baud rate"

/-- A field with a value that it may not hold. -/
structure Violation where
  field : Field
  reason : Reason
  deriving DecidableEq, Repr

/-- The text of a violation. -/
def Violation.message (v : Violation) : String :=
  "invalid config value " ++ v.field.name ++ ": " ++ v.reason.text

/-- The speeds that a line may have. -/
def standardSpeeds : List Nat :=
  [50, 75, 110, 134, 150, 200, 300, 600, 1200, 1800, 2400, 4800, 9600, 19200, 38400, 57600,
    115200, 230400, 460800, 500000, 576000, 921600, 1000000, 1152000, 1500000, 2000000,
    2500000, 3000000, 3500000, 4000000]

/-- At least one attempt. -/
def checkRetries (field : Field) (n : Nat) : Option Violation :=
  if n < 1 then some ⟨field, .noAttempts⟩ else none

/-- At least a tenth of a second, and a length of time. -/
def checkSeconds (field : Field) (seconds : Binary64) : Option Violation :=
  if !seconds.atLeast tenth then some ⟨field, .tooShort seconds⟩
  else if seconds.duration?.isNone then some ⟨field, .tooLong seconds⟩
  else none

/-- A speed that lines have. -/
def checkSpeed (n : Nat) : Option Violation :=
  if standardSpeeds.contains n then none else some ⟨.speed, .oddSpeed n⟩

namespace Sections

/-- The first violation. -/
def violation? (c : Sections) : Option Violation :=
  checkRetries .readRetries c.hid.readRetries
    <|> checkRetries .commonRetries c.hid.commonRetries
    <|> checkSeconds .retriesDelay c.hid.retriesDelay
    <|> checkSeconds .readTimeout c.serial.readTimeout
    <|> checkSeconds .resetDelay c.reset.delay
    <|> checkSpeed c.serial.speed

/-! ## What the engine is started with -/

/-- How requests are tried, if the delay is a length of time. -/
def settings? (c : Sections) : Option Settings :=
  c.hid.retriesDelay.duration?.map fun delay => {
    readRetries := c.hid.readRetries
    commonRetries := c.hid.commonRetries
    retriesDelay := delay
    errorsThreshold := c.hid.errorsThreshold
    noop := c.hid.noop }

/-- How long to wait for each part of an answer. -/
def readTimeout? (c : Sections) : Option Duration := c.serial.readTimeout.duration?

/-- How long the chip is held in reset. -/
def resetDelay? (c : Sections) : Option Duration := c.reset.delay.duration?

/-- The pin of the reset line, if there is one. -/
def pin? (c : Sections) : Option Nat := if 0 ≤ c.reset.pin then some c.reset.pin.toNat else none

end Sections

end SerialHid.Config
