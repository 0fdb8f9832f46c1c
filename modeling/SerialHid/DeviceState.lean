/-
SerialHid.DeviceState — what is known of the chip (SPEC_FULL §3, Device State), and how it is told
to others (§13, Host State Report).

* `DeviceState` — five flags; all are down until the first status answer.
* `Leds.ofByte : UInt8 → Leds` — the lock lights in a status byte.
* `DeviceState.setOnline`, `setBusy`, `setStatus`, `pretend` — the ways in which the state
  changes.
* `DeviceState.flags` — the state as five digits.
* `DeviceState.report` — the state as the host application reads it.
-/

namespace SerialHid

/-! ## Lock lights -/

/-- The lock lights of a keyboard. -/
structure Leds where
  num : Bool
  caps : Bool
  scroll : Bool
  deriving DecidableEq, Repr

/-- Bit 0 of a status byte is the number lock, bit 1 the capitals lock, bit 2 the scroll lock. -/
def Leds.ofByte (status : UInt8) : Leds where
  num := status &&& 1 != 0
  caps := status &&& 2 != 0
  scroll := status &&& 4 != 0

/-! ## The state -/

/-- What is known of the chip. -/
structure DeviceState where
  /-- The chip answers and its host side is connected. -/
  online : Bool
  /-- A reset is under way. -/
  busy : Bool
  leds : Leds
  deriving DecidableEq, Repr

namespace DeviceState

/-- Nothing is known yet. -/
def initial : DeviceState := ⟨false, false, ⟨false, false, false⟩⟩

/-- The state with another online flag. -/
def setOnline (s : DeviceState) (online : Bool) : DeviceState := { s with online }

/-- The state with another busy flag. -/
def setBusy (s : DeviceState) (busy : Bool) : DeviceState := { s with busy }

/-- The state after a status answer. The answer shows that any reset is over. -/
def setStatus (online : Bool) (leds : Leds) : DeviceState := ⟨online, false, leds⟩

/-- The state after a request that was only pretended: online, not busy, the same lights. -/
def pretend (s : DeviceState) : DeviceState := { s with online := true, busy := false }

/-! ## Texts -/

/-- A flag as a digit. -/
def flag (b : Bool) : Char := if b then '1' else '0'

/-- The state as five digits: online, busy, number, capitals and scroll lock. -/
def flags (s : DeviceState) : String :=
  String.ofList ([s.online, s.busy, s.leds.num, s.leds.caps, s.leds.scroll].map flag)

/-- A flag as a word. -/
def word (b : Bool) : String := if b then "true" else "false"

/-- Named members between braces, in the order given. -/
def members (fields : List (String × String)) : String :=
  "\x7b" ++ ",".intercalate (fields.map fun f => "\"" ++ f.1 ++ "\":" ++ f.2) ++ "\x7d"

/-- The outputs that the host could choose from; the chip has a single, fixed one. -/
def outputs : String := members [("available", "[]"), ("active", "\"\"")]

/-- The state as the host application reads it: one object without blanks, in which the
keyboard and the mouse are online whenever the chip is. -/
def report (s : DeviceState) : String :=
  members [
    ("online", word s.online),
    ("busy", word s.busy),
    ("connected", word s.online),
    ("keyboard", members [
      ("online", word s.online),
      ("leds", members [
        ("caps", word s.leds.caps), ("scroll", word s.leds.scroll), ("num", word s.leds.num)]),
      ("outputs", outputs)]),
    ("mouse", members [
      ("online", word s.online), ("absolute", word true), ("outputs", outputs)])]

end DeviceState

end SerialHid
