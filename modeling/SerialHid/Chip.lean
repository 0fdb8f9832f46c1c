/-
SerialHid.Chip — a simulated chip.

It acknowledges every request, tells its status when asked for it, and keeps a record of
what it was asked. Faults can be laid in its way: once, for the next request or for the next
one with a given command, or for every request until further notice. It is the in-memory chip of
SPEC_FULL §4.3, Connection Abstraction.

* `Chip` — what the chip is set to, the faults that wait, and the record.
* `Chip.exchange : Chip → List UInt8 → Answer × Chip` — one request.
* `Chip.openLink`, `Chip.closeLink` — the connections to it.
* `Chip.Action`, `Chip.perform` — how it is set up.
-/
import SerialHid.Command
import SerialHid.Link

namespace SerialHid

/-- A misbehaviour in one answer. -/
inductive ChipFault where
  /-- No answer. -/
  | shortRead
  /-- The checksum is wrong. -/
  | badChecksum
  /-- The first byte is wrong. -/
  | badHeader
  /-- An error acknowledgement with this code. -/
  | deviceError (code : UInt8)
  /-- The acknowledgement of another command. -/
  | wrongAck
  deriving DecidableEq, Repr

/-- A simulated chip. -/
structure Chip where
  /-- The device is there. -/
  present : Bool
  /-- It cannot be opened. -/
  failOpen : Bool
  /-- The host on the other side is connected. -/
  usbOnline : Bool
  /-- The byte of its lock lights. -/
  lights : UInt8
  /-- Its version byte. -/
  version : UInt8
  /-- The faults that wait, the earliest first; some are for one command only. -/
  faults : List (Option UInt8 × ChipFault)
  /-- The fault of every answer for which none waits. -/
  persistent : Option ChipFault
  /-- What it was asked, the earliest first. -/
  requests : List (List UInt8)
  openAttempts : Nat
  opens : Nat
  closes : Nat
  deriving DecidableEq, Repr

namespace Chip

/-- A chip of version 1.0 that is there, connected, dark, and without faults. -/
def initial : Chip where
  present := true
  failOpen := false
  usbOnline := true
  lights := 0
  version := 0x30
  faults := []
  persistent := none
  requests := []
  openAttempts := 0
  opens := 0
  closes := 0

/-! ## Answers -/

/-- Whether a waiting fault is for a request with this command. -/
def concerns (command : UInt8) (target : Option UInt8) : Bool :=
  match target with
  | none => true
  | some c => c == command

/-- The earliest waiting fault for this command, and the others in their order. -/
def takeFault (command : UInt8) :
    List (Option UInt8 × ChipFault) → Option ChipFault × List (Option UInt8 × ChipFault)
  | [] => (none, [])
  | (target, fault) :: rest =>
    if concerns command target then (some fault, rest)
    else
      let (found, others) := takeFault command rest
      (found, (target, fault) :: others)

/-- A plain acknowledgement: one zero byte under the given command. -/
def ack (command : UInt8) : Frame := ⟨command, [0], by simp⟩

/-- The status of the chip as a frame. -/
def statusFrame (chip : Chip) : Frame :=
  ⟨ackOf Command.getInfo.code,
    [chip.version, if chip.usbOnline then 1 else 0, chip.lights, 0, 0, 0, 0, 0], by simp⟩

/-- The answer without a fault. -/
def goodAnswer (chip : Chip) (command : UInt8) : Frame :=
  if command = Command.getInfo.code then chip.statusFrame else ack (ackOf command)

/-- A frame with its checksum inverted. -/
def invertChecksum (f : Frame) : List UInt8 := f.body ++ [f.checksum ^^^ 0xFF]

/-- A frame with its first byte cleared. -/
def clearFirst (f : Frame) : List UInt8 := 0 :: f.bytes.tail

/-- The answer to a request with this command. -/
def respond (chip : Chip) (command : UInt8) : Option ChipFault → Answer
  | none => .ok (chip.goodAnswer command).bytes
  | some .shortRead => .error (.shortRead partialHeaderSize 0)
  | some .badChecksum => .ok (invertChecksum (ack (ackOf command)))
  | some .badHeader => .ok (clearFirst (ack (ackOf command)))
  | some (.deviceError code) => .ok (Frame.bytes ⟨errorAckOf command, [code], by simp⟩)
  | some .wrongAck => .ok (ack (ackOf command + 1)).bytes

/-- The command of a request. -/
def commandOf (request : List UInt8) : UInt8 := request.getD commandIndex 0

/-- One request. What is no request is refused, leaves no record and takes no fault. -/
def exchange (chip : Chip) (request : List UInt8) : Answer × Chip :=
  match checkRequest request with
  | .error e => (.error e, chip)
  | .ok () =>
    let command := commandOf request
    let (queued, faults) := takeFault command chip.faults
    (chip.respond command (queued <|> chip.persistent),
      { chip with faults, requests := chip.requests ++ [request] })

/-- The recorded requests with this command. -/
def requestsWith (chip : Chip) (command : UInt8) : List (List UInt8) :=
  chip.requests.filter fun request => request[commandIndex]? == some command

/-! ## Connections -/

/-- What a failed opening says. -/
def openFailure : LinkError := .io "mock open failure"

/-- Opens a connection; the result is the failure, if it fails. -/
def openLink (chip : Chip) : Option LinkError × Chip :=
  let chip := { chip with openAttempts := chip.openAttempts + 1 }
  if chip.failOpen then (some openFailure, chip)
  else (none, { chip with opens := chip.opens + 1 })

/-- Closes a connection. -/
def closeLink (chip : Chip) : Chip := { chip with closes := chip.closes + 1 }

/-! ## Setting up -/

/-- One change to the chip. -/
inductive Action where
  | present (value : Bool)
  | failOpen (value : Bool)
  | usb (value : Bool)
  | lights (byte : UInt8)
  /-- One more fault that waits. -/
  | fault (target : Option UInt8) (f : ChipFault)
  | persistent (f : Option ChipFault)
  deriving DecidableEq, Repr

/-- Makes a change. -/
def perform (chip : Chip) : Action → Chip
  | .present value => { chip with present := value }
  | .failOpen value => { chip with failOpen := value }
  | .usb value => { chip with usbOnline := value }
  | .lights byte => { chip with lights := byte }
  | .fault target f => { chip with faults := chip.faults ++ [(target, f)] }
  | .persistent f => { chip with persistent := f }

end Chip

/-! ## A chip with several connections -/

/-- What can happen to a chip and its connections. -/
inductive ChipStep where
  | action (a : Chip.Action)
  | openLink
  | exchange (id : Nat) (request : List UInt8)
  | close (id : Nat)
  deriving DecidableEq, Repr

/-- A chip and which of its connections are still open, in the order of their opening. -/
structure ChipBench where
  chip : Chip
  links : List Bool
  deriving DecidableEq, Repr

namespace ChipBench

/-- A fresh chip without connections. -/
def initial : ChipBench := ⟨.initial, []⟩

/-- The connection with this number is open. -/
def isOpen (b : ChipBench) (id : Nat) : Bool := b.links.getD id false

/-- The number of open connections. -/
def liveLinks (b : ChipBench) : Nat := b.links.count true

/-- One step; the answer is that of an exchange, or of an opening that failed. Nothing passes
over a connection that is not open. -/
def step (b : ChipBench) : ChipStep → Option Answer × ChipBench
  | .action a => (none, { b with chip := b.chip.perform a })
  | .openLink =>
    match b.chip.openLink with
    | (some e, chip) => (some (.error e), { b with chip })
    | (none, chip) => (none, ⟨chip, b.links ++ [true]⟩)
  | .exchange id request =>
    if b.isOpen id then
      let (answer, chip) := b.chip.exchange request
      (some answer, { b with chip })
    else (none, b)
  | .close id =>
    if b.isOpen id then (none, ⟨b.chip.closeLink, b.links.set id false⟩) else (none, b)

/-- A list of steps. -/
def run (b : ChipBench) (steps : List ChipStep) : ChipBench :=
  steps.foldl (fun b s => (b.step s).2) b

end ChipBench

end SerialHid
