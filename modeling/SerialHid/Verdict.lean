/-
SerialHid.Verdict — what an answer says about its request: the classification of the Request
Processor (SPEC_FULL §4.4, steps 2 to 9).

* `Failure` — why one attempt at a request failed; `Failure.isPermanent` and
  `Failure.isShortRead` decide what it costs.
* `Status` — what the chip reports when it is asked for its status.
* `judge : List UInt8 → Answer → Verdict` — the verdict on one attempt.

A request is settled by the acknowledgement of its own command. An error acknowledgement of
it, an acknowledgement of another command and anything that is no frame are failures, each
worth another attempt. Permanent are only the requests that can never be settled: those
refused before they were sent, and those too short to have a command.
-/
import SerialHid.Command
import SerialHid.DeviceState
import SerialHid.Link

namespace SerialHid

/-! ## Failures -/

/-- Why one attempt at a request failed. -/
inductive Failure where
  /-- The connection would not send the request, which it shows as text. -/
  | refused (shown : String)
  /-- The chip fell silent. -/
  | shortRead (expected received : Nat)
  /-- The transport failed. -/
  | io (text : String)
  /-- The answer does not start like a frame; its bytes are lost. -/
  | garbledHeader (request : List UInt8) (reason : FrameError)
  /-- The answer is no frame. -/
  | garbledFrame (request response : List UInt8) (reason : FrameError)
  /-- The request is too short to have a command. -/
  | truncatedRequest (request : List UInt8)
  /-- The chip reports an error, with its code. -/
  | deviceError (code : UInt8)
  /-- The right acknowledgement of a command that should have none. -/
  | unsupported (response : List UInt8)
  /-- A status answer without a status. -/
  | shortStatus (response : List UInt8)
  /-- The answer belongs to no such request. -/
  | unexpected (request response : List UInt8)
  deriving DecidableEq, Repr

namespace Failure

/-- Another attempt cannot help. -/
def isPermanent : Failure → Bool
  | refused _ => true
  | truncatedRequest _ => true
  | _ => false

/-- The chip fell silent, which is charged to the budget for reads too. -/
def isShortRead : Failure → Bool
  | shortRead .. => true
  | _ => false

/-- The answer was malformed, so the chip and the engine have to find each other again. -/
def isGarbled : Failure → Bool
  | garbledHeader .. => true
  | garbledFrame .. => true
  | _ => false

/-- The name of a status code, if it has one. -/
def codeName (code : UInt8) : String :=
  match DeviceStatus.ofCode? code with
  | some status => status.name
  | none => "unknown"

/-- The text of a failure. -/
def message : Failure → String
  | refused shown => (LinkError.invalidRequest shown).message
  | shortRead expected received => (LinkError.shortRead expected received).message
  | io text => (LinkError.io text).message
  | garbledHeader request reason =>
    "Invalid CH9329 response; request=" ++ Hex.spaced request ++ "; " ++ reason.message
  | garbledFrame request response reason =>
    "Invalid CH9329 response; request=" ++ Hex.spaced request ++ "; response="
      ++ Hex.spaced response ++ "; " ++ reason.message
  | truncatedRequest request => "truncated request " ++ Hex.spaced request
  | deviceError code => "CH9329 error: " ++ codeName code ++ " code: 0x" ++ Hex.lower code
  | unsupported response => "Not supported response=" ++ Hex.spaced response
  | shortStatus response => "Short GET_INFO response=" ++ Hex.spaced response
  | unexpected request response =>
    "Invalid response from HID: request=" ++ Hex.spaced request ++ ", response="
      ++ Hex.spaced response

/-- The failure of an attempt whose answer never came. -/
def ofLink (request : List UInt8) : LinkError → Failure
  | .shortRead expected received => shortRead expected received
  | .invalidRequest shown => refused shown
  | .badFrame reason => garbledHeader request reason
  | .io text => io text

end Failure

/-! ## Status answers -/

/-- What the chip reports of itself. -/
structure Status where
  /-- The version byte; `0x30` is version 1.0. -/
  version : UInt8
  /-- The host on the other side is connected. -/
  online : Bool
  leds : Leds
  deriving DecidableEq, Repr

/-- The status in a payload of at least three bytes. -/
def Status.ofPayload? : List UInt8 → Option Status
  | version :: online :: lights :: _ => some ⟨version, online != 0, .ofByte lights⟩
  | _ => none

/-! ## The verdict -/

/-- What one attempt came to. -/
inductive Verdict where
  /-- The request is settled. -/
  | settled
  /-- The request is settled, and the chip has told its status. -/
  | status (s : Status)
  /-- The attempt failed. -/
  | failed (f : Failure)
  deriving DecidableEq, Repr

namespace Verdict

/-- The verdict on the acknowledgement of a request with this command. -/
def ofAck (command : UInt8) (response : Frame) : Verdict :=
  if command = Command.getInfo.code then
    match Status.ofPayload? response.payload with
    | some s => status s
    | none => failed (.shortStatus response.bytes)
  else if command < simpleCommandLimit then settled
  else failed (.unsupported response.bytes)

/-- The verdict on a frame that answers a request with this command. The answer to a read of
custom data carries the data, so any frame will do. -/
def ofFrame (request : List UInt8) (command : UInt8) (response : Frame) : Verdict :=
  if command = Command.readCustomHid.code then settled
  else if response.command > errorAckOffset then
    if response.command = errorAckOf command then
      failed (.deviceError (response.payload.headD 0))
    else failed (.unexpected request response.bytes)
  else if response.command > ackOffset ∧ response.command = ackOf command then
    ofAck command response
  else failed (.unexpected request response.bytes)

end Verdict

/-- The verdict on one attempt. -/
def judge (request : List UInt8) : Answer → Verdict
  | .error e => .failed (.ofLink request e)
  | .ok response =>
    match Frame.parse response with
    | .error reason => .failed (.garbledFrame request response reason)
    | .ok frame =>
      match request[commandIndex]? with
      | none => .failed (.truncatedRequest request)
      | some command => .ofFrame request command frame

end SerialHid
