/-
SerialHid.Link — what passes between the engine and an open connection (SPEC_FULL §4.3, Connection
Abstraction).

* `Answer` — the bytes that came back for a request, or why none did.
* `Reply` — an answer, or the collapse of the connection.
* `checkRequest : List UInt8 → Except LinkError Unit` — the test that a connection makes
  before it sends anything.
-/
import SerialHid.Frame

namespace SerialHid

/-- Why a connection has no answer to a request. -/
inductive LinkError where
  /-- The chip fell silent before the answer was complete. -/
  | shortRead (expected received : Nat)
  /-- The request is no frame and was not sent; it is shown as text. -/
  | invalidRequest (shown : String)
  /-- The answer does not start like a frame. -/
  | badFrame (reason : FrameError)
  /-- The transport itself failed. -/
  | io (text : String)
  deriving DecidableEq, Repr

namespace LinkError

/-- The text of a failure. -/
def message : LinkError → String
  | shortRead expected received => s!"short read: expected {expected} bytes, got {received}"
  | invalidRequest shown => "request is not a CH9329 frame: " ++ shown
  | badFrame reason => "malformed response: " ++ reason.message
  | io text => "transport I/O error: " ++ text

/-- The text of what lies under a failure, where something does. -/
def cause? : LinkError → Option String
  | shortRead .. => none
  | invalidRequest _ => none
  | badFrame reason => some reason.message
  | io text => some text

/-- The text of a failure followed by what lies under it. -/
def chain (e : LinkError) : String :=
  match e.cause? with
  | none => e.message
  | some cause => e.message ++ ": " ++ cause

end LinkError

/-- What a request brought: bytes, not yet looked at, or a failure. -/
abbrev Answer := Except LinkError (List UInt8)

/-- How a connection responds to a request. -/
inductive Reply where
  | answer (a : Answer)
  /-- The connection collapsed, leaving a text or nothing to say. -/
  | crash (message : Option String)
  deriving Repr

/-- Refuses what is shorter than a frame or does not open like one. -/
def checkRequest (request : List UInt8) : Except LinkError Unit :=
  if minFrameSize ≤ request.length ∧ request.take frameHeader.length = frameHeader then .ok ()
  else .error (.invalidRequest (Hex.spaced request))

end SerialHid
