/-
SerialHid.Journal — what the worker did and what was done to it, entry by entry: the log lines of
SPEC_FULL §11, what passes over the connection (§4.3), and what comes to the queue or leaves it
(§4.5).

* `Purpose` — why the worker makes a request.
* `Entry` — one occurrence; those that touch the device carry the state published at that
  moment.
* `Entry.line? : Entry → Option String` — the line by which an occurrence is seen from
  outside, for those that are: log lines, and what passes between the worker and the device.
-/
import SerialHid.Event
import SerialHid.Notice

namespace SerialHid

/-- Why the worker makes a request. -/
inductive Purpose where
  /-- The first request of a session, which asks for the status. -/
  | entry
  /-- A reset through the chip's own command. -/
  | chipReset
  /-- An event of the host. -/
  | event (e : Event)
  /-- A look at the status because there is nothing else to do. -/
  | idle
  deriving DecidableEq, Repr

/-- The bytes of the request. -/
def Purpose.request : Purpose → List UInt8
  | entry => getInfoFrame.bytes
  | chipReset => resetFrame.bytes
  | event e => e.frame.bytes
  | idle => getInfoFrame.bytes

/-- One occurrence. -/
inductive Entry where
  /-- A line of the log. -/
  | notice (n : Notice)
  /-- A request goes out; a probe is the one that follows a garbled answer. -/
  | sent (request : List UInt8) (probe : Bool) (state : DeviceState)
  /-- The device was looked for. -/
  | looked (present : Bool) (state : DeviceState)
  /-- The transport was opened, or could not be. -/
  | opened (ok : Bool) (state : DeviceState)
  /-- The reset line is pulsed. -/
  | pulsed (state : DeviceState)
  /-- The connection is closed. -/
  | closed (state : DeviceState)
  /-- A status answer was taken over. -/
  | accepted (s : Status)
  /-- An attempt at a request failed. -/
  | failed (f : Failure)
  /-- A request was only pretended. -/
  | pretended
  /-- The worker turns to a request; an event has left the queue for it. -/
  | began (p : Purpose)
  /-- The request is over. -/
  | returned (p : Purpose) (ok : Bool) (state : DeviceState)
  /-- The worker threw away what was in the queue. -/
  | discarded (es : List Event)
  /-- The worker turns to a reset that was asked for. -/
  | resetBegan
  /-- The reset is over. -/
  | resetDone
  /-- Someone asked for a reset while none was pending. -/
  | resetAsked
  /-- An event joined the queue. -/
  | queued (e : Event)
  /-- A producer threw away what was in the queue. -/
  | cleared (es : List Event)
  deriving Repr

/-- The line by which an occurrence is seen from outside. -/
def Entry.line? : Entry → Option String
  | notice n => some n.line
  | sent request _ state => some ("exchange " ++ Hex.packed request ++ " " ++ state.flags)
  | looked present state => some ("present " ++ DeviceState.word present ++ " " ++ state.flags)
  | opened ok state => some ("open " ++ (if ok then "ok" else "fail") ++ " " ++ state.flags)
  | pulsed state => some ("reset " ++ state.flags)
  | closed state => some ("close " ++ state.flags)
  | _ => none

end SerialHid
