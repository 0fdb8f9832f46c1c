/-
SerialHid.Desk — what the worker shares with everyone else: the device state, the queue, and the
flags of SPEC_FULL §5, Concurrency & Resource Model.

* `Desk` — the published state, two requests to the worker, the queue of events, and the
  journal.
* `Act`, `Desk.act` — what others do to it, at any moment.
* `Desk.record`, `Desk.note`, `Desk.notes`, `Desk.write`, `Desk.discard` — what the worker
  does to it.
-/
import SerialHid.Journal

namespace SerialHid

/-- What the worker shares with everyone else. -/
structure Desk where
  /-- The published state. -/
  state : DeviceState
  /-- The worker is to end. -/
  stop : Bool
  /-- The chip is to be reset. -/
  resetWanted : Bool
  /-- The events that wait, the next one first. -/
  queue : List Event
  /-- Events may still be queued. -/
  accepting : Bool
  /-- What happened, the latest first. -/
  journal : List Entry
  deriving Repr

namespace Desk

/-- Nothing is known, nothing is asked, nothing has happened. -/
def initial : Desk := ⟨.initial, false, false, [], true, []⟩

/-- One more entry in the journal. -/
def record (d : Desk) (e : Entry) : Desk := { d with journal := e :: d.journal }

/-- One more line in the log. -/
def note (d : Desk) (n : Notice) : Desk := d.record (.notice n)

/-- More lines in the log, in this order. -/
def notes (d : Desk) (ns : List Notice) : Desk := ns.foldl note d

/-- Publishes a function of the state. -/
def write (d : Desk) (change : DeviceState → DeviceState) : Desk :=
  { d with state := change d.state }

/-- Throws away every event that waits. -/
def discard (d : Desk) : Desk :=
  let es := d.queue
  let d := ({ d with queue := [] } : Desk).record (.discarded es)
  if es.isEmpty then d else d.note (.dropped es.length)

/-- The lines by which the worker was seen, the earliest first. -/
def lines (d : Desk) : List String := d.journal.reverse.filterMap Entry.line?

end Desk

/-! ## The others -/

/-- What others do, each of it in one go. -/
inductive Act where
  /-- The worker is to end. -/
  | stop
  /-- The chip is to be reset. -/
  | askReset
  /-- An event is to be sent. -/
  | queue (e : Event)
  /-- No more events will come. -/
  | closeQueue
  /-- Another state is published. -/
  | publish (s : DeviceState)
  /-- The events that wait are thrown away. -/
  | clear
  deriving DecidableEq, Repr

/-- The desk after an act. A reset that is already asked for is not asked for again, and a
closed queue takes no event. -/
def Desk.act (d : Desk) : Act → Desk
  | .stop => { d with stop := true }
  | .askReset =>
    if d.resetWanted then d else ({ d with resetWanted := true } : Desk).record .resetAsked
  | .queue e =>
    if d.accepting then ({ d with queue := d.queue ++ [e] } : Desk).record (.queued e) else d
  | .closeQueue => { d with accepting := false }
  | .publish s => { d with state := s }
  | .clear => ({ d with queue := [] } : Desk).record (.cleared d.queue)

/-- The desk after several acts. -/
def Desk.acts (d : Desk) (as : List Act) : Desk := as.foldl Desk.act d

end SerialHid
