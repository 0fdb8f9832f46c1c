/-
SerialHid.Producer — the calls by which others hand in events (SPEC_FULL §6, Engine API, and §4.5,
Queue submission).

A call checks everything before it changes anything, so a call with a refused value queues
nothing. Once the worker is to end, or the queue is closed, an event that is accepted goes
nowhere.

* `Call` — what a call answers, what it does to the desk, and what it writes to the log.
* `Producer.sendKeys`, `sendButton`, `sendMove`, `sendRelative`, `sendWheel` — events from
  names and numbers.
* `Producer.queueEvent`, `clear`, `askReset` — events made elsewhere, no events, a reset.
-/
import SerialHid.Desk

namespace SerialHid

/-- What a call comes to. -/
structure Call where
  result : Except EventError Unit
  acts : List Act
  notices : List Notice

/-- The desk after a call. -/
def Call.on (c : Call) (d : Desk) : Desk := d.acts c.acts

namespace Producer

/-- A call that does nothing. -/
def nothing : Call := ⟨.ok (), [], []⟩

/-- A call that is refused. -/
def refusal (e : EventError) : Call := ⟨.error e, [], []⟩

/-- An event would reach the worker. -/
def isOpen (d : Desk) : Bool := d.accepting && !d.stop

/-- The line that tells how many events were thrown away, if there were any. -/
def clearedNotices (d : Desk) : List Notice :=
  if d.queue.isEmpty then [] else [.cleared d.queue.length]

/-- Throws away the events that wait. -/
def clear (d : Desk) : Call := ⟨.ok (), [.clear], clearedNotices d⟩

/-- Queues an event, alone if the others are to be thrown away. -/
def queueEvent (d : Desk) (e : Event) (alone : Bool) : Call :=
  if !isOpen d then nothing
  else if alone then ⟨.ok (), [.clear, .queue e], clearedNotices d⟩
  else ⟨.ok (), [.queue e], []⟩

/-- Queues events that were checked, in their order. -/
def sendAll (d : Desk) : Except EventError (List Event) → Call
  | .error e => refusal e
  | .ok es => if isOpen d then ⟨.ok (), es.map .queue, []⟩ else nothing

/-- The events of a list of keys, or the refusal of the first unknown one. -/
def keyEvents : List (String × Bool) → Except EventError (List Event)
  | [] => .ok []
  | (name, pressed) :: rest =>
    match Event.ofKey name pressed with
    | .error e => .error e
    | .ok e =>
      match keyEvents rest with
      | .error e => .error e
      | .ok es => .ok (e :: es)

/-- Presses and releases of keys. -/
def sendKeys (d : Desk) (keys : List (String × Bool)) : Call := sendAll d (keyEvents keys)

/-- One event, if its values are accepted. -/
def send (d : Desk) (e : Except EventError Event) : Call := sendAll d (e.map fun e => [e])

/-- A press or release of a button. -/
def sendButton (d : Desk) (name : String) (pressed : Bool) : Call :=
  send d (Event.ofButton name pressed)

/-- A move to a place. -/
def sendMove (d : Desk) (x y : Int) : Call := send d (Event.ofMove x y)

/-- A move by a step. -/
def sendRelative (d : Desk) (dx dy : Int) : Call := send d (Event.ofRelative dx dy)

/-- A turn of the wheel. -/
def sendWheel (d : Desk) (dx dy : Int) : Call := send d (Event.ofWheel dx dy)

/-- Asks for a reset, unless one is asked for already. -/
def askReset (d : Desk) : Call :=
  ⟨.ok (), [.askReset], if d.resetWanted then [] else [.resetAsked]⟩

end Producer

end SerialHid
