/-
SerialHid.Worker — the thread that owns the device.

The worker makes passes. A pass pulses the reset line, looks for the device, opens it, and
serves it until it is gone, or until there is nothing left to do and the worker is to end. A
fault ends the pass; the worker throws the queue away, tells the fault, pauses, and begins
another (SPEC_FULL §4.5, Event Worker). Others act on threads of their own (§5), between any two
steps, also between these.

* `Point` — where the worker stands; `Session` — where, while the device is open.
* `Config` — the desk and the point.
* `Move` — what makes the worker go on: itself, its surroundings, or an act of others.
* `Worker.step? : Setup → Config → Move → Option Config` — one step, in which the desk is
  looked at or changed in one place.
* `Worker.run` — a list of moves.
-/
import SerialHid.Job

namespace SerialHid

/-- What a worker is started with. -/
structure Setup where
  settings : Settings
  /-- There is a reset line, and resets go through it. -/
  wired : Bool
  /-- How often the device is looked for in one pass. -/
  attempts : Nat
  deriving DecidableEq, Repr

/-- Where the worker stands while the device is open. -/
inductive Session where
  /-- In a request. -/
  | request (p : Purpose) (j : Job)
  /-- At the head of the loop. -/
  | head
  /-- The worker is to end; what waits in the queue is still sent. -/
  | drained
  /-- About to see whether a reset is wanted. -/
  | resetCheck
  /-- The reset line is being pulsed. -/
  | linePulse
  /-- The reset is over but still marked as wanted. -/
  | resetEnd
  /-- Waiting for an event. -/
  | receiving
  /-- An event failed; those behind it are about to be thrown away. -/
  | flushing
  /-- A request failed; the device is being looked for. -/
  | checking
  deriving DecidableEq, Repr

/-- Where the worker stands. -/
inductive Point where
  | starting
  /-- Between two passes. -/
  | top
  /-- The reset line is being pulsed. -/
  | initialPulse
  /-- The device is being looked for; so many looks are left. -/
  | looking (left : Nat)
  /-- The device was not there. -/
  | absent (left : Nat)
  /-- The transport is being opened. -/
  | opening
  | session (s : Session)
  /-- A fault ended the pass. -/
  | faulted (f : Fault)
  /-- What waited at the fault is thrown away; the fault itself is yet to be told. -/
  | telling (f : Fault)
  /-- The pause after a fault. -/
  | pausing
  | ended
  deriving DecidableEq, Repr

/-- The worker with what it shares. -/
structure Config where
  desk : Desk
  point : Point
  deriving Repr

/-- What makes the worker go on. -/
inductive Move where
  /-- An act of others. -/
  | outside (a : Act)
  /-- The worker itself. -/
  | proceed
  /-- The connection responds. -/
  | reply (r : Reply)
  /-- The device is there, or not. -/
  | presence (present : Bool)
  /-- The transport is open, or why it is not. -/
  | opened (failure : Option LinkError)
  /-- The reset line was pulsed. -/
  | pulse (p : Pulse)
  /-- No event came for half a second. -/
  | timeout
  deriving Repr

namespace Worker

/-- Where a worker starts. -/
def initial (d : Desk) : Config := ⟨d, .starting⟩

/-- Turns to a request. -/
def begin (setup : Setup) (p : Purpose) (d : Desk) : Config :=
  ⟨d.record (.began p), .session (.request p (.start setup.settings p.request))⟩

/-- Where the worker goes after a request. -/
def afterRequest : Purpose → Bool → Session
  | .entry, _ => .head
  | .chipReset, _ => .resetEnd
  | .event _, true => .head
  | .event _, false => .flushing
  | .idle, true => .head
  | .idle, false => .checking

/-- Takes over what a step of the job came to. -/
def follow (p : Purpose) : Progress × Desk → Config
  | (.underway j, d) => ⟨d, .session (.request p j)⟩
  | (.returned ok, d) => ⟨d.record (.returned p ok d.state), .session (afterRequest p ok)⟩

/-- Closes the connection and ends the pass. -/
def leave (d : Desk) : Config := ⟨d.record (.closed d.state), .top⟩

/-- Tells how a pulse went, if there is something to tell. -/
def tellPulse (p : Pulse) (d : Desk) : Desk :=
  match p with
  | .done => d
  | .skipped => d.note .resetSkipped
  | .failed e => d.note (.resetFailed e)

/-- Begins a pass, unless the worker is to end. -/
def pass (d : Desk) : Config :=
  if d.stop then ⟨d.note .workerStopped, .ended⟩
  else ⟨(d.note .waiting).record (.pulsed d.state), .initialPulse⟩

/-- Begins the reset that is wanted, if one is. -/
def reset (setup : Setup) (d : Desk) : Config :=
  if d.resetWanted then
    let d := (d.write (·.setBusy true)).record .resetBegan
    if setup.wired then ⟨d.record (.pulsed d.state), .session .linePulse⟩
    else begin setup .chipReset (d.note .chipReset)
  else ⟨d, .session .receiving⟩

/-- Takes the next event. Without one the worker waits; but if none can come any more, it
ends. -/
def receive? (setup : Setup) (d : Desk) : Option Config :=
  match d.queue with
  | e :: es => some (begin setup (.event e) { d with queue := es })
  | [] =>
    if d.accepting then none
    else some (leave { d.note .queueClosed with stop := true })

/-- A step within a session that needs nothing from outside. -/
def proceedSession? (setup : Setup) (d : Desk) : Session → Option Config
  | .request p j => (j.step? setup.settings d .proceed).map (follow p)
  | .head => some ⟨d, .session (if d.stop then .drained else .resetCheck)⟩
  | .drained => some (if d.queue.isEmpty then leave d else ⟨d, .session .resetCheck⟩)
  | .resetCheck => some (reset setup d)
  | .linePulse => none
  | .resetEnd =>
    some ⟨({ d with resetWanted := false } : Desk).record .resetDone, .session .receiving⟩
  | .receiving => receive? setup d
  | .flushing => some ⟨d.discard, .session .checking⟩
  | .checking => none

/-- A step that needs nothing from outside. -/
def proceed? (setup : Setup) (d : Desk) : Point → Option Config
  | .starting => some ⟨d.note .workerStarted, .top⟩
  | .top => some (pass d)
  | .initialPulse => none
  | .looking 0 => some ⟨d.note .missing, .top⟩
  | .looking (_ + 1) => none
  | .absent left => some ⟨d, if d.stop then .top else .looking left⟩
  | .opening => none
  | .session s => proceedSession? setup d s
  | .faulted f => some ⟨d.discard, .telling f⟩
  | .telling f => some ⟨d.note (.fault f), .pausing⟩
  | .pausing => some ⟨d, .top⟩
  | .ended => none

/-- The connection responds. -/
def reply? (setup : Setup) (d : Desk) (r : Reply) : Point → Option Config
  | .session (.request p j) =>
    match j.pending?, r with
    | none, _ => none
    | some _, .answer a => (j.step? setup.settings d (.answer a)).map (follow p)
    | some _, .crash message => some ⟨d.record (.closed d.state), .faulted (.crash message)⟩
  | _ => none

/-- The device is there, or not. -/
def presence? (d : Desk) (present : Bool) : Point → Option Config
  | .looking (left + 1) =>
    let d := d.record (.looked present d.state)
    some (if present then ⟨d.note .found, .opening⟩ else ⟨d, .absent left⟩)
  | .session .checking =>
    let d := d.record (.looked present d.state)
    some (if present then ⟨d, .session .head⟩ else leave (d.note .disappeared))
  | _ => none

/-- The transport is open, or why it is not. A session begins with a request for the
status. -/
def opened? (setup : Setup) (d : Desk) (failure : Option LinkError) : Point → Option Config
  | .opening =>
    match failure with
    | none => some (begin setup .entry (d.record (.opened true d.state)))
    | some e => some ⟨d.record (.opened false d.state), .faulted (.openFailed e)⟩
  | _ => none

/-- The reset line was pulsed. -/
def pulse? (setup : Setup) (d : Desk) (p : Pulse) : Point → Option Config
  | .initialPulse => some ⟨tellPulse p d, .looking setup.attempts⟩
  | .session .linePulse => some ⟨tellPulse p d, .session .resetEnd⟩
  | _ => none

/-- No event came for half a second. -/
def timeout? (setup : Setup) (d : Desk) : Point → Option Config
  | .session .receiving =>
    if d.queue.isEmpty && d.accepting then some (begin setup .idle d) else none
  | _ => none

/-- One step; none where the move does not fit the point. -/
def step? (setup : Setup) (c : Config) : Move → Option Config
  | .outside a => some { c with desk := c.desk.act a }
  | .proceed => proceed? setup c.desk c.point
  | .reply r => reply? setup c.desk r c.point
  | .presence present => presence? c.desk present c.point
  | .opened failure => opened? setup c.desk failure c.point
  | .pulse p => pulse? setup c.desk p c.point
  | .timeout => timeout? setup c.desk c.point

/-- A list of moves; none if one of them does not fit. -/
def run (setup : Setup) (c : Config) : List Move → Option Config
  | [] => some c
  | m :: ms => (step? setup c m).bind fun c => run setup c ms

end Worker

end SerialHid
