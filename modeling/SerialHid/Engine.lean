/-
SerialHid.Engine — a worker with its producers, rehearsed on a bench: what SPEC_FULL §6 calls the
Engine API.

The worker is held at its first look for the device until it is let go. From then on it runs
only while someone waits for something, and when it is to end.

* `Engine.start` — an engine whose worker is held.
* `Engine.Step`, `Engine.step` — what can be done with it, and what comes of it.
* `Engine.finish` — lets the worker go and ends it, as at the end of every rehearsal.
-/
import SerialHid.Bench
import SerialHid.Board
import SerialHid.Producer

namespace SerialHid

/-- A worker with its producers. -/
structure Engine where
  setup : Setup
  config : Config
  bench : Bench
  /-- The worker was told to end, and has ended. -/
  joined : Bool
  /-- The engine was given up; nothing will be published any more. -/
  dropped : Bool
  pollers : List Poller
  /-- What the producers' calls wrote to the log, the latest first. -/
  told : List Notice
  deriving Repr

namespace Engine

/-- How often the worker of an engine looks for the device in one pass. -/
def presenceAttempts : Nat := 10

/-- How many steps of the worker are waited for. -/
def patience : Nat := 1000000

/-- The desk of the engine. -/
def desk (e : Engine) : Desk := e.config.desk

/-- The published state, as pollers see it. -/
def board (e : Engine) : Board := ⟨e.desk.state, !e.dropped⟩

/-- Lets the worker run until something holds, it can go no further, or the steps are used
up. -/
def runUntil (e : Engine) (done : Engine → Bool) : Nat → Engine
  | 0 => e
  | fuel + 1 =>
    if done e then e
    else
      match e.bench.advance e.setup e.config with
      | none => e
      | some (config, bench) => runUntil { e with config, bench } done fuel

/-- The worker is about to look for the device. -/
def isLooking (e : Engine) : Bool :=
  match e.config.point with
  | .looking _ => true
  | _ => false

/-- An engine whose worker is held. -/
def start (settings : Settings) (chip : Chip) (line : BenchLine) : Engine :=
  let bench := Bench.plain chip line
  let e : Engine := {
    setup := ⟨settings, bench.isWired, presenceAttempts⟩
    config := Worker.initial .initial
    bench := bench
    joined := false
    dropped := false
    pollers := []
    told := [.starting settings] }
  e.runUntil isLooking patience

/-- The number of pulses of the reset line. -/
def pulses (e : Engine) : Nat := e.bench.resets

/-- Whether someone wrote this line to the log. -/
def wrote (e : Engine) (text : String) : Bool :=
  let isIt (n : Notice) : Bool := n.line == text
  e.told.any isIt || e.desk.journal.any fun entry =>
    match entry with
    | .notice n => isIt n
    | _ => false

/-- Applies a call of a producer. -/
def apply (e : Engine) (call : Call) : Engine :=
  { e with
    config := { e.config with desk := call.on e.desk }
    told := call.notices.reverse ++ e.told }

/-- Tells the worker to end, and waits for it. The second time nothing happens. -/
def cleanup (e : Engine) : Engine :=
  if e.joined then e
  else
    let e := e.apply ⟨.ok (), [.stop, .closeQueue], [.stopping]⟩
    { e.runUntil (fun _ => false) patience with joined := true }

/-- Gives the engine up. -/
def drop (e : Engine) : Engine := { e.cleanup with dropped := true }

/-- What can be done with an engine. -/
inductive Step where
  | chip (a : Chip.Action)
  | keys (keys : List (String × Bool))
  | button (name : String) (pressed : Bool)
  | move (x y : Int)
  | relative (dx dy : Int)
  | wheel (dx dy : Int)
  /-- An event made elsewhere, or the refusal met in making it. -/
  | queue (made : Except EventError Event) (alone : Bool)
  | clear
  | reset
  | state
  | report
  | poll
  | next (id : Nat)
  | release
  | waitRequests (command : UInt8) (count : Nat)
  | waitPulses (count : Nat)
  | waitState (s : DeviceState)
  | waitLine (text : String)
  | cleanup
  | drop
  deriving Repr

/-- What comes of a step. -/
inductive Outcome where
  | ok
  | refused (e : EventError)
  | state (s : DeviceState)
  | report (text : String)
  | poll (p : Poll)
  deriving Repr

/-- The outcome of a call. -/
def outcome (call : Call) : Outcome :=
  match call.result with
  | .ok () => .ok
  | .error e => .refused e

/-- Applies a call and tells its outcome. -/
def perform (e : Engine) (call : Call) : Outcome × Engine := (outcome call, e.apply call)

/-- Waits until something holds. -/
def wait (e : Engine) (done : Engine → Bool) : Outcome × Engine :=
  (.ok, e.runUntil done patience)

/-- One look of a poller. -/
def next (e : Engine) (id : Nat) : Outcome × Engine :=
  match e.pollers[id]? with
  | none => (.ok, e)
  | some p =>
    let (found, p) := p.next e.board
    (.poll found, { e with pollers := e.pollers.set id p })

/-- One step. -/
def step (e : Engine) : Step → Outcome × Engine
  | .chip a => (.ok, { e with bench := { e.bench with chip := e.bench.chip.perform a } })
  | .keys keys => e.perform (Producer.sendKeys e.desk keys)
  | .button name pressed => e.perform (Producer.sendButton e.desk name pressed)
  | .move x y => e.perform (Producer.sendMove e.desk x y)
  | .relative dx dy => e.perform (Producer.sendRelative e.desk dx dy)
  | .wheel dx dy => e.perform (Producer.sendWheel e.desk dx dy)
  | .queue (.ok event) alone => e.perform (Producer.queueEvent e.desk event alone)
  | .queue (.error refused) _ => e.perform (Producer.refusal refused)
  | .clear => e.perform (Producer.clear e.desk)
  | .reset => e.perform (Producer.askReset e.desk)
  | .state => (.state e.desk.state, e)
  | .report => (.report e.desk.state.report, e)
  | .poll => (.ok, { e with pollers := e.pollers ++ [.fresh] })
  | .next id => e.next id
  | .release => (.ok, e)
  | .waitRequests command count =>
    e.wait fun e => count ≤ (e.bench.chip.requestsWith command).length
  | .waitPulses count => e.wait fun e => count ≤ e.pulses
  | .waitState s => e.wait fun e => e.desk.state == s
  | .waitLine text => e.wait fun e => e.wrote text
  | .cleanup => (.ok, e.cleanup)
  | .drop => (.ok, e.drop)

/-- The lines that a step added to the producers' log, the earliest first. -/
def newLines (before after : Engine) : List String :=
  ((after.told.take (after.told.length - before.told.length)).reverse).map Notice.line

/-- Ends a rehearsal. -/
def finish (e : Engine) : Engine := e.drop

/-- The first request that the chip was asked, and all later ones but those for its
status: how often the status is asked for depends on how long nothing happens. -/
def shownRequests (e : Engine) : List (List UInt8) :=
  match e.bench.chip.requests with
  | [] => []
  | first :: rest => first :: rest.filter (· != getInfoFrame.bytes)

end Engine

end SerialHid
