/-
SerialHid.Job — one request, tried until it is settled or its budget is spent: the loop of the
Request Processor (SPEC_FULL §4.4, steps 1, 2 and 8 to 10).

* `Job` — a request under way: what is left of its two budgets, the failures held back, and
  what it waits for.
* `Job.step? : Settings → Job → Desk → Input → Option (Progress × Desk)` — one step. A
  job that waits for an answer goes on only with an answer, any other without one.

Every failure costs one attempt, and one in which the chip fell silent is charged to the
budget for reads as well. After a malformed answer the chip is asked for its status, so that
both sides find the start of a frame again; what comes of that is of no account.
-/
import SerialHid.Burst
import SerialHid.Desk

namespace SerialHid

/-- What a job waits for. -/
inductive Stage where
  /-- Nothing: it may make an attempt. The first one is made even if the engine stops. -/
  | ready (first : Bool)
  /-- The answer to the request. -/
  | asked
  /-- The answer to the probe that follows a garbled answer. -/
  | probing (f : Failure)
  deriving DecidableEq, Repr

/-- A request under way. -/
structure Job where
  request : List UInt8
  /-- Attempts left. -/
  common : Nat
  /-- Attempts left that may end in silence. -/
  read : Nat
  /-- The failures, and which of them were told. -/
  burst : Burst Failure
  stage : Stage
  deriving DecidableEq, Repr

/-- Where a step leads. -/
inductive Progress where
  | underway (j : Job)
  | returned (ok : Bool)
  deriving DecidableEq, Repr

namespace Job

/-- A request with its whole budget. -/
def start (settings : Settings) (request : List UInt8) : Job where
  request := request
  common := settings.commonRetries
  read := settings.readRetries
  burst := .start settings.errorsThreshold
  stage := .ready true

/-- No attempt is left. -/
def exhausted (j : Job) : Bool := j.common == 0 || j.read == 0

/-- Ends the request: tells the failures still held, and that the budget is spent, if it is. -/
def finish (j : Job) (ok : Bool) (d : Desk) : Progress × Desk :=
  let d := d.notes (j.burst.finish.map .attemptFailed)
  (.returned ok, if j.exhausted then d.note (.exhausted j.request) else d)

/-- The job after an attempt failed: its cost is taken from the budgets. -/
def charge (j : Job) (f : Failure) : Job :=
  { j with
    common := j.common - 1
    read := if f.isShortRead then j.read - 1 else j.read
    burst := (j.burst.record f).2
    stage := .ready false }

/-- Ends an attempt that failed. Any failure but a permanent one leaves the chip offline. -/
def fail (j : Job) (f : Failure) (d : Desk) : Progress × Desk :=
  let d := (d.record (.failed f)).notes ((j.burst.record f).1.map .attemptFailed)
  if f.isPermanent then (j.charge f).finish false d
  else (.underway (j.charge f), d.write (·.setOnline false))

/-- Sends the request, or ends without doing so. -/
def attempt (settings : Settings) (j : Job) (first : Bool) (d : Desk) : Progress × Desk :=
  if j.exhausted then j.finish false d
  else if !first && d.stop then j.finish false (d.note (.abandoned j.request))
  else if settings.noop then j.finish true ((d.write (·.pretend)).record .pretended)
  else (.underway { j with stage := .asked }, d.record (.sent j.request false d.state))

/-- Tells an answer, if there is one. -/
def tell (j : Job) (a : Answer) (d : Desk) : Desk :=
  match a with
  | .ok response => d.note (.exchanged j.request response)
  | .error _ => d

/-- Takes the answer to the request. -/
def receive (j : Job) (a : Answer) (d : Desk) : Progress × Desk :=
  let d := j.tell a d
  match judge j.request a with
  | .settled => j.finish true d
  | .status s =>
    let d := (d.note (.firmware s.version)).record (.accepted s)
    j.finish true (d.write fun _ => .setStatus s.online s.leds)
  | .failed f =>
    if f.isGarbled then
      (.underway { j with stage := .probing f },
        d.record (.sent getInfoFrame.bytes true d.state))
    else j.fail f d

/-- Takes the answer to the probe. -/
def resume (j : Job) (f : Failure) (a : Answer) (d : Desk) : Progress × Desk :=
  match a with
  | .ok _ => j.fail f d
  | .error e => j.fail f (d.note (.resyncFailed e))

/-- What makes a job go on. -/
inductive Input where
  | proceed
  | answer (a : Answer)

/-- One step. -/
def step? (settings : Settings) (j : Job) (d : Desk) : Input → Option (Progress × Desk)
  | .proceed =>
    match j.stage with
    | .ready first => some (j.attempt settings first d)
    | .asked => none
    | .probing _ => none
  | .answer a =>
    match j.stage with
    | .ready _ => none
    | .asked => some (j.receive a d)
    | .probing f => some (j.resume f a d)

/-- The request whose answer the job waits for. -/
def pending? (j : Job) : Option (List UInt8) :=
  match j.stage with
  | .ready _ => none
  | .asked => some j.request
  | .probing _ => some getInfoFrame.bytes

end Job

end SerialHid
