/-
SerialHid.Board — the published state, and those who wait for it to change.

One writer publishes; any number of pollers look. A poller is told a state once and is told
again only when it looks and finds another one, so it may skip states and never sees one
twice in a row (SPEC_FULL §4.6, State Publisher).

* `Board` — the state last published, and whether the publisher is still there.
* `Poller.next : Poller → Board → Poll × Poller` — one look at the board.
* `Follower` — a poller of a state that carries a version: `Follower.look` and `Follower.await` are
  the two halves of its loop, and `Follower.next` is one call, or one more turn of the call that is
  left waiting.
* `Broadcast` — the published state with its followers, numbered in the order in which they came.
* `Broadcast.run` — what a list of steps leads to.

The publisher reports a change only if a field changed. A follower looks at the state, and if it was
told this one last it waits for another version. A version that it has not seen need not be another
state, for changes may have been taken back; so it looks again.
-/
import SerialHid.DeviceState
import SerialHid.Watch

namespace SerialHid

/-- The state last published. -/
structure Board where
  state : DeviceState
  /-- The publisher may still write. -/
  live : Bool
  deriving DecidableEq, Repr

/-- What one look at the board finds. -/
inductive Poll where
  /-- A state that this poller was not told last. -/
  | state (s : DeviceState)
  /-- Nothing new yet. -/
  | pending
  /-- Nothing new, and the publisher is gone. -/
  | ended
  deriving DecidableEq, Repr

/-- One who waits for changes. -/
structure Poller where
  /-- The state that it was told last. -/
  last : Option DeviceState
  deriving DecidableEq, Repr

/-- A poller that was told nothing yet. -/
def Poller.fresh : Poller := ⟨none⟩

/-- One look at the board. -/
def Poller.next (p : Poller) (board : Board) : Poll × Poller :=
  if p.last ≠ some board.state then (.state board.state, ⟨some board.state⟩)
  else if board.live then (.pending, p)
  else (.ended, p)

/-! ## One who follows the state -/

/-- One who follows the state. -/
structure Follower where
  /-- The version seen last. -/
  seen : Nat
  /-- The state told last. -/
  last : Option DeviceState
  /-- A call that finds nothing new is left waiting; otherwise it is given up. -/
  patient : Bool
  /-- A call is left waiting. -/
  waiting : Bool
  deriving DecidableEq, Repr

namespace Follower

mutual

/-- Looks at the state, and has seen its version then. -/
def look (f : Follower) (cell : Watch DeviceState) : Poll × Follower :=
  if f.last ≠ some cell.value then
    (.state cell.value,
      { f with seen := cell.version, last := some cell.value, waiting := false })
  else await { f with seen := cell.version } cell
termination_by 1
decreasing_by simp

/-- Waits for a version that was not seen. -/
def await (f : Follower) (cell : Watch DeviceState) : Poll × Follower :=
  match _h : cell.changed f.seen with
  | .newer version => look { f with seen := version } cell
  | .unchanged => (.pending, { f with waiting := f.patient })
  | .closed => (.ended, { f with waiting := false })
termination_by if f.seen = cell.version then 0 else 2
decreasing_by
  -- The version just looked at has been seen, so the loop turns at most once in a call.
  by_cases hseen : f.seen = cell.version
  · simp only [Watch.changed, hseen, ne_eq, not_true, if_false] at _h
    split at _h <;> cases _h
  · simp [hseen]

end

/-- One call, or one more turn of the call that is left waiting. -/
def next (f : Follower) (cell : Watch DeviceState) : Poll × Follower :=
  if f.waiting then f.await cell else f.look cell

end Follower

/-! ## The state with its followers -/

/-- The published state and everyone who follows it. -/
structure Broadcast where
  cell : Watch DeviceState
  /-- The followers, the earliest first. -/
  followers : List Follower
  deriving DecidableEq, Repr

namespace Broadcast

/-- The initial state, and nobody following. -/
def initial : Broadcast := ⟨.start .initial, []⟩

/-- What is published. -/
def board (b : Broadcast) : Board := ⟨b.cell.value, b.cell.live⟩

/-- What can happen to a published state. -/
inductive Step where
  /-- The publisher replaces the state by a function of it. -/
  | write (change : DeviceState → DeviceState)
  /-- One more follower, whose calls are given up when they find nothing new. -/
  | subscribe
  /-- One more follower, whose calls are left waiting. -/
  | stream
  /-- A follower calls. -/
  | next (id : Nat)
  /-- The publisher goes. -/
  | drop

/-- Replaces the state by a function of it. Only a change is reported. -/
def publish (cell : Watch DeviceState) (change : DeviceState → DeviceState) : Watch DeviceState :=
  cell.modify fun s => (change s, decide (change s ≠ s))

/-- One who starts to follow has seen the current version, but was told nothing yet. -/
def join (b : Broadcast) (patient : Bool) : Broadcast :=
  { b with followers := b.followers ++ [⟨b.cell.version, none, patient, false⟩] }

/-- One step, and what the follower found if it was a call. A publisher that is gone writes no
more. -/
def step (b : Broadcast) : Step → Option Poll × Broadcast
  | .write change =>
    (none, if b.cell.live then { b with cell := publish b.cell change } else b)
  | .subscribe => (none, b.join false)
  | .stream => (none, b.join true)
  | .next id =>
    match b.followers[id]? with
    | none => (none, b)
    | some f =>
      let (found, f) := f.next b.cell
      (some found, { b with followers := b.followers.set id f })
  | .drop => (none, { b with cell := b.cell.close })

/-- A list of steps. -/
def run (b : Broadcast) (steps : List Step) : Broadcast :=
  steps.foldl (fun b s => (b.step s).2) b

end Broadcast

end SerialHid
