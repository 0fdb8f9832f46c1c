/-
SerialHid.Watch — a value with a version, by which readers learn that it was replaced: the channel
through which SPEC_FULL §9 publishes the device state.

There is one writer. Each change that it reports moves the version on. A reader keeps the version
that it saw last, and one that has seen the current version waits until there is another one, or
until the writer is gone.

* `Watch α` — the value, its version, and whether the writer is still there.
* `Watch.modify` — replaces the value, and moves the version on if a change is reported.
* `Watch.changed` — what a reader finds that waits for a version it has not seen.
-/

namespace SerialHid

/-- A value that can be watched. -/
structure Watch (α : Type) where
  value : α
  /-- How many changes were reported. -/
  version : Nat
  /-- The writer is still there. -/
  live : Bool
  deriving DecidableEq, Repr

namespace Watch

variable {α : Type}

/-- What a reader finds that waits. -/
inductive Change where
  /-- A version that it has not seen. It has seen it now. -/
  | newer (version : Nat)
  /-- It has seen the current version. -/
  | unchanged
  /-- It has seen the last version there will be. -/
  | closed
  deriving DecidableEq, Repr

/-- A value that nobody has changed yet. -/
def start (value : α) : Watch α := ⟨value, 0, true⟩

/-- Replaces the value; the flag that comes with the new one reports a change. -/
def modify (w : Watch α) (change : α → α × Bool) : Watch α :=
  let (value, reported) := change w.value
  { w with value, version := if reported then w.version + 1 else w.version }

/-- The writer goes. -/
def close (w : Watch α) : Watch α := { w with live := false }

/-- What a reader finds that waits and saw this version last. -/
def changed (w : Watch α) (seen : Nat) : Change :=
  if seen ≠ w.version then .newer w.version
  else if w.live then .unchanged
  else .closed

end Watch

end SerialHid
