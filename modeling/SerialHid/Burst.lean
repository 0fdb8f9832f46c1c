/-
SerialHid.Burst — messages held back until there are too many of them.

A passing fault causes a few messages of which nobody wants to read before its end; a
lasting one should be seen while it lasts. So the first `threshold` messages are held, the
next one lets all of them out at once, and each one after that is let out as it comes
(SPEC_FULL §4.4, step 8 of the Request Processor).

* `Burst α` — the threshold, the messages held, and whether they have been let out.
* `Burst.record : Burst α → α → List α × Burst α` — takes one more message and says which
  are due.
* `Burst.recordAll` — takes a list of messages, one after the other.
* `Burst.finish : Burst α → List α` — the messages that are still held at the end.
-/

namespace SerialHid

/-- Messages of one request, held back up to a threshold. -/
structure Burst (α : Type) where
  /-- The number of messages that may be held. -/
  threshold : Nat
  /-- The messages held, the earliest first. -/
  held : List α
  /-- The threshold was passed, and nothing is held any more. -/
  live : Bool
  deriving DecidableEq, Repr

namespace Burst

variable {α : Type}

/-- Nothing recorded yet. -/
def start (threshold : Nat) : Burst α := ⟨threshold, [], false⟩

/-- Takes one more message; the first result is what is due now. -/
def record (b : Burst α) (message : α) : List α × Burst α :=
  if b.live then ([message], b)
  else if b.held.length + 1 > b.threshold then
    (b.held ++ [message], { b with held := [], live := true })
  else ([], { b with held := b.held ++ [message] })

/-- Takes messages one after the other; one list of due messages for each. -/
def recordAll (b : Burst α) : List α → List (List α) × Burst α
  | [] => ([], b)
  | m :: ms =>
    let (due, b) := b.record m
    let (later, b) := b.recordAll ms
    (due :: later, b)

/-- What is still held when the request ends. -/
def finish (b : Burst α) : List α := b.held

end Burst

end SerialHid
