/-
SerialHid.Reader — reading one answer from a line that delivers it in pieces (SPEC_FULL §4.3, the
second half of an exchange).

An answer is read in two parts: the partial header, and then as many bytes as that
announces. How the bytes are cut into pieces makes no difference; when they stop coming, what
was read is told and lost.

* `ReadEvent` — what one read brings.
* `Reader.collect : Nat → List ReadEvent → Part` — so many bytes, or what there is.
* `Reader.response : List ReadEvent → Reading` — one whole answer.
-/
import SerialHid.Notice

namespace SerialHid

/-- What one read brings. -/
inductive ReadEvent where
  /-- Bytes have arrived; none at all is the end of the stream. -/
  | data (chunk : List UInt8)
  /-- The read was interrupted and is made again. -/
  | interrupted
  /-- Nothing came in time. -/
  | timedOut
  /-- The line failed. -/
  | failed (reason : String)
  deriving DecidableEq, Repr

/-- What was collected. -/
structure Part where
  bytes : List UInt8
  /-- Why the line failed, if it did. -/
  failure : Option String
  /-- What was not read. -/
  rest : List ReadEvent
  deriving DecidableEq, Repr

/-- What a reading came to. -/
structure Reading where
  answer : Answer
  notices : List Notice
  /-- What was not read. -/
  rest : List ReadEvent

namespace Reader

/-- The part of a chunk that was not taken, as a read to come. -/
def leftover (chunk : List UInt8) (rest : List ReadEvent) : List ReadEvent :=
  if chunk.isEmpty then rest else .data chunk :: rest

/-- Collects `wanted` bytes, or those that come before the line stops. Where nothing is
known to come, nothing comes in time. -/
def collect : Nat → List ReadEvent → Part
  | 0, events => ⟨[], none, events⟩
  | _ + 1, [] => ⟨[], none, []⟩
  | wanted + 1, .data chunk :: rest =>
    if chunk.isEmpty then ⟨[], none, rest⟩
    else if chunk.length ≤ wanted then
      let p := collect (wanted + 1 - chunk.length) rest
      { p with bytes := chunk ++ p.bytes }
    else ⟨chunk.take (wanted + 1), none, leftover (chunk.drop (wanted + 1)) rest⟩
  | wanted + 1, .interrupted :: rest => collect (wanted + 1) rest
  | _ + 1, .timedOut :: rest => ⟨[], none, rest⟩
  | _ + 1, .failed reason :: rest => ⟨[], some reason, rest⟩

/-- Reads `wanted` bytes. -/
def part (wanted : Nat) (events : List ReadEvent) : Reading :=
  let p := collect wanted events
  match p.failure with
  | some reason => ⟨.error (.io reason), [], p.rest⟩
  | none =>
    if p.bytes.length < wanted then
      ⟨.error (.shortRead wanted p.bytes.length), [.lineSilent p.bytes wanted], p.rest⟩
    else ⟨.ok p.bytes, [], p.rest⟩

/-- A failure in the second part, counted against the whole frame. -/
def wholeFrame (h : FrameHeader) : LinkError → LinkError
  | .shortRead _ received => .shortRead h.frameLength (partialHeaderSize + received)
  | e => e

/-- Reads one whole answer. -/
def response (events : List ReadEvent) : Reading :=
  let first := part partialHeaderSize events
  match first.answer with
  | .error _ => first
  | .ok head =>
    match FrameHeader.parse head with
    | .error reason => { first with answer := .error (.badFrame reason) }
    | .ok h =>
      let second := part h.remaining first.rest
      { second with
        answer := (second.answer.map (head ++ ·)).mapError (wholeFrame h)
        notices := first.notices ++ second.notices }

end Reader

end SerialHid
