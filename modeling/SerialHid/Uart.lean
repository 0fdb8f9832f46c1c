/-
SerialHid.Uart — a chip at the end of a serial line (SPEC_FULL §4.3, exchange).

* `Uart` — an open line and what waits in it unread.
* `Uart.open?` — opens a line, if there is a device of that name.
* `Uart.exchange` — one request and the answer to it. Whatever waits unread when a request
  is sent belongs to an earlier one, and is thrown away.
-/
import SerialHid.Reader

namespace SerialHid

/-- An open serial line. -/
structure Uart where
  path : String
  /-- What waits to be read. -/
  unread : List ReadEvent
  deriving DecidableEq, Repr

/-- What an exchange came to. -/
structure Exchanged where
  answer : Answer
  /-- The bytes that went out. -/
  wire : List UInt8
  notices : List Notice

namespace Uart

/-- Why a device that does not exist cannot be opened. -/
def noSuchDevice : LinkError := .io "No such file or directory"

/-- The reads that bring these chunks; a chunk without bytes brings no read. -/
def reads (chunks : List (List UInt8)) : List ReadEvent :=
  (chunks.filter (!·.isEmpty)).map .data

/-- Opens the line to the device with this path. -/
def open? (present : Bool) (path : String) (speed : Nat) :
    Except LinkError (Uart × List Notice) :=
  if present then .ok (⟨path, []⟩, [.lineOpened path speed]) else .error noSuchDevice

/-- Bytes arrive that nobody asked for. -/
def arrive (u : Uart) (chunks : List (List UInt8)) : Uart :=
  { u with unread := u.unread ++ reads chunks }

/-- One request; `reply` is what the chip sends for it before it falls silent. What is no
request is refused, and nothing goes out. -/
def exchange (u : Uart) (request : List UInt8) (reply : List (List UInt8)) : Exchanged × Uart :=
  match checkRequest request with
  | .error e => (⟨.error e, [], []⟩, u)
  | .ok () =>
    let reading := Reader.response (reads reply)
    (⟨reading.answer, request, reading.notices⟩, { u with unread := reading.rest })

end Uart

end SerialHid
