/-
SerialHid.Frame — the frames that the host and the chip exchange.

A frame is `57 AB 00`, a command byte, the length of the payload in one byte, the
payload, and the low byte of the sum of all that precedes (SPEC_FULL §3, Frame, and §4.1, Frame
Codec).

* `Frame` — a command and a payload of at most 255 bytes; `Frame.bytes` writes it out.
* `Frame.parse : List UInt8 → Except FrameError Frame` — reads exactly one frame and
  says what is wrong with anything else.
* `FrameHeader.parse` — reads the five bytes from which the length of the whole frame
  follows.
* `verifies : List UInt8 → Bool` — the checksum test alone.
-/
import SerialHid.Text.Hex

namespace SerialHid

/-! ## Sizes and fixed bytes -/

/-- The three bytes that open every frame. -/
def frameHeader : List UInt8 := [0x57, 0xAB, 0x00]

/-- The place of the command in a frame. -/
def commandIndex : Nat := 3

/-- Header, command and length: what must be read before the length of a frame is known. -/
def partialHeaderSize : Nat := 5

/-- The size of a frame without payload. -/
def minFrameSize : Nat := 6

/-- The sum of the bytes, modulo 256. -/
def checksum : List UInt8 → UInt8
  | [] => 0
  | b :: bs => b + checksum bs

/-! ## Reasons for refusal -/

/-- Why bytes are not a frame. -/
inductive FrameError where
  /-- Too short to hold the header, the command and the length. -/
  | insufficientData (needed available : Nat)
  /-- The first three bytes are not `57 AB 00`. -/
  | badHeader (b0 b1 b2 : UInt8)
  /-- The length byte announces another payload than there is. -/
  | payloadLengthMismatch (declared available : Nat)
  /-- The last byte is not the checksum of those before it. -/
  | checksumMismatch (expected actual : UInt8)
  deriving DecidableEq, Repr

/-- The text of a refusal. -/
def FrameError.message : FrameError → String
  | .insufficientData needed available =>
    s!"insufficient data: need at least {needed} bytes, got {available}"
  | .badHeader b0 b1 b2 =>
    "bad frame header: [" ++ ", ".intercalate ([b0, b1, b2].map Hex.upper) ++ "]"
  | .payloadLengthMismatch declared available =>
    s!"payload length mismatch: header says {declared}, available is {available}"
  | .checksumMismatch expected actual =>
    "checksum mismatch: expected 0x" ++ Hex.upper expected ++ ", got 0x" ++ Hex.upper actual

/-! ## The partial header -/

/-- What the first five bytes of a frame say. -/
structure FrameHeader where
  command : UInt8
  /-- The announced length of the payload. -/
  declared : UInt8
  deriving DecidableEq, Repr

namespace FrameHeader

/-- The number of bytes after the partial header: the payload and the checksum. -/
def remaining (h : FrameHeader) : Nat := h.declared.toNat + 1

/-- The length of the whole frame. -/
def frameLength (h : FrameHeader) : Nat := partialHeaderSize + h.remaining

/-- Reads the partial header at the start of `bytes`; what follows it is not looked at. -/
def parse : List UInt8 → Except FrameError FrameHeader
  | b0 :: b1 :: b2 :: command :: declared :: _ =>
    if [b0, b1, b2] = frameHeader then .ok ⟨command, declared⟩
    else .error (.badHeader b0 b1 b2)
  | bytes => .error (.insufficientData partialHeaderSize bytes.length)

end FrameHeader

/-! ## Frames -/

/-- A frame: its command and a payload whose length fits the length byte. -/
structure Frame where
  command : UInt8
  payload : List UInt8
  payload_le : payload.length ≤ 255 := by decide
  deriving DecidableEq, Repr

namespace Frame

/-- Everything before the checksum. -/
def body (f : Frame) : List UInt8 :=
  frameHeader ++ f.command :: UInt8.ofNat f.payload.length :: f.payload

/-- The checksum byte of the frame. -/
def checksum (f : Frame) : UInt8 := SerialHid.checksum f.body

/-- The frame as it goes over the wire. -/
def bytes (f : Frame) : List UInt8 := f.body ++ [f.checksum]

/-- The frame with this command and payload, if the payload fits. -/
def ofPayload? (command : UInt8) (payload : List UInt8) : Option Frame :=
  if h : payload.length ≤ 255 then some ⟨command, payload, h⟩ else none

/-- Reads `bytes` as exactly one frame. The header is judged first, then the length, then
the checksum. -/
def parse (bytes : List UInt8) : Except FrameError Frame :=
  match FrameHeader.parse bytes with
  | .error e => .error e
  | .ok h =>
    if len : bytes.length = h.frameLength then
      let expected := SerialHid.checksum bytes.dropLast
      let actual := bytes.getLastD 0
      if expected = actual then
        .ok ⟨h.command, bytes.dropLast.drop partialHeaderSize, by
          have := h.declared.toNat_lt
          simp only [List.length_drop, List.length_dropLast, len, FrameHeader.frameLength,
            FrameHeader.remaining]
          omega⟩
      else .error (.checksumMismatch expected actual)
    else .error (.payloadLengthMismatch h.declared.toNat (bytes.length - minFrameSize))

/-- The frame as it is shown to a person: `Frame(57 ab 00 01 00 03)`. -/
def display (f : Frame) : String := "Frame(" ++ Hex.spaced f.bytes ++ ")"

end Frame

/-- Whether the last byte is the checksum of the others, for bytes long enough to be a frame.
The header and the length byte are not looked at. -/
def verifies (bytes : List UInt8) : Bool :=
  minFrameSize ≤ bytes.length && checksum bytes.dropLast == bytes.getLastD 0

end SerialHid
