/-
SerialHid.Text.Hex — bytes written in base sixteen, as frames are in the log (SPEC_FULL §11).

* `Hex.lower`, `Hex.upper : UInt8 → String` — one byte as two digits.
* `Hex.spaced : List UInt8 → String` — bytes with one space between them, the form
  that log lines and messages use.
* `Hex.packed : List UInt8 → String` — bytes with nothing between them, the form
  of an observation.
-/

namespace SerialHid.Hex

/-- The digit of a value below sixteen, with the letters starting at `letterA`. -/
def digit (letterA : Char) (n : Nat) : Char :=
  if n < 10 then Char.ofNat (48 + n) else Char.ofNat (letterA.toNat + (n - 10))

/-- Both digits of a byte, the high one first. -/
def digits (letterA : Char) (b : UInt8) : List Char :=
  [digit letterA (b.toNat / 16), digit letterA (b.toNat % 16)]

/-- A byte with small letters: `ab`. -/
def lower (b : UInt8) : String := String.ofList (digits 'a' b)

/-- A byte with capital letters: `AB`. -/
def upper (b : UInt8) : String := String.ofList (digits 'A' b)

/-- Bytes separated by single spaces: `57 ab 00`. -/
def spaced (bytes : List UInt8) : String := " ".intercalate (bytes.map lower)

/-- Bytes one after the other: `57ab00`. -/
def packed (bytes : List UInt8) : String := String.join (bytes.map lower)

end SerialHid.Hex
