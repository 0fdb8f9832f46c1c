/-
SerialHid.Toml.Numeral — whole numbers and numbers with a fraction or an exponent.

* `numeral?` — a number. Underscores may stand between digits; whole numbers have to fit 64
  bits with a sign; a number too large for its 64 bits is refused unless it is negative.
-/
import SerialHid.Toml.Moment
import SerialHid.Toml.Quotation
import SerialHid.Toml.Value

namespace SerialHid.Toml

/-- Digits of one base with single underscores between them, after a first one was read. -/
def moreDigits (value? : Char → Option Nat) : List Char → List Nat × List Char
  | '_' :: c :: s =>
    match value? c with
    | some d =>
      let (ds, s) := moreDigits value? s
      (d :: ds, s)
    | none => ([], '_' :: c :: s)
  | c :: s =>
    match value? c with
    | some d =>
      let (ds, s) := moreDigits value? s
      (d :: ds, s)
    | none => ([], c :: s)
  | [] => ([], [])

/-- One digit or more. -/
def digits? (value? : Char → Option Nat) : Reader (List Nat)
  | [] => none
  | c :: s => do
    let d ← value? c
    let (ds, s) := moreDigits value? s
    return (d :: ds, s)

/-- The number that digits of a base make. -/
def ofDigits (base : Nat) (ds : List Nat) : Nat := ds.foldl (fun n d => base * n + d) 0

/-- The digits of a whole number; a zero in front stands alone. -/
def wholeDigits? : Reader (List Nat)
  | '0' :: s => some ([0], s)
  | s => digits? decimalValue? s

/-- The value of a digit in base eight. -/
def octalValue? (c : Char) : Option Nat :=
  if '0' ≤ c ∧ c ≤ '7' then some (c.toNat - '0'.toNat) else none

/-- The value of a digit in base two. -/
def binaryValue? (c : Char) : Option Nat :=
  if c = '0' then some 0 else if c = '1' then some 1 else none

/-- A whole number that fits 64 bits with a sign. -/
def integer? (i : Int) : Option Value :=
  if -0x8000000000000000 ≤ i ∧ i < 0x8000000000000000 then some (.integer i) else none

/-- A whole number in another base, after its mark. -/
def based? (base : Nat) (value? : Char → Option Nat) : Reader Value := fun s => do
  let (ds, s) ← digits? value? s
  let v ← integer? (ofDigits base ds)
  return (v, s)

/-- The digits after a point, if there is one; none may be missing. -/
def fraction? : Reader (Option (List Nat))
  | '.' :: s => do
    let (ds, s) ← digits? decimalValue? s
    return (some ds, s)
  | s => some (none, s)

/-- A sign, if there is one, and whether it is a minus. -/
def skipSign : List Char → Bool × List Char
  | '-' :: s => (true, s)
  | '+' :: s => (false, s)
  | s => (false, s)

/-- The exponent of ten, if there is one. -/
def exponent? : Reader (Option Int)
  | c :: s =>
    if c = 'e' ∨ c = 'E' then do
      let (negative, s) := skipSign s
      let (ds, s) ← digits? decimalValue? s
      let n : Int := ofDigits 10 ds
      return (some (if negative then -n else n), s)
    else some (none, c :: s)
  | [] => some (none, [])

/-- A number that is not whole, unless it is beyond the largest. -/
def float? (x : Binary64) : Option Value :=
  if x = .infinity false then none else some (.float x)

/-- A decimal number after its sign. -/
def decimal? (negative : Bool) : Reader Value := fun s => do
  let (whole, s) ← wholeDigits? s
  let (fraction, s) ← fraction? s
  let (exponent, s) ← exponent? s
  if fraction.isNone && exponent.isNone then
    let n : Int := ofDigits 10 whole
    let v ← integer? (if negative then -n else n)
    return (v, s)
  else
    let decimals := fraction.getD []
    let scale : Int := exponent.getD 0 - decimals.length
    let v ← float? (.ofDecimal negative (ofDigits 10 (whole ++ decimals)) scale)
    return (v, s)

/-- An infinity or a NaN after its sign. -/
def special? (negative : Bool) : Reader Value
  | 'i' :: 'n' :: 'f' :: s => some (.float (.infinity negative), s)
  | 'n' :: 'a' :: 'n' :: s => some (.float (.nan negative), s)
  | _ => none

/-- A number. -/
def numeral? : Reader Value
  | '0' :: 'x' :: s => based? 16 hexValue? s
  | '0' :: 'o' :: s => based? 8 octalValue? s
  | '0' :: 'b' :: s => based? 2 binaryValue? s
  | s =>
    let (negative, s) := skipSign s
    match special? negative s with
    | some r => some r
    | none => decimal? negative s

end SerialHid.Toml
