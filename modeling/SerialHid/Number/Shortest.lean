/-
SerialHid.Number.Shortest — a number in as few digits as identify it, as the delays in violations
are shown (SPEC_FULL §12, Configuration).

The reals that are nearer to a number than to any other form an interval. Its text is the
decimal in that interval with the fewest digits, and of those the nearest. It is written
without an exponent, however long that makes it.

* `Decimal` — digits times a power of ten.
* `Binary64.readsBack : Binary64 → Decimal → Bool` — the decimal lies in the interval.
* `Binary64.shortest : Binary64 → Decimal` — the decimal of the text.
* `Binary64.text : Binary64 → String` — the text.
-/
import SerialHid.Number.Binary64

namespace SerialHid

/-- A number of digits and the power of ten that the last of them stands for. -/
structure Decimal where
  digits : Nat
  exponent : Int
  deriving DecidableEq, Repr

namespace Decimal

/-- Compares `a * 10 ^ i` with `n * 2 ^ j`. -/
def compareScaled (a : Nat) (i : Int) (n : Nat) (j : Int) : Ordering :=
  compare (a * Nat.pow 10 i.toNat * Nat.pow 2 (-j).toNat)
    (n * Nat.pow 2 j.toNat * Nat.pow 10 (-i).toNat)

/-- So many zeros. -/
def zeros (n : Nat) : List Char := List.replicate n '0'

/-- The number of zeros at the end of the digits. -/
def trailingZeros (d : Decimal) : Nat :=
  ((Nat.toDigits 10 d.digits).reverse.takeWhile (· == '0')).length

/-- The same decimal without zeros at the end of its digits. -/
def trimmed (d : Decimal) : Decimal :=
  ⟨d.digits / Nat.pow 10 d.trailingZeros, d.exponent + d.trailingZeros⟩

/-- The decimal written without an exponent. -/
def positional (d : Decimal) : List Char :=
  let ds := Nat.toDigits 10 d.digits
  let whole : Int := ds.length + d.exponent
  if 0 ≤ d.exponent then ds ++ zeros d.exponent.toNat
  else if 0 < whole then ds.take whole.toNat ++ '.' :: ds.drop whole.toNat
  else '0' :: '.' :: zeros (-whole).toNat ++ ds

end Decimal

namespace Binary64

open Decimal (compareScaled)

/-- Whether a decimal lies among the reals that a finite magnitude stands for: those up to
halfway to its neighbours, and the halves themselves if the significand is even. -/
def readsBack (x : Binary64) (d : Decimal) : Bool :=
  let centre := 4 * x.significand
  let unit := x.exponent - 2
  let even := x.significand % 2 == 0
  let low := compareScaled d.digits d.exponent (centre - if x.narrowBelow then 1 else 2) unit
  let high := compareScaled d.digits d.exponent (centre + 2) unit
  (low == .gt || (even && low == .eq)) && (high == .lt || (even && high == .eq))

/-- A whole number just below the decimal logarithm of a positive magnitude. -/
def scaleGuess (x : Binary64) : Int :=
  (((x.significand.log2 : Int) + x.exponent) * 30103).fdiv 100000 - 1

/-- The least exponent of a power of ten above a positive magnitude. -/
def scale (x : Binary64) : Int :=
  let guess := x.scaleGuess
  let above (i : Nat) : Bool :=
    compareScaled 1 (guess + i) x.significand x.exponent == .gt
  match (List.range 4).find? above with
  | some i => guess + i
  | none => guess + 4

/-- The greatest number of units of `10 ^ grid` in a magnitude. -/
def unitsBelow (x : Binary64) (grid : Int) : Nat :=
  (x.significand * Nat.pow 2 x.exponent.toNat * Nat.pow 10 (-grid).toNat)
    / (Nat.pow 2 (-x.exponent).toNat * Nat.pow 10 grid.toNat)

/-- Of the two decimals around a magnitude on a grid, the nearer one that reads back; the
upper one if they are equally near. -/
def onGrid? (x : Binary64) (grid : Int) : Option Decimal :=
  let down : Decimal := ⟨x.unitsBelow grid, grid⟩
  let up : Decimal := ⟨x.unitsBelow grid + 1, grid⟩
  match x.readsBack down, x.readsBack up with
  | true, true =>
    let middle := compareScaled (down.digits + up.digits) grid x.significand (x.exponent + 1)
    some (if middle == .gt then down else up)
  | true, false => some down
  | false, true => some up
  | false, false => none

/-- The magnitude in full. -/
def exact (x : Binary64) : Decimal :=
  ⟨x.significand * Nat.pow 2 x.exponent.toNat * Nat.pow 5 (-x.exponent).toNat, min x.exponent 0⟩

/-- The decimal with the fewest digits that reads back as a positive magnitude. Seventeen
digits are always enough. -/
def shortest (x : Binary64) : Decimal :=
  let scale := x.scale
  match (List.range 17).findSome? fun n => x.onGrid? (scale - (n + 1 : Nat)) with
  | some d => d
  | none => x.exact

/-- The text of a number. A NaN has no sign, and a zero keeps its own. -/
def text (x : Binary64) : String :=
  if x.isNaN then "NaN"
  else
    let sign := if x.isNegative then ['-'] else []
    let body :=
      if x.isInfinite then "inf".toList
      else if x.magnitude = 0 then ['0']
      else x.shortest.trimmed.positional
    String.ofList (sign ++ body)

end Binary64

end SerialHid
