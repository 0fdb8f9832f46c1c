/-
SerialHid.Number.Binary64 — numbers of 64 bits: a sign, eleven bits of exponent, 52 of
fraction. The delays of a configuration are such numbers (SPEC_FULL §12).

* `Binary64` — the bits; `Binary64.significand`, `Binary64.exponent` — a finite magnitude as
  a whole number times a power of two.
* `Binary64.ofRatio`, `ofDecimal`, `ofInt` — the nearest number to an exact one; of two, the
  one with an even significand.
* `Binary64.atLeast` — the order of numbers, in which nothing is as large as a NaN or less.
* `Binary64.duration?` — a number of seconds as a length of time.
-/
import SerialHid.Duration
import SerialHid.Number.Rounding

namespace SerialHid

/-- A number of 64 bits. -/
structure Binary64 where
  bits : UInt64
  deriving DecidableEq, Repr

namespace Binary64

/-! ## Parts -/

/-- The number is negative, or a zero or a NaN with the sign of one. -/
def isNegative (x : Binary64) : Bool := Nat.pow 2 63 ≤ x.bits.toNat

/-- The bits without the sign. -/
def magnitude (x : Binary64) : Nat := x.bits.toNat % Nat.pow 2 63

/-- The bits of an infinity without its sign. -/
def infiniteMagnitude : Nat := 0x7FF * Nat.pow 2 52

/-- Not a number. -/
def isNaN (x : Binary64) : Bool := infiniteMagnitude < x.magnitude

/-- One of the two infinities. -/
def isInfinite (x : Binary64) : Bool := x.magnitude == infiniteMagnitude

/-- The field of the exponent. -/
def exponentField (x : Binary64) : Nat := x.magnitude / Nat.pow 2 52

/-- The field of the fraction. -/
def fraction (x : Binary64) : Nat := x.magnitude % Nat.pow 2 52

/-- The whole number that a finite magnitude is a multiple of a power of two by. -/
def significand (x : Binary64) : Nat :=
  if x.exponentField = 0 then x.fraction else Nat.pow 2 52 + x.fraction

/-- The exponent of that power of two. -/
def exponent (x : Binary64) : Int := (max x.exponentField 1 : Nat) - 1075

/-- The gap to the next smaller magnitude is half of the gap to the next larger one. -/
def narrowBelow (x : Binary64) : Bool := x.fraction == 0 && 1 < x.exponentField

/-! ## From exact numbers -/

/-- The bits with this magnitude and sign. -/
def ofMagnitude (negative : Bool) (magnitude : Nat) : Binary64 :=
  ⟨UInt64.ofNat (magnitude + if negative then Nat.pow 2 63 else 0)⟩

/-- The infinity of this sign. -/
def infinity (negative : Bool) : Binary64 := ofMagnitude negative infiniteMagnitude

/-- A quiet NaN. -/
def nan (negative : Bool) : Binary64 := ofMagnitude negative (infiniteMagnitude + Nat.pow 2 51)

/-- A zero of this sign. -/
def zero (negative : Bool) : Binary64 := ofMagnitude negative 0

/-- Whether `2 ^ k ≤ num / den`. -/
def reaches (num den : Nat) (k : Int) : Bool :=
  den * Nat.pow 2 k.toNat ≤ num * Nat.pow 2 (-k).toNat

/-- The exponent of the greatest power of two that a positive quotient reaches. -/
def floorLog (num den : Nat) : Int :=
  let k : Int := (num.log2 : Int) - (den.log2 : Int)
  if reaches num den k then k else k - 1

/-- The nearest number to a quotient. A magnitude that is a whole number of units of the
least exponent has that number for its bits, and each further exponent adds `2 ^ 52`. -/
def ofRatio (negative : Bool) (num den : Nat) : Binary64 :=
  if num = 0 then zero negative
  else
    let e := max (floorLog num den - 52) (-1074)
    let m := roundEven (num * Nat.pow 2 (-e).toNat) (den * Nat.pow 2 e.toNat)
    ofMagnitude negative (min ((e + 1074).toNat * Nat.pow 2 52 + m) infiniteMagnitude)

/-- The number of decimal digits of a number; zero has none. -/
def decimalLength (n : Nat) : Nat := if n = 0 then 0 else (Nat.toDigits 10 n).length

/-- The nearest number to `digits * 10 ^ exponent`. Beyond the largest and the least number
the exact value is of no account. -/
def ofDecimal (negative : Bool) (digits : Nat) (exponent : Int) : Binary64 :=
  let size : Int := decimalLength digits + exponent
  if digits = 0 ∨ size < -330 then zero negative
  else if 330 < size then infinity negative
  else ofRatio negative (digits * Nat.pow 10 exponent.toNat) (Nat.pow 10 (-exponent).toNat)

/-- The nearest number to a whole number. -/
def ofInt (i : Int) : Binary64 := ofRatio (i < 0) i.natAbs 1

/-! ## Order -/

/-- The place of a number that is no NaN among all of them; both zeros have the same. -/
def rank (x : Binary64) : Int := if x.isNegative then -(x.magnitude : Int) else x.magnitude

/-- Whether a number is at least another. A NaN is neither. -/
def atLeast (x y : Binary64) : Bool := !x.isNaN && !y.isNaN && decide (y.rank ≤ x.rank)

/-! ## Seconds -/

/-- The first number of seconds that is too large for a length of time. -/
def tooManySeconds : Nat := Nat.pow 2 64

/-- The length of time of so many seconds, to the nearest nanosecond; of two, the even one.
There is none for what is negative, not finite, or too large. -/
def duration? (x : Binary64) : Option Duration :=
  let num := x.significand * Nat.pow 2 x.exponent.toNat
  let den := Nat.pow 2 (-x.exponent).toNat
  if x.isNaN || x.isInfinite || x.rank < 0 then none
  else if tooManySeconds * den ≤ num then none
  else some ⟨roundEven (num * Duration.nanosPerSecond) den⟩

end Binary64

end SerialHid
