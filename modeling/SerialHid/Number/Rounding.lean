/-
SerialHid.Number.Rounding — rounding a quotient to the nearest whole number.

* `roundEven : Nat → Nat → Nat` — the nearest whole number to a quotient; of two that are
  equally near, the even one.
-/

namespace SerialHid

/-- The whole number nearest to `num / den`; of two, the even one. -/
def roundEven (num den : Nat) : Nat :=
  let down := num / den
  let rest := 2 * (num % den)
  if rest < den then down
  else if den < rest then down + 1
  else down + down % 2

end SerialHid
