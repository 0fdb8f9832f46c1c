/-
SerialHid.Settings — how patient the engine is with the chip: the parameters of the Request
Processor (SPEC_FULL §4.4).

* `Settings` — the two retry budgets, the pause between attempts, how many failures are held
  back, and whether the wire is left alone.
-/
import SerialHid.Duration

namespace SerialHid

/-- How often a request is tried and how its failures are told. -/
structure Settings where
  /-- Attempts that may end because the chip fell silent. -/
  readRetries : Nat := 5
  /-- Attempts that may end in any failure worth another attempt. -/
  commonRetries : Nat := 5
  /-- The pause between two attempts. -/
  retriesDelay : Duration := .ofMillis 500
  /-- The number of failures of a request that are held back before they are told. -/
  errorsThreshold : Nat := 5
  /-- Nothing is sent, and every request counts as a success. -/
  noop : Bool := false
  deriving DecidableEq, Repr

end SerialHid
