/-
SerialHid.Duration — lengths of time, such as the delays of SPEC_FULL §12, Configuration.

* `Duration` — a whole number of nanoseconds.
* `Duration.seconds`, `Duration.subsecond` — its parts: whole seconds, and the nanoseconds
  beyond them.
-/

namespace SerialHid

/-- A length of time. -/
structure Duration where
  nanoseconds : Nat
  deriving DecidableEq, Repr

namespace Duration

/-- The number of nanoseconds in a second. -/
def nanosPerSecond : Nat := 1000000000

/-- No time at all. -/
def zero : Duration := ⟨0⟩

/-- A number of milliseconds. -/
def ofMillis (n : Nat) : Duration := ⟨n * 1000000⟩

/-- The whole seconds. -/
def seconds (d : Duration) : Nat := d.nanoseconds / nanosPerSecond

/-- The nanoseconds beyond the whole seconds. -/
def subsecond (d : Duration) : Nat := d.nanoseconds % nanosPerSecond

end Duration

end SerialHid
