/-
SerialHid.Pointer — from the host's pointer coordinates to the chip's (SPEC_FULL §3, the moves of
the mouse).

* `Pointer.toDevice : Int → Nat` — scales `hostMin .. hostMax` to `0 .. 4095`, rounding down.

The host's range is stretched so that its middle 65534 steps fill the 4096 columns of the
device; the two ends fall outside and are moved in.
-/

namespace SerialHid.Pointer

/-- The least host coordinate. -/
def hostMin : Int := -32768

/-- The greatest host coordinate. -/
def hostMax : Int := 32767

/-- The number of columns, and of rows, of the device. -/
def resolution : Int := 4096

/-- The greatest device coordinate. -/
def deviceMax : Int := 4095

/-- The greatest step, in either direction, of a relative report. -/
def deltaLimit : Int := 127

/-- The device coordinate before the ends are moved in. -/
def scaled (v : Int) : Int := ((v + 32767) * resolution).fdiv 65534

/-- The device coordinate of a host coordinate. -/
def toDevice (v : Int) : Nat := (min (max (scaled v) 0) deviceMax).toNat

end SerialHid.Pointer
