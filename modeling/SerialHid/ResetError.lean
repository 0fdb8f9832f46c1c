/-
SerialHid.ResetError — why a reset line could not be driven (SPEC_FULL §14, Hardware Reset
Collaborator).
-/

namespace SerialHid

/-- A file of the reset line could not be written. -/
structure ResetError where
  path : String
  /-- What the system says about it. -/
  reason : String
  deriving DecidableEq, Repr

/-- The text of the failure. -/
def ResetError.message (e : ResetError) : String :=
  "reset line I/O error on " ++ e.path ++ ": " ++ e.reason

/-- How a pulse of the reset line ended. -/
inductive Pulse where
  | done
  /-- There is no line. -/
  | skipped
  | failed (e : ResetError)
  deriving DecidableEq, Repr

end SerialHid
