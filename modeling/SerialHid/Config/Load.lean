/-
SerialHid.Config.Load — the configuration in a file.

* `Config.Found` — what is found at the path of the file.
* `Config.LoadError` — why there is no configuration.
* `Config.loadBy` — the configuration, read by any reader of texts and checked; without a file all
  of it has its defaults.
* `Config.load : String → Found → Except LoadError Sections` — the configuration, read as TOML
  (SPEC_FULL §12, Configuration).
-/
import SerialHid.Config.Decode
import SerialHid.Config.Location
import SerialHid.Toml.Document

namespace SerialHid.Config

/-- What is found at the path of the file. -/
inductive Found where
  | nothing
  /-- Something that cannot be read, and what the system says about it. -/
  | unreadable (reason : String)
  | content (bytes : ByteArray)

/-- The system's word for a directory in the place of a file. -/
def directoryFound : Found := .unreadable "Is a directory (os error 21)"

/-- Why there is no configuration. -/
inductive LoadError where
  /-- Nothing says where the file is. -/
  | noDirectory
  /-- The file cannot be read. -/
  | io (path reason : String)
  /-- The text is no configuration. -/
  | malformed
  /-- A field has a value that it may not hold. -/
  | invalid (v : Violation)
  deriving DecidableEq, Repr

/-- The text of an error. -/
def LoadError.message : LoadError → String
  | noDirectory => "could not determine config directory"
  | io path reason => "I/O error accessing config at " ++ path ++ ": " ++ reason
  | malformed => "failed to parse config TOML"
  | invalid v => v.message

/-- The configuration, if no field of it is violated. -/
def checked (c : Sections) : Except LoadError Sections :=
  match c.violation? with
  | some v => .error (.invalid v)
  | none => .ok c

section Reader

variable (read? : String → Option Sections)

/-- The configuration in a text. -/
def ofText (text : String) : Except LoadError Sections :=
  match read? text with
  | some c => checked c
  | none => .error .malformed

/-- The configuration in what was found at a path. -/
def loadBy (path : String) : Found → Except LoadError Sections
  | .nothing => checked {}
  | .unreadable reason => .error (.io path reason)
  | .content bytes =>
    match String.fromUTF8? bytes with
    | some text => ofText read? text
    | none => .error (.io path "stream did not contain valid UTF-8")

end Reader

/-- The configuration that a TOML text describes. -/
def ofToml? (text : String) : Option Sections := (Toml.parse? text).bind ofTable?

/-- The configuration in what was found at a path, where texts are TOML. -/
def load (path : String) (found : Found) : Except LoadError Sections := loadBy ofToml? path found

end SerialHid.Config
