/-
SerialHid.Config.Location — where the configuration is looked for (SPEC_FULL §12, Path).

* `Config.Environment` — the variables that decide it.
* `Config.filePath?` — the path of the file.
-/

namespace SerialHid.Config

/-- The variables that decide where the configuration is. -/
structure Environment where
  /-- The file itself. -/
  file : Option String
  /-- The directory of all configurations. -/
  directory : Option String
  /-- The directory of the user. -/
  home : Option String
  deriving DecidableEq, Repr

/-- One path behind another. A slash comes between them unless the first is empty or ends
with one; a second path that begins with a slash stands alone. -/
def joinPath (base part : String) : String :=
  if part.startsWith "/" then part
  else if base.isEmpty || base.endsWith "/" then base ++ part
  else base ++ "/" ++ part

/-- The directory of all configurations. -/
def baseDirectory? (env : Environment) : Option String :=
  env.directory <|> env.home.map (joinPath · ".config")

/-- The path of the configuration, if anything says where it is. -/
def filePath? (env : Environment) : Option String :=
  match env.file with
  | some path => some path
  | none =>
    (baseDirectory? env).map fun base =>
      joinPath (joinPath base "ch9329-hid") "config.toml"

end SerialHid.Config
