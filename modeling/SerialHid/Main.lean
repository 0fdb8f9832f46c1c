/-
SerialHid.Main — the program: a dry run of the configuration, with a rehearsal in the place of the
daemon of SPEC_FULL §15.

It looks for the configuration, checks it, and rehearses one session with a simulated chip:
the engine starts, asks the chip for its status, and ends. What the worker did and the state
in which it left the device are printed.
-/
import SerialHid.Config.Load
import SerialHid.Engine

namespace SerialHid

/-- The variables that decide where the configuration is. -/
def environment : IO Config.Environment := do
  return ⟨← IO.getEnv "CH9329_CONFIG", ← IO.getEnv "XDG_CONFIG_HOME", ← IO.getEnv "HOME"⟩

/-- What is found at a path. -/
def foundAt (path : String) : IO Config.Found := do
  try
    return .content (← IO.FS.readBinFile path)
  catch
    | .noFileOrDirectory .. => return .nothing
    | e => return .unreadable (toString e)

/-- The configuration, or why there is none. -/
def configuration : IO (Except Config.LoadError Config.Sections) := do
  match Config.filePath? (← environment) with
  | none => return .error .noDirectory
  | some path => return Config.load path (← foundAt path)

/-- The line of a reset: one that always works, if a pin is given. -/
def rehearsalLine (c : Config.Sections) : BenchLine := if c.pin?.isSome then .wired else .none

/-- What a session with a simulated chip comes to, line by line. -/
def rehearsal (c : Config.Sections) (settings : Settings) : List String :=
  let e := (Engine.start settings .initial (rehearsalLine c)).cleanup
  e.told.reverse.map Notice.line ++ e.desk.lines ++ [e.desk.state.report]

end SerialHid

def main : IO UInt32 := do
  match ← SerialHid.configuration with
  | .error e =>
    IO.eprintln e.message
    return 1
  | .ok c =>
    match c.settings? with
    | none => return 1
    | some settings =>
      for line in SerialHid.rehearsal c settings do
        IO.println line
      return 0
