/-
SerialHid.ResetLine — a pin of the host that is wired to the chip's reset (SPEC_FULL §14, Hardware
Reset Collaborator).

The pin is driven by writing short texts to files. Each operation is a list of writes, made
in order until one of them fails.

* `Files σ` — a place to write files to: whether a path exists, and one write.
* `ResetLine` — the directory of all pins, the pin, and its polarity.
* `ResetLine.openWrites`, `ResetLine.resetWrites` — the writes of each operation.
* `ResetLine.prepare`, `ResetLine.reset` — the operations.
-/
import SerialHid.Notice

namespace SerialHid

/-- A path, by its parts. -/
abbrev Path := List String

/-- The text of a path. -/
def pathText (p : Path) : String := "/".intercalate p

/-- One write: the whole content of a file. -/
structure FileWrite where
  path : Path
  content : String
  deriving DecidableEq, Repr

/-- A place to write files to. -/
structure Files (σ : Type) where
  /-- Something of this name is there. -/
  present : σ → Path → Bool
  /-- One write; the first result is what the system says if it fails. -/
  write : FileWrite → σ → Option String × σ

/-- Makes writes in order, until one fails. -/
def Files.writeAll {σ : Type} (files : Files σ) : List FileWrite → σ → Option ResetError × σ
  | [], s => (none, s)
  | w :: ws, s =>
    match files.write w s with
    | (none, s) => files.writeAll ws s
    | (some reason, s) => (some ⟨pathText w.path, reason⟩, s)

/-- A pin that is wired to the chip's reset. -/
structure ResetLine where
  /-- The directory of all pins. -/
  root : Path
  pin : Nat
  /-- The chip is held in reset while the pin is low. -/
  inverted : Bool
  deriving DecidableEq, Repr

/-- What an operation came to. -/
structure Driven (σ : Type) where
  failure : Option ResetError
  notices : List Notice
  files : σ

namespace ResetLine

/-- The directory of the pin. -/
def directory (line : ResetLine) : Path := line.root ++ [s!"gpio{line.pin}"]

/-- The level of the pin that holds the chip in reset, or the other one. -/
def level (line : ResetLine) (active : Bool) : String :=
  if active != line.inverted then "1" else "0"

/-- Sets the level. -/
def setLevel (line : ResetLine) (active : Bool) : FileWrite :=
  ⟨line.directory ++ ["value"], line.level active⟩

/-- Makes the pin available. -/
def exportPin (line : ResetLine) : FileWrite := ⟨line.root ++ ["export"], toString line.pin⟩

/-- Makes the pin an output. -/
def setDirection (line : ResetLine) : FileWrite := ⟨line.directory ++ ["direction"], "out"⟩

/-- The writes that make the pin ready: it is made available unless it is so already, then
made an output, then brought to rest. -/
def openWrites (line : ResetLine) (available : Bool) : List FileWrite :=
  (if available then [] else [line.exportPin]) ++ [line.setDirection, line.setLevel false]

/-- The writes of a pulse. -/
def resetWrites (line : ResetLine) : List FileWrite := [line.setLevel true, line.setLevel false]

variable {σ : Type}

/-- Makes the pin ready. -/
def prepare (files : Files σ) (line : ResetLine) (s : σ) : Driven σ :=
  match files.writeAll (line.openWrites (files.present s line.directory)) s with
  | (none, s) => ⟨none, [.pinReady line.pin], s⟩
  | (some e, s) => ⟨some e, [], s⟩

/-- Pulses the pin. -/
def reset (files : Files σ) (line : ResetLine) (s : σ) : Driven σ :=
  match files.writeAll line.resetWrites s with
  | (failure, s) => ⟨failure, [.pinPulsed line.pin], s⟩

end ResetLine

end SerialHid
