/-
SerialHid.FileTree — a few files and directories, for rehearsing a reset line (SPEC_FULL §14,
Hardware Reset Collaborator).

* `FileTree` — what stands under each path.
* `FileTree.write` — writes a file, as a system would: into a directory that exists, and
  never over a directory.
* `FileTree.files : Files FileTree` — the tree as a place to write files to.
-/
import SerialHid.ResetLine

namespace SerialHid

/-- What stands under a path. -/
inductive FileNode where
  | file (content : String)
  /-- All that was written to it comes out at the other end. -/
  | pipe (written : String)
  | directory
  deriving DecidableEq, Repr

/-- What stands under each path. -/
abbrev FileTree := List (Path × FileNode)

namespace FileTree

/-- What stands under a path. -/
def find? (t : FileTree) (p : Path) : Option FileNode := t.lookup p

/-- Puts something under a path, in place of what stood there. -/
def put (t : FileTree) (p : Path) (n : FileNode) : FileTree :=
  (p, n) :: t.filter fun e => e.1 != p

/-- Puts a directory under a path, in place of what stood there, and those above it that are
missing. -/
def makeDirectory (t : FileTree) (p : Path) : FileTree :=
  let above (t : FileTree) (n : Nat) : FileTree :=
    if (t.find? (p.take n)).isSome then t else t.put (p.take n) .directory
  ((List.range p.length).foldl above t).put p .directory

/-- Takes away a path and everything below it. -/
def remove (t : FileTree) (p : Path) : FileTree := t.filter fun e => !p.isPrefixOf e.1

/-- The system's word for a path that leads nowhere. -/
def noSuchFile : String := "No such file or directory (os error 2)"

/-- The system's word for a directory in the place of a file. -/
def isDirectory : String := "Is a directory (os error 21)"

/-- The system's word for a file in the place of a directory. -/
def notDirectory : String := "Not a directory (os error 20)"

/-- Why nothing can be written under a path, if nothing can. -/
def blocked? (t : FileTree) (p : Path) : Option String :=
  match t.find? p.dropLast with
  | none => some noSuchFile
  | some .directory => if t.find? p = some .directory then some isDirectory else none
  | some _ => some notDirectory

/-- Writes a file. -/
def write (w : FileWrite) (t : FileTree) : Option String × FileTree :=
  match t.blocked? w.path with
  | some reason => (some reason, t)
  | none =>
    match t.find? w.path with
    | some (.pipe written) => (none, t.put w.path (.pipe (written ++ w.content)))
    | _ => (none, t.put w.path (.file w.content))

/-- The tree as a place to write files to. -/
def files : Files FileTree := ⟨fun t p => (t.find? p).isSome, write⟩

/-- The content of a file. -/
def content? (t : FileTree) (p : Path) : Option String :=
  match t.find? p with
  | some (.file content) => some content
  | _ => none

/-- What has come out of a pipe; nothing if there is none. -/
def drained (t : FileTree) (p : Path) : String :=
  match t.find? p with
  | some (.pipe written) => written
  | _ => ""

/-- The tree after what was written to a pipe was taken out of it. -/
def drain (t : FileTree) (p : Path) : FileTree :=
  match t.find? p with
  | some (.pipe _) => t.put p (.pipe "")
  | _ => t

end FileTree

/-! ## A rehearsal of a reset line -/

/-- A tree with a reset line in it. -/
structure LineBench where
  line : ResetLine
  tree : FileTree
  deriving Repr

/-- What can be done with a reset line. -/
inductive LineStep where
  | reset
  /-- Asks whether there is a line. -/
  | wired
  /-- Puts a directory in the place of the file for the level. -/
  | blockValue
  /-- Takes the pin away. -/
  | unexport
  deriving DecidableEq, Repr

/-- What comes of a step. -/
inductive LineOutcome where
  | ok
  | wired (value : Bool)
  | failed (e : ResetError)
  deriving DecidableEq, Repr

/-- What is seen of a step. -/
structure LineReport where
  outcome : LineOutcome
  /-- The levels that the pin was set to. -/
  levels : String
  notices : List Notice

namespace LineBench

/-- The directory that all of it happens in. -/
def base : Path := ["ROOT"]

/-- The directory of a pin. -/
def pinDirectory (pin : Nat) : Path := ResetLine.directory ⟨base, pin, false⟩

/-- The file for the level. -/
def valuePath (b : LineBench) : Path := pinDirectory b.line.pin ++ ["value"]

/-- A tree in which the pin is available or not, and some paths below the base are taken by
directories; the directory of all pins may be missing. -/
def initial (pin : Nat) (inverted available rootMissing : Bool) (taken : List Path) :
    LineBench :=
  let pinTree : FileTree :=
    if available then
      [(pinDirectory pin ++ ["value"], .pipe ""), (pinDirectory pin, .directory)]
    else []
  let tree : FileTree := (base, .directory) :: pinTree
  { line := ⟨if rootMissing then base ++ ["absent"] else base, pin, inverted⟩
    tree := taken.foldl (fun t p => FileTree.makeDirectory t (base ++ p)) tree }

/-- The outcome of an operation. -/
def outcome (failure : Option ResetError) : LineOutcome :=
  match failure with
  | none => .ok
  | some e => .failed e

/-- Reports an operation, with the levels that came out. -/
def report (b : LineBench) (d : Driven FileTree) : LineReport × LineBench :=
  (⟨outcome d.failure, d.files.drained b.valuePath, d.notices⟩,
    { b with tree := d.files.drain b.valuePath })

/-- Makes the line ready. -/
def prepare (b : LineBench) : LineReport × LineBench :=
  b.report (b.line.prepare FileTree.files b.tree)

/-- A change to the tree that goes right. -/
def change (b : LineBench) (tree : FileTree) : LineReport × LineBench :=
  (⟨.ok, "", []⟩, { b with tree })

/-- One step. -/
def step (b : LineBench) : LineStep → LineReport × LineBench
  | .reset => b.report (b.line.reset FileTree.files b.tree)
  | .wired => (⟨.wired true, "", []⟩, b)
  | .blockValue => b.change (b.tree.makeDirectory b.valuePath)
  | .unexport => b.change (b.tree.remove (pinDirectory b.line.pin))

/-- The content of the file that pins are made available through. -/
def exported? (b : LineBench) : Option String := b.tree.content? (base ++ ["export"])

/-- The content of the file for the direction. -/
def direction? (b : LineBench) : Option String :=
  b.tree.content? (pinDirectory b.line.pin ++ ["direction"])

end LineBench

end SerialHid
