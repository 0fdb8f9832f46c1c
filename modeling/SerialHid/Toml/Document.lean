/-
SerialHid.Toml.Document — a whole configuration text: a TOML file (SPEC_FULL §12).

* `Toml.parse? : String → Option Members` — the table that a text describes.
-/
import SerialHid.Toml.Expression

namespace SerialHid.Toml

/-- What one line says. -/
inductive Statement where
  /-- A key with its value. -/
  | binding (k : Key) (v : Value)
  /-- The header of a table. -/
  | table (k : Key)
  /-- The header of one more table of an array. -/
  | element (k : Key)
  deriving Repr

/-- The rest of a header after its key. -/
def headerEnd? (brackets : List Char) (s : List Char) : Option (List Char) :=
  if s.take brackets.length = brackets then lineEnd? (s.drop brackets.length) else none

/-- One line that says something. -/
def statement? : Reader Statement
  | '[' :: '[' :: s => do
    let (k, s) ← key? s
    let s ← headerEnd? [']', ']'] s
    return (.element k, s)
  | '[' :: s => do
    let (k, s) ← key? s
    let s ← headerEnd? [']'] s
    return (.table k, s)
  | s => do
    let ((k, v), s) ← binding? (value? (depthLimit - 1)) s
    let s ← lineEnd? s
    return (.binding k v, s)

/-- The lines of a text, without those that say nothing. -/
def statements? : Nat → List Char → Option (List Statement)
  | 0, _ => none
  | fuel + 1, s =>
    match skipLines s with
    | [] => some []
    | s => do
      let (statement, s) ← statement? s
      let rest ← statements? fuel s
      return statement :: rest

/-- What was read of a document: its table, and the path of the latest header. -/
structure Draft where
  root : Members
  path : List String

/-- Adds a line to what was read. -/
def Draft.add? (d : Draft) : Statement → Option Draft
  | .binding k v => (within? (assign? k v) d.path d.root).map fun root => { d with root }
  | .table k => (openTable? k d.root).map fun root => ⟨root, k.path ++ [k.name]⟩
  | .element k => (openElement? k d.root).map fun root => ⟨root, k.path ++ [k.name]⟩

/-- Adds lines to what was read. -/
def Draft.addAll? (d : Draft) : List Statement → Option Draft
  | [] => some d
  | s :: rest => (d.add? s).bind fun d => d.addAll? rest

/-- What is left after the mark that some editors put in front of a text. -/
def skipMark : List Char → List Char
  | c :: s => if c = '\uFEFF' then s else c :: s
  | [] => []

/-- The table that a text describes. -/
def parse? (text : String) : Option Members := do
  let s := skipMark text.toList
  let lines ← statements? (s.length + 1) s
  let draft ← Draft.addAll? ⟨[], []⟩ lines
  return draft.root

end SerialHid.Toml
