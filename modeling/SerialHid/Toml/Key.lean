/-
SerialHid.Toml.Key — names, and paths of names with dots between them.

* `Toml.Key` — a name and the path of tables that leads to it.
* `key?` — a key.
-/
import SerialHid.Toml.Quotation

namespace SerialHid.Toml

/-- How deep values and paths may go: all of them less than this. -/
def depthLimit : Nat := 80

/-- A name and the path of tables that leads to it. -/
structure Key where
  path : List String
  name : String
  deriving DecidableEq, Repr

/-- A character of a name without quotes. -/
def isBare (c : Char) : Bool := c.isAlphanum || c == '-' || c == '_'

/-- One name. -/
def name? : Reader String
  | '"' :: s => basic? s
  | '\'' :: s => literal? s
  | s =>
    let bare := s.takeWhile isBare
    if bare.isEmpty then none else some (String.ofList bare, s.dropWhile isBare)

/-- Names with dots between them; blanks may stand around each. -/
def names? : Nat → Reader (List String)
  | 0, _ => none
  | fuel + 1, s => do
    let (name, s) ← name? (skipBlanks s)
    match skipBlanks s with
    | '.' :: s =>
      let (names, s) ← names? fuel s
      return (name :: names, s)
    | s => return ([name], s)

/-- A key. -/
def key? : Reader Key := fun s => do
  let (names, s) ← names? (s.length + 1) s
  let name ← names.getLast?
  if names.length < depthLimit then return (⟨names.dropLast, name⟩, s) else none

end SerialHid.Toml
