/-
SerialHid.Toml.Line — blanks, comments and the ends of lines.

A reader takes the characters that are left and gives what it read and what is left then, or
nothing if it can read nothing.

* `Toml.Reader α` — a reader of `α`.
* `skipBlanks`, `skipLines` — what may stand between the parts of a line, and between the
  items of an array.
* `lineEnd?` — the rest of a line on which nothing more may stand.
-/

namespace SerialHid.Toml

/-- A reader of `α`. -/
abbrev Reader (α : Type) := List Char → Option (α × List Char)

/-- A blank or a tab. -/
def isBlank (c : Char) : Bool := c == ' ' || c == '\t'

/-- What is left after blanks. -/
def skipBlanks (s : List Char) : List Char := s.dropWhile isBlank

/-- A character that may stand in a comment: a tab, or any that is not a control character
of seven bits. -/
def isText (c : Char) : Bool :=
  c == '\t' || (0x20 ≤ c.toNat && c.toNat ≤ 0x7E) || 0x80 ≤ c.toNat

/-- The end of a line. -/
def newline? : List Char → Option (List Char)
  | '\n' :: s => some s
  | '\r' :: '\n' :: s => some s
  | _ => none

/-- What is left after a comment, if one begins here. -/
def skipComment : List Char → List Char
  | '#' :: s => s.dropWhile isText
  | s => s

/-- Blanks, perhaps a comment, and the end of the line or of the text. -/
def lineEnd? (s : List Char) : Option (List Char) :=
  match skipComment (skipBlanks s) with
  | [] => some []
  | s => newline? s

/-- Blanks and ends of lines, at most `fuel` of the latter. -/
def skipNewlinesFor : Nat → List Char → List Char
  | 0, s => skipBlanks s
  | fuel + 1, s =>
    match newline? (skipBlanks s) with
    | some s => skipNewlinesFor fuel s
    | none => skipBlanks s

/-- What is left after blanks and ends of lines. -/
def skipNewlines (s : List Char) : List Char := skipNewlinesFor s.length s

/-- Blanks, comments and ends of lines, at most `fuel` of the latter. -/
def skipLinesFor : Nat → List Char → List Char
  | 0, s => skipBlanks s
  | fuel + 1, s =>
    match newline? (skipComment (skipBlanks s)) with
    | some s => skipLinesFor fuel s
    | none => skipComment (skipBlanks s)

/-- What is left after blanks, comments and ends of lines. -/
def skipLines (s : List Char) : List Char := skipLinesFor s.length s

end SerialHid.Toml
