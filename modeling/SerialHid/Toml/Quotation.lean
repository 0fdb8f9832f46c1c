/-
SerialHid.Toml.Quotation — texts between quotes.

Between quotation marks a backslash begins an escape; between apostrophes every character
stands for itself. Either mark may be written three times, and then the text may go over
several lines.

* `basic?`, `literal?` — a text on one line.
* `quotation?` — a text of any of the four forms.
-/
import SerialHid.Toml.Line

namespace SerialHid.Toml

/-! ## Escapes -/

/-- The value of a digit in base sixteen. -/
def hexValue? (c : Char) : Option Nat :=
  if '0' ≤ c ∧ c ≤ '9' then some (c.toNat - '0'.toNat)
  else if 'a' ≤ c ∧ c ≤ 'f' then some (c.toNat - 'a'.toNat + 10)
  else if 'A' ≤ c ∧ c ≤ 'F' then some (c.toNat - 'A'.toNat + 10)
  else none

/-- So many digits in base sixteen, as a number that goes on from `value`. -/
def hexNumber? : Nat → Nat → Reader Nat
  | 0, value, s => some (value, s)
  | _ + 1, _, [] => none
  | n + 1, value, c :: s =>
    match hexValue? c with
    | some d => hexNumber? n (16 * value + d) s
    | none => none

/-- The character with this code point, if it is one. -/
def codePoint? (n : Nat) : Option Char :=
  if n < 0xD800 ∨ (0xDFFF < n ∧ n < 0x110000) then some (Char.ofNat n) else none

/-- A character given by so many digits. -/
def codePointEscape? (digits : Nat) : Reader Char := fun s => do
  let (n, s) ← hexNumber? digits 0 s
  let c ← codePoint? n
  return (c, s)

/-- What follows the backslash of an escape. -/
def escape? : Reader Char
  | 'b' :: s => some ('\x08', s)
  | 't' :: s => some ('\t', s)
  | 'n' :: s => some ('\n', s)
  | 'f' :: s => some ('\x0c', s)
  | 'r' :: s => some ('\r', s)
  | '"' :: s => some ('"', s)
  | '\\' :: s => some ('\\', s)
  | 'u' :: s => codePointEscape? 4 s
  | 'U' :: s => codePointEscape? 8 s
  | _ => none

/-! ## One line -/

/-- The rest of a text between quotation marks. -/
def basicRest? : Nat → Reader (List Char)
  | 0, _ => none
  | _ + 1, [] => none
  | _ + 1, '"' :: s => some ([], s)
  | fuel + 1, '\\' :: s => do
    let (c, s) ← escape? s
    let (cs, s) ← basicRest? fuel s
    return (c :: cs, s)
  | fuel + 1, c :: s =>
    if isText c then do
      let (cs, s) ← basicRest? fuel s
      return (c :: cs, s)
    else none

/-- The text after a quotation mark. -/
def basic? : Reader String := fun s => do
  let (cs, s) ← basicRest? (s.length + 1) s
  return (String.ofList cs, s)

/-- The rest of a text between apostrophes. -/
def literalRest? : Reader (List Char)
  | [] => none
  | '\'' :: s => some ([], s)
  | c :: s =>
    if isText c then do
      let (cs, s) ← literalRest? s
      return (c :: cs, s)
    else none

/-- The text after an apostrophe. -/
def literal? : Reader String := fun s => do
  let (cs, s) ← literalRest? s
  return (String.ofList cs, s)

/-! ## Several lines -/

/-- Marks that stand before the three that end a text belong to it, up to two of them. -/
def closingMarks (mark : Char) : List Char → List Char × List Char
  | a :: b :: s =>
    if a = mark ∧ b = mark then ([mark, mark], s)
    else if a = mark then ([mark], b :: s)
    else ([], a :: b :: s)
  | [a] => if a = mark then ([mark], []) else ([], [a])
  | [] => ([], [])

/-- The first end of a line in a text over several lines is not part of it. -/
def dropFirstNewline (s : List Char) : List Char := (newline? s).getD s

/-- The rest of a text between three quotation marks. A backslash at the end of a line joins
the next line that is not blank. -/
def longBasicRest? : Nat → Reader (List Char)
  | 0, _ => none
  | _ + 1, [] => none
  | _ + 1, '"' :: '"' :: '"' :: s => some (closingMarks '"' s)
  | fuel + 1, '\\' :: s =>
    match newline? (skipBlanks s) with
    | some s => longBasicRest? fuel (skipNewlines s)
    | none => do
      let (c, s) ← escape? s
      let (cs, s) ← longBasicRest? fuel s
      return (c :: cs, s)
  | fuel + 1, c :: s =>
    match newline? (c :: s) with
    | some s => do
      let (cs, s) ← longBasicRest? fuel s
      return ('\n' :: cs, s)
    | none =>
      if isText c then do
        let (cs, s) ← longBasicRest? fuel s
        return (c :: cs, s)
      else none

/-- The text after three quotation marks. -/
def longBasic? : Reader String := fun s => do
  let (cs, s) ← longBasicRest? (s.length + 1) (dropFirstNewline s)
  return (String.ofList cs, s)

/-- The rest of a text between three apostrophes. -/
def longLiteralRest? : Nat → Reader (List Char)
  | 0, _ => none
  | _ + 1, [] => none
  | _ + 1, '\'' :: '\'' :: '\'' :: s => some (closingMarks '\'' s)
  | fuel + 1, c :: s =>
    match newline? (c :: s) with
    | some s => do
      let (cs, s) ← longLiteralRest? fuel s
      return ('\n' :: cs, s)
    | none =>
      if isText c then do
        let (cs, s) ← longLiteralRest? fuel s
        return (c :: cs, s)
      else none

/-- The text after three apostrophes. -/
def longLiteral? : Reader String := fun s => do
  let (cs, s) ← longLiteralRest? (s.length + 1) (dropFirstNewline s)
  return (String.ofList cs, s)

/-- A text of any form. -/
def quotation? : Reader String
  | '"' :: '"' :: '"' :: s => longBasic? s
  | '"' :: s => basic? s
  | '\'' :: '\'' :: '\'' :: s => longLiteral? s
  | '\'' :: s => literal? s
  | _ => none

end SerialHid.Toml
