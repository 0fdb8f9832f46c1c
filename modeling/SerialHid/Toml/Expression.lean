/-
SerialHid.Toml.Expression — values as they are written.

* `value? : Nat → Reader Value` — a value in which arrays and inline tables go so many levels
  deep at most.
* `binding?` — a key, an equals sign and a value.
-/
import SerialHid.Toml.Numeral
import SerialHid.Toml.Table

namespace SerialHid.Toml

/-- A key, an equals sign, and a value. -/
def binding? (item : Reader Value) : Reader (Key × Value) := fun s => do
  let (k, s) ← key? s
  match s with
  | '=' :: s =>
    let (v, s) ← item (skipBlanks s)
    return ((k, v), s)
  | _ => none

/-- The rest of an array. A comma may stand after the last item, and the items may be on
lines of their own. -/
def arrayRest? (item : Reader Value) : Nat → Reader (List Value)
  | 0, _ => none
  | fuel + 1, s =>
    match skipLines s with
    | ']' :: s => some ([], s)
    | s => do
      let (v, s) ← item s
      match skipLines s with
      | ']' :: s => return ([v], s)
      | ',' :: s =>
        let (vs, s) ← arrayRest? item fuel s
        return (v :: vs, s)
      | _ => none

/-- The rest of an inline table after its first brace or a comma. -/
def inlineRest? (item : Reader Value) : Nat → Members → Reader Members
  | 0, _, _ => none
  | fuel + 1, ms, s => do
    let ((k, v), s) ← binding? item s
    let ms ← assign? k v ms
    match skipBlanks s with
    | '\x7d' :: s => return (ms, s)
    | ',' :: s => inlineRest? item fuel ms s
    | _ => none

/-- An inline table after its first brace. -/
def inlineTable? (item : Reader Value) (s : List Char) : Option (Value × List Char) :=
  match skipBlanks s with
  | '\x7d' :: s => some (.table .inline [], s)
  | _ => do
    let (ms, s) ← inlineRest? item (s.length + 1) [] s
    return (.table .inline ms, s)

/-- A text, a truth value, a date, a time or a number. -/
def scalar? : Reader Value
  | '"' :: s => (quotation? ('"' :: s)).map fun (t, s) => (.string t, s)
  | '\'' :: s => (quotation? ('\'' :: s)).map fun (t, s) => (.string t, s)
  | 't' :: 'r' :: 'u' :: 'e' :: s => some (.boolean true, s)
  | 'f' :: 'a' :: 'l' :: 's' :: 'e' :: s => some (.boolean false, s)
  | s =>
    match moment? s with
    | some s => some (.dateTime, s)
    | none => numeral? s

/-- A value, with so many levels of arrays and inline tables at most. -/
def value? : Nat → Reader Value
  | 0, s => scalar? s
  | depth + 1, s =>
    match s with
    | '[' :: s => do
      let (vs, s) ← arrayRest? (value? depth) (s.length + 1) s
      return (.array vs, s)
    | '\x7b' :: s => inlineTable? (value? depth) s
    | s => scalar? s

end SerialHid.Toml
