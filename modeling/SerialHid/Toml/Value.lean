/-
SerialHid.Toml.Value — what a configuration text says.

* `Toml.Value` — a value; a table remembers how it came about, because that decides what may
  still be added to it.
* `Toml.Members` — the members of a table.
-/
import SerialHid.Number.Binary64

namespace SerialHid.Toml

/-- How a table came about. -/
inductive Origin where
  /-- By its own header, or as the whole text. -/
  | header
  /-- By the header of a table inside it. -/
  | implied
  /-- By a dotted key. -/
  | dotted
  /-- Between braces; nothing can be added to it. -/
  | inline
  deriving DecidableEq, Repr

/-- A value. -/
inductive Value where
  | string (text : String)
  | integer (value : Int)
  | float (value : Binary64)
  | boolean (value : Bool)
  /-- A date, a time, or both. -/
  | dateTime
  | array (items : List Value)
  /-- An array that was given by headers, table after table. -/
  | tables (items : List (List (String × Value)))
  | table (origin : Origin) (members : List (String × Value))
  deriving Repr

/-- The members of a table, each name once. -/
abbrev Members := List (String × Value)

namespace Members

/-- The member with this name. -/
def get? (ms : Members) (name : String) : Option Value := ms.lookup name

/-- Sets the member with this name; a new one goes to the end. -/
def put (ms : Members) (name : String) (v : Value) : Members :=
  match ms with
  | [] => [(name, v)]
  | m :: rest => if m.1 = name then (name, v) :: rest else m :: put rest name v

end Members

/-- The items of an array, however it was given. -/
def Value.items? : Value → Option (List Value)
  | .array items => some items
  | .tables items => some (items.map (.table .header))
  | _ => none

end SerialHid.Toml
