/-
SerialHid.Toml.Table — how tables grow.

A table has one header at most. A table that is only there because of the header of one
inside it may still get its own; one that a dotted key made may get more of those, but only
from where it was made.

* `openTable?`, `openElement?` — what a header does.
* `assign?` — what a key with a value does.
-/
import SerialHid.Toml.Key
import SerialHid.Toml.Value

namespace SerialHid.Toml

/-- Changes the last item of a list. -/
def changeLast? {α : Type} (change : α → Option α) : List α → Option (List α)
  | [] => none
  | [x] => (change x).map fun x => [x]
  | x :: rest => (changeLast? change rest).map (x :: ·)

/-- Changes the table at a path of headers. Tables on the way are made if they are missing;
of an array of tables the last one is meant. -/
def within? (change : Members → Option Members) : List String → Members → Option Members
  | [], ms => change ms
  | name :: path, ms =>
    match ms.get? name with
    | none => (within? change path []).map fun t => ms.put name (.table .implied t)
    | some (.table .inline _) => none
    | some (.table origin t) =>
      (within? change path t).map fun t => ms.put name (.table origin t)
    | some (.tables ts) =>
      (changeLast? (within? change path) ts).map fun ts => ms.put name (.tables ts)
    | some _ => none

/-- Gives the table its header. -/
def openTable? (k : Key) (root : Members) : Option Members :=
  root |> within? (fun ms =>
    match ms.get? k.name with
    | none => some (ms.put k.name (.table .header []))
    | some (.table .implied t) => some (ms.put k.name (.table .header t))
    | some _ => none) k.path

/-- Adds a table to an array of tables. -/
def openElement? (k : Key) (root : Members) : Option Members :=
  root |> within? (fun ms =>
    match ms.get? k.name with
    | none => some (ms.put k.name (.tables [[]]))
    | some (.tables ts) => some (ms.put k.name (.tables (ts ++ [[]])))
    | some _ => none) k.path

/-- Sets a member that is not there yet, in the table that a dotted path leads to. Only a
table that dotted keys made can be reached so; `reached` says that this one was. -/
def place? (name : String) (v : Value) (reached : Bool) : List String → Members → Option Members
  | [], ms =>
    if reached && (ms.get? name).isNone then some (ms.put name v) else none
  | step :: path, ms =>
    match ms.get? step with
    | none => (place? name v true path []).map fun t => ms.put step (.table .dotted t)
    | some (.table .dotted t) =>
      (place? name v true path t).map fun t => ms.put step (.table .dotted t)
    | some (.table .implied t) =>
      (place? name v false path t).map fun t => ms.put step (.table .implied t)
    | some (.tables ts) =>
      (changeLast? (place? name v false path) ts).map fun ts => ms.put step (.tables ts)
    | some _ => none

/-- Sets a member in the table of the latest header. -/
def assign? (k : Key) (v : Value) (ms : Members) : Option Members :=
  place? k.name v true k.path ms

end SerialHid.Toml
