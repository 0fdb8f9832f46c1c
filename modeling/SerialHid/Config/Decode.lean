/-
SerialHid.Config.Decode — the configuration in a table (SPEC_FULL §12: every field has a default).

* `Config.Entry σ` — the name of a field, and how a value is put into it.
* `Config.readSection` — a section from a value: from a table by the names of its members,
  from an array by the places of its items.
* `Config.ofTable?` — the configuration in a table.

What is missing has its default, and members that are no fields are of no account. A value
of another kind than its field is not accepted, but a whole number is where a number of
seconds is wanted.
-/
import SerialHid.Config.Basic
import SerialHid.Toml.Value

namespace SerialHid.Config

open Toml (Value Members)

/-! ## Values -/

/-- A whole number between two bounds. -/
def ranged? (min max : Int) : Value → Option Int
  | .integer i => if min ≤ i ∧ i ≤ max then some i else none
  | _ => none

/-- A whole number of 32 bits without a sign. -/
def word? (v : Value) : Option Nat := (ranged? 0 0xFFFFFFFF v).map Int.toNat

/-- A whole number that is not negative. -/
def count? (v : Value) : Option Nat := (ranged? 0 0xFFFFFFFFFFFFFFFF v).map Int.toNat

/-- A whole number of 32 bits with a sign. -/
def signed? : Value → Option Int := ranged? (-0x80000000) 0x7FFFFFFF

/-- A number, whole or not. -/
def number? : Value → Option Binary64
  | .float x => some x
  | .integer i => some (.ofInt i)
  | _ => none

/-- A truth value. -/
def boolean? : Value → Option Bool
  | .boolean b => some b
  | _ => none

/-- A text. -/
def text? : Value → Option String
  | .string s => some s
  | _ => none

/-! ## Sections -/

/-- A field of a section. -/
structure Entry (σ : Type) where
  name : String
  /-- The section with this value in the field, if the value is of the right kind. -/
  set? : Value → σ → Option σ

/-- A field into which a value of some kind is put. -/
def Entry.of {σ α : Type} (name : String) (read? : Value → Option α) (put : α → σ → σ) :
    Entry σ where
  name := name
  set? v s := (read? v).map fun a => put a s

/-- Puts the members of a table into the fields that have their names. -/
def setMembers? {σ : Type} (entries : List (Entry σ)) : Members → σ → Option σ
  | [], s => some s
  | (name, v) :: rest, s =>
    match entries.find? (·.name == name) with
    | none => setMembers? entries rest s
    | some e => (e.set? v s).bind fun s => setMembers? entries rest s

/-- Puts items into fields, place by place. -/
def setItems? {σ : Type} : List (Entry σ) → List Value → σ → Option σ
  | e :: entries, v :: rest, s => (e.set? v s).bind fun s => setItems? entries rest s
  | _, _, s => some s

/-- A section from a value, or with its defaults if there is none. A date has no fields, so
all of them keep their defaults. -/
def readSection {σ : Type} (entries : List (Entry σ)) (default : σ) : Option Value → Option σ
  | none => some default
  | some (.table _ members) => setMembers? entries members default
  | some .dateTime => some default
  | some v => v.items?.bind fun items => setItems? entries items default

/-- The fields of the section on requests. -/
def retryEntries : List (Entry Retry) := [
  .of "read_retries" word? fun n s => { s with readRetries := n },
  .of "common_retries" word? fun n s => { s with commonRetries := n },
  .of "retries_delay" number? fun x s => { s with retriesDelay := x },
  .of "errors_threshold" count? fun n s => { s with errorsThreshold := n },
  .of "noop" boolean? fun b s => { s with noop := b }]

/-- The fields of the section on the line. -/
def lineEntries : List (Entry Line) := [
  .of "device" text? fun t s => { s with device := t },
  .of "speed" word? fun n s => { s with speed := n },
  .of "read_timeout" number? fun x s => { s with readTimeout := x }]

/-- The fields of the section on resets. -/
def resetEntries : List (Entry Reset) := [
  .of "gpio_root" text? fun t s => { s with gpioRoot := t },
  .of "reset_pin" signed? fun i s => { s with pin := i },
  .of "reset_inverted" boolean? fun b s => { s with inverted := b },
  .of "reset_delay" number? fun x s => { s with delay := x }]

/-- The fields of the section on the program. -/
def daemonEntries : List (Entry Daemon) := [
  .of "log_level" text? fun t s => { s with logLevel := t }]

/-- The configuration in a table. -/
def ofTable? (t : Members) : Option Sections := do
  let hid ← readSection retryEntries {} (t.get? "hid")
  let serial ← readSection lineEntries {} (t.get? "serial")
  let reset ← readSection resetEntries {} (t.get? "reset")
  let daemon ← readSection daemonEntries {} (t.get? "daemon")
  return { hid, serial, reset, daemon }

end SerialHid.Config
