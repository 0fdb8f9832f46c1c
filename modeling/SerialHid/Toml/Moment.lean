/-
SerialHid.Toml.Moment — dates and times.

* `moment?` — what is left after a date, a time, or a date with a time and perhaps its
  distance from world time. The value is of no account; that it is one is checked, down to
  the length of February.
-/
import SerialHid.Toml.Line

namespace SerialHid.Toml

/-- The value of a decimal digit. -/
def decimalValue? (c : Char) : Option Nat :=
  if '0' ≤ c ∧ c ≤ '9' then some (c.toNat - '0'.toNat) else none

/-- So many decimal digits, as a number that goes on from `value`. -/
def fixedNumber? : Nat → Nat → Reader Nat
  | 0, value, s => some (value, s)
  | _ + 1, _, [] => none
  | n + 1, value, c :: s =>
    match decimalValue? c with
    | some d => fixedNumber? n (10 * value + d) s
    | none => none

/-- Two digits with a value in a range. -/
def field? (min max : Nat) : Reader Nat := fun s => do
  let (n, s) ← fixedNumber? 2 0 s
  if min ≤ n ∧ n ≤ max then return (n, s) else none

/-- What is left after this character. -/
def sign? (c : Char) : List Char → Option (List Char)
  | d :: s => if d = c then some s else none
  | [] => none

/-- Years divisible by four have a day more, those divisible by a hundred and not by four
hundred excepted. -/
def isLeap (year : Nat) : Bool := year % 4 == 0 && (year % 100 != 0 || year % 400 == 0)

/-- The number of days in a month. -/
def daysIn (year month : Nat) : Nat :=
  if month = 2 then (if isLeap year then 29 else 28)
  else if month = 4 ∨ month = 6 ∨ month = 9 ∨ month = 11 then 30
  else 31

/-- A date. -/
def date? (s : List Char) : Option (List Char) := do
  let (year, s) ← fixedNumber? 4 0 s
  let s ← sign? '-' s
  let (month, s) ← field? 1 12 s
  let s ← sign? '-' s
  let (_, s) ← field? 1 (daysIn year month) s
  return s

/-- What is left after the digits behind the point of a second. -/
def skipFraction : List Char → List Char
  | '.' :: s =>
    if (s.takeWhile Char.isDigit).isEmpty then '.' :: s else s.dropWhile Char.isDigit
  | s => s

/-- A time of day; a minute may have a second too many. -/
def time? (s : List Char) : Option (List Char) := do
  let (_, s) ← field? 0 23 s
  let s ← sign? ':' s
  let (_, s) ← field? 0 59 s
  let s ← sign? ':' s
  let (_, s) ← field? 0 60 s
  return skipFraction s

/-- A distance from world time. -/
def distance? : List Char → Option (List Char)
  | 'Z' :: s => some s
  | 'z' :: s => some s
  | c :: s =>
    if c = '+' ∨ c = '-' then do
      let (_, s) ← field? 0 23 s
      let s ← sign? ':' s
      let (_, s) ← field? 0 59 s
      return s
    else none
  | [] => none

/-- What parts a date from its time. -/
def isDelimiter (c : Char) : Bool := c == 'T' || c == 't' || c == ' '

/-- What is left after the time that belongs to a date, if there is one. -/
def skipTime (s : List Char) : List Char :=
  match s with
  | c :: rest =>
    if isDelimiter c then
      match time? rest with
      | some rest => (distance? rest).getD rest
      | none => s
    else s
  | [] => s

/-- What is left after a date, a time, or both. -/
def moment? (s : List Char) : Option (List Char) :=
  match date? s with
  | some s => some (skipTime s)
  | none => time? s

end SerialHid.Toml
