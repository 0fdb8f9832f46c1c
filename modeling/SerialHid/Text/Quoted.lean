/-
SerialHid.Text.Quoted — text in double quotes, safe to show on one line, as the names in refusals
are (SPEC_FULL §4.2, Event Model).

* `Quoted.escape : Char → String` — one character as it stands between the quotes.
* `Quoted.quote : String → String` — a whole text with its quotes.

Six characters are written with a letter or a sign of their own behind a backslash, the quote
and the backslash among them; the apostrophe is not. Any other character stands as it is, if it can be
seen by itself, and is otherwise written by its code point, `\u{301}`.
-/
import SerialHid.Text.Printable

namespace SerialHid.Quoted

/-- The code point of a character in base sixteen, small letters, no leading zeros. -/
def codePoint (c : Char) : String := String.ofList (Nat.toDigits 16 c.toNat)

/-- One character as it stands between the quotes. -/
def escape (c : Char) : String :=
  if c = '\x00' then "\\0"
  else if c = '\t' then "\\t"
  else if c = '\r' then "\\r"
  else if c = '\n' then "\\n"
  else if c = '\\' then "\\\\"
  else if c = '"' then "\\\""
  else if Printable.isPlain c then c.toString
  else "\\u\x7b" ++ codePoint c ++ "\x7d"

/-- The text between double quotes. -/
def quote (text : String) : String :=
  "\"" ++ String.join (text.toList.map escape) ++ "\""

end SerialHid.Quoted
