import PageObjects.Text.Digit
import PageObjects.Text.Half
import PageObjects.Text.Printable

/-!
# Quoted texts

Messages show a text value between quotes.  Single quotes are used unless the
text has single quotes and no double quotes.  The quote in use and the
backslash are escaped, and so is every character that is not printable.

Main definitions:

- `quoteOf`: the quote that a text is shown in.
- `escapeChar`: one character between such quotes.
- `quoted`: a text as messages show it.
-/

namespace PageObjects.Text

/-- Double quotes for a text that has single quotes and no double quotes. -/
def quoteOf (cs : List Char) : Char :=
  if cs.contains '\'' && !cs.contains '"' then '"' else '\''

/-- A character escaped by its code point: two, four or eight hexadecimal digits. -/
def escapeCode (n : Nat) : List Char :=
  if n < 0x100 then ['\\', 'x'] ++ hexDigits 2 n
  else if n < 0x10000 then ['\\', 'u'] ++ hexDigits 4 n
  else ['\\', 'U'] ++ hexDigits 8 n

/-- One character between quotes. -/
def escapeChar (quote c : Char) : List Char :=
  if c == quote || c == '\\' then ['\\', c]
  else if c == '\t' then ['\\', 't']
  else if c == '\n' then ['\\', 'n']
  else if c == '\r' then ['\\', 'r']
  else if isPrintable c then [c]
  else escapeCode (Half.code c)

/-- A text as messages show it. -/
def quoted (s : String) : String :=
  let cs := s.toList
  let q := quoteOf cs
  String.ofList (q :: cs.flatMap (escapeChar q) ++ [q])

/-- One byte between quotes: printable ASCII is shown as itself. -/
def escapeByte (quote : Char) (b : UInt8) : List Char :=
  let c := Char.ofNat b.toNat
  if c == quote || c == '\\' then ['\\', c]
  else if c == '\t' then ['\\', 't']
  else if c == '\n' then ['\\', 'n']
  else if c == '\r' then ['\\', 'r']
  else if 32 ≤ b && b < 127 then [c]
  else ['\\', 'x'] ++ hexDigits 2 b.toNat

/-- A byte string as messages show it. -/
def quotedBytes (bs : List UInt8) : String :=
  let q := quoteOf (bs.map fun b => Char.ofNat b.toNat)
  String.ofList ('b' :: q :: bs.flatMap (escapeByte q) ++ [q])

end PageObjects.Text
