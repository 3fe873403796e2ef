import PageObjects.Text.Blank
import PageObjects.Text.Lowercase
import PageObjects.Text.Word

/-!
# Canonical names

The name under which a link or a button is reached is made from its label:
lower-cased, with everything dropped but words and the separators between
them, and with one underscore wherever separators stood between two words.

Main definitions:

- `isSeparator`: blanks, dashes and underscores.
- `joinWords`: the words of a text, one underscore between neighbours.
- `canonicalName`: the name made from a label.
-/

namespace PageObjects.Text

/-- Blanks, dashes and underscores separate words. -/
def isSeparator (c : Char) : Bool :=
  c == '_' || c == '-' || isBlank c

/-- The word characters of a text with one underscore wherever separators stood
between two of them; anything else is dropped.  `started` once a character has
been kept, `pending` once a separator has followed it. -/
def joinWords : List Char → (started pending : Bool) → List Char
  | [], _, _ => []
  | c :: cs, started, pending =>
    if isSeparator c then joinWords cs started true
    else if isWordChar c then
      (if started && pending then ['_', c] else [c]) ++ joinWords cs true false
    else joinWords cs started pending

/-- The name made from the characters of a label. -/
def canonicalChars (cs : List Char) : List Char :=
  joinWords (lowercase cs) false false

/-- The name made from a label. -/
def canonicalName (label : String) : String :=
  String.ofList (canonicalChars label.toList)

@[simp] theorem joinWords_nil (started pending : Bool) : joinWords [] started pending = [] := rfl

@[simp] theorem canonicalName_empty : canonicalName "" = "" := rfl

end PageObjects.Text
