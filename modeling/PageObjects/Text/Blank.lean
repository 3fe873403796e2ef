import PageObjects.Text.Ranges

/-!
# Blank characters

The white space of Unicode with the four separator controls of ASCII.

Main definitions:

- `isBlank`: membership.
-/

namespace PageObjects.Text

/-- The blank characters. -/
def blankRanges : RangeTable :=
  [(9, 13), (28, 32), (133, 133), (160, 160), (5760, 5760), (8192, 8202), (8232, 8233),
   (8239, 8239), (8287, 8287), (12288, 12288)]

/-- White space of any script. -/
def isBlank (c : Char) : Bool :=
  blankRanges.holds c.toNat

end PageObjects.Text
