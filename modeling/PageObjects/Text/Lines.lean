import PageObjects.Text.Digit

/-!
# Lines

A text is cut into lines at every character that may end one, also at those
for pages, sections and paragraphs.  A line of a log begins with the time at
which it was written.

Main definitions:

- `lines`: the lines of a text.
- `withoutTime`: a line without the time at its beginning.
-/

namespace PageObjects.Text

/-- Whether a character ends a line. -/
def endsLine (c : Char) : Bool :=
  c == '\n' || c == '\r' || c == '\x0b' || c == '\x0c' || c == '\x1c' || c == '\x1d' || c == '\x1e'
    || c == '\x85' || c == '\u2028' || c == '\u2029'

/-- The lines of a text, of which `line` has been read, last character first. -/
def linesFrom (line : List Char) : List Char → List String
  | [] => if line.isEmpty then [] else [String.ofList line.reverse]
  | '\r' :: '\n' :: rest => String.ofList line.reverse :: linesFrom [] rest
  | c :: rest =>
    if endsLine c then String.ofList line.reverse :: linesFrom [] rest else linesFrom (c :: line) rest

/-- The lines of a text; an end of a line at the end of the text begins no line. -/
def lines (s : String) : List String := linesFrom [] s.toList

/-- What follows a shape, in which zeros stand for digits of any script. -/
def afterShape? : (shape cs : List Char) → Option (List Char)
  | [], cs => some cs
  | _ :: _, [] => none
  | m :: shape, c :: cs =>
    if (if m == '0' then isDigit c else c == m) then afterShape? shape cs else none

/-- The shape of the time at the beginning of a line of a log. -/
def timeShape : List Char := "0000-00-00 00:00:00,000 ".toList

/-- A line without the time at its beginning. -/
def withoutTime (line : String) : String :=
  match afterShape? timeShape line.toList with
  | some rest => String.ofList rest
  | none => line

example : lines "a\r\nb\u2028\n" = ["a", "b", ""] := by decide

end PageObjects.Text
