/-!
# XPath string expressions

XPath has no escape inside a string literal.  A text with both kinds of quote
is therefore written as a concatenation of literals.

Main definitions:

- `xpathLiteral`: an expression whose value is a given text.
- `buttonXPath`: the expression that finds a button by its label.
-/

namespace PageObjects.Text

/-- The pieces of a text between single quotes; always at least one. -/
def splitAtQuote : List Char → List (List Char)
  | [] => [[]]
  | c :: cs =>
    if c = '\'' then [] :: splitAtQuote cs
    else match splitAtQuote cs with
      | [] => [[c]]
      | piece :: rest => (c :: piece) :: rest

/-- A text in single quotes. -/
def inSingleQuotes (cs : List Char) : List Char :=
  '\'' :: cs ++ ['\'']

/-- The literals of the pieces with a quoted single quote between neighbours. -/
def concatArguments : List (List Char) → List Char
  | [] => []
  | [piece] => inSingleQuotes piece
  | piece :: rest => inSingleQuotes piece ++ ", \"'\", ".toList ++ concatArguments rest

/-- A string expression whose value is the text: single quotes if they do not
occur in it, else double quotes if these do not, else a concatenation. -/
def xpathLiteralChars (cs : List Char) : List Char :=
  if '\'' ∉ cs then inSingleQuotes cs
  else if '"' ∉ cs then '"' :: cs ++ ['"']
  else "concat(".toList ++ concatArguments (splitAtQuote cs) ++ [')']

/-- A string expression whose value is the text. -/
def xpathLiteral (text : String) : String :=
  String.ofList (xpathLiteralChars text.toList)

/-- The expression that finds a button by its text or value. -/
def buttonXPath (label : String) : String :=
  let t := xpathLiteral label
  "//button[normalize-space(.)=" ++ t ++ " or @value=" ++ t ++ "]"
    ++ " | //input[(@type='submit' or @type='button' or @type='reset' or @type='image') and @value="
    ++ t ++ "]"

end PageObjects.Text
