import PageObjects.Decimal.Nearest
import PageObjects.Text.Blank
import PageObjects.Text.Digit
import PageObjects.Text.Lowercase

/-!
# Reading numbers

Numbers are read from texts with blanks around them, with digits of any
script, and with single underscores between digits.

Main definitions:

- `readInt?`: an integer in decimal.
- `readFloat?`: a decimal number, an infinity or a value that is not a number.
- `readNatBase?`: digits of a base up to sixteen.
-/

namespace PageObjects.Decimal

open PageObjects.Text

/-- Digits of every script as ASCII digits. -/
def plainDigit (c : Char) : Char :=
  match digitValue? c with
  | some d => hexDigit d
  | none => c

/-- Whether a character is an ASCII digit. -/
def isPlainDigit (c : Char) : Bool := '0' ≤ c && c ≤ '9'

/-- A text without its underscores, each of which must stand between two digits. -/
def dropUnderscores? : (afterDigit : Bool) → List Char → Option (List Char)
  | _, [] => some []
  | afterDigit, '_' :: c :: rest =>
    if afterDigit && isPlainDigit c then dropUnderscores? false (c :: rest) else none
  | _, ['_'] => none
  | _, c :: rest => (dropUnderscores? (isPlainDigit c) rest).map (c :: ·)

/-- A sign and what follows it. -/
def takeSign : List Char → Bool × List Char
  | '-' :: rest => (true, rest)
  | '+' :: rest => (false, rest)
  | rest => (false, rest)

/-- The value of digits below a base. -/
def readNatBase? (base : Nat) : (value : Nat) → List Char → Option Nat
  | value, [] => some value
  | value, c :: rest =>
    match hexValue? c with
    | some d => if d < base then readNatBase? base (value * base + d) rest else none
    | none => none

/-- The value of a run of ASCII digits, which must not be empty. -/
def readDigits? (cs : List Char) : Option Nat :=
  if cs.isEmpty then none else readNatBase? 10 0 cs

/-- Blanks that may stand around a number: the separator controls may not. -/
def isPadding (c : Char) : Bool := isBlank c && !(28 ≤ c.toNat && c.toNat ≤ 31)

/-- A text without the padding at its two ends. -/
def trimPadding (cs : List Char) : List Char :=
  ((cs.dropWhile isPadding).reverse.dropWhile isPadding).reverse

/-- A text with its padding trimmed, its digits in ASCII and its underscores removed. -/
def normalise? (text : String) : Option (List Char) :=
  dropUnderscores? false ((trimPadding text.toList).map plainDigit)

/-- An integer in decimal. -/
def readInt? (text : String) : Option Int := do
  let (negative, cs) := takeSign (← normalise? text)
  let n ← readDigits? cs
  return if negative then -(n : Int) else n

/-- An exponent mark with its value; nothing stands for zero. -/
def readExponent? : List Char → Option Int
  | [] => some 0
  | c :: rest =>
    if c == 'e' || c == 'E' then
      let (negative, cs) := takeSign rest
      (readDigits? cs).map fun n => if negative then -(n : Int) else n
    else none

/-- A decimal number without its sign: digits before or after a point, or both,
and an exponent. -/
def readUnsigned? (negative : Bool) (cs : List Char) : Option Float := do
  let whole := cs.takeWhile isPlainDigit
  let rest := cs.dropWhile isPlainDigit
  let (fraction, rest) := match rest with
    | '.' :: r => (r.takeWhile isPlainDigit, r.dropWhile isPlainDigit)
    | r => ([], r)
  let m ← readDigits? (whole ++ fraction)
  let e ← readExponent? rest
  return ofDecimal negative m (e - fraction.length)

/-- A decimal number, an infinity or a value that is not a number. -/
def readFloat? (text : String) : Option Float := do
  let (negative, cs) := takeSign (← normalise? text)
  let word := String.ofList (cs.map Char.toLower)
  if word == "inf" || word == "infinity" then return ofBits negative infinityBits
  if word == "nan" then return notANumber
  readUnsigned? negative cs

end PageObjects.Decimal
