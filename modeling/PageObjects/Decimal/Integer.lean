import PageObjects.Decimal.Read

/-!
# Reading integers

An integer may be written in any base up to thirty-six, with blanks around
it, a sign, and single underscores between its digits; in the bases two, eight
and sixteen a mark of the base may stand before the digits.  A number in a
base that is no power of two must not have too many digits.

Main definitions:

- `IntegerFault`: why a text is no integer.
- `readInteger`: the integer that a text stands for.
-/

namespace PageObjects.Decimal

open PageObjects.Text

/-- The most digits that an integer may be written with, or shown with. -/
def digitLimit : Nat := 4300

/-- Why a text is no integer. -/
inductive IntegerFault where
  | malformed
  | tooLong (digits : Nat)
deriving Repr, DecidableEq

/-- The value of a digit of a base up to thirty-six. -/
def baseDigit? (base : Nat) (c : Char) : Option Nat :=
  let value :=
    if '0' ≤ c && c ≤ '9' then c.toNat - '0'.toNat
    else if 'a' ≤ c && c ≤ 'z' then c.toNat - 'a'.toNat + 10
    else if 'A' ≤ c && c ≤ 'Z' then c.toNat - 'A'.toNat + 10
    else base
  if value < base then some value else none

/-- What follows a mark of the base. -/
def dropBaseMark (base : Nat) : List Char → List Char
  | '0' :: mark :: rest =>
    let marked := (base == 16 && (mark == 'x' || mark == 'X')) ||
      (base == 8 && (mark == 'o' || mark == 'O')) || (base == 2 && (mark == 'b' || mark == 'B'))
    if marked then (match rest with
      | '_' :: rest => rest
      | rest => rest)
    else '0' :: mark :: rest
  | cs => cs

/-- The run of digits and underscores that a text begins with. -/
def digitRun (base : Nat) (cs : List Char) : List Char :=
  cs.takeWhile fun c => (baseDigit? base c).isSome || c == '_'

/-- Whether each underscore of a run stands between two digits. -/
def underscoresSingle : (previous : Char) → List Char → Bool
  | previous, [] => previous != '_'
  | previous, c :: rest => !(previous == '_' && c == '_') && underscoresSingle c rest

/-- Whether a base is a power of two. -/
def isBinaryBase (base : Nat) : Bool := base == 2 || base == 4 || base == 8 || base == 16 || base == 32

/-- The value of digits of a base; underscores do not count. -/
def valueOfDigits (base : Nat) (cs : List Char) : Nat :=
  cs.foldl (fun n c => match baseDigit? base c with
    | some d => n * base + d
    | none => n) 0

/-- The integer that a text stands for in a base. -/
def readInteger (base : Nat) (text : String) : Except IntegerFault Int := do
  let (negative, cs) := takeSign ((text.toList.map plainDigit).dropWhile isPadding)
  let cs := dropBaseMark base cs
  let run := digitRun base cs
  if cs.head? == some '_' || !underscoresSingle ' ' run then throw .malformed
  let digits := run.filter (· != '_')
  if !isBinaryBase base && digitLimit < digits.length then throw (.tooLong digits.length)
  if digits.isEmpty then throw .malformed
  if !((cs.drop run.length).all isPadding) then throw .malformed
  let n := valueOfDigits base digits
  return if negative then -(n : Int) else n

/-- Whether an integer has too many digits to be shown. -/
def tooLongToShow (n : Int) : Bool := Nat.pow 10 digitLimit ≤ n.natAbs

end PageObjects.Decimal
