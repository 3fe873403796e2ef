/-!
# Layouts of decimal numbers

A positive decimal number is given by its significant digits and the place of
its decimal point.  It is written positionally or with an exponent.

Main definitions:

- `Layout`: the choices a format makes.
- `Layout.write`: the text of a number under these choices.
-/

namespace PageObjects.Decimal

/-- The choices a decimal format makes: the places of the decimal point that are
written positionally, and whether a whole number keeps a zero after the point. -/
structure Layout where
  lowestPlace : Int
  highestPlace : Int
  wholeMark : String
deriving Repr, DecidableEq

/-- The digits of a natural. -/
def digitsOf (n : Nat) : List Char := Nat.toDigits 10 n

/-- Digits without the zeros at their end; one digit is always left. -/
def stripZeros (digits : List Char) : List Char :=
  match (digits.reverse.dropWhile (· == '0')).reverse with
  | [] => ['0']
  | ds => ds

/-- A run of zeros. -/
def zeros (n : Nat) : List Char := List.replicate n '0'

/-- Digits with a decimal point after the first `place` of them. -/
def positional (wholeMark : String) (digits : List Char) (place : Int) : List Char :=
  if place ≤ 0 then "0.".toList ++ zeros (-place).toNat ++ digits
  else
    let n := place.toNat
    if digits.length ≤ n then digits ++ zeros (n - digits.length) ++ wholeMark.toList
    else digits.take n ++ '.' :: digits.drop n

/-- Digits with an exponent of at least two digits. -/
def scientific (digits : List Char) (place : Int) : List Char :=
  let exponent := place - 1
  let size := digitsOf exponent.natAbs
  let body := match digits with
    | [] => ['0']
    | [d] => [d]
    | d :: ds => d :: '.' :: ds
  body ++ 'e' :: (if exponent < 0 then '-' else '+') ::
    (if size.length < 2 then zeros (2 - size.length) ++ size else size)

/-- The text of the number `0.digits * 10 ^ place`. -/
def Layout.write (layout : Layout) (digits : List Char) (place : Int) : List Char :=
  let digits := stripZeros digits
  if layout.lowestPlace ≤ place && place ≤ layout.highestPlace then
    positional layout.wholeMark digits place
  else scientific digits place

end PageObjects.Decimal
