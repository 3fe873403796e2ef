/-!
# Binary floating point numbers as exact fractions

A finite double is a sign and a magnitude `m * 2 ^ q`.  The decimal formats
compute with that fraction in exact arithmetic on natural numbers.

Main definitions:

- `Magnitude`: the pair of `m` and `q`.
- `Reading`: what the bits of a double say.
- `reading`: the reading of a double.
- `Magnitude.num`, `Magnitude.den`: the magnitude as a fraction.
- `roundDiv`: the quotient of two naturals, a half going to the even neighbour.
-/

namespace PageObjects.Decimal

/-- The magnitude `m * 2 ^ q` of a finite double. -/
structure Magnitude where
  m : Nat
  q : Int
deriving Repr, DecidableEq

/-- What the bits of a double say. -/
inductive Reading where
  | notANumber
  | infinite (negative : Bool)
  | finite (negative : Bool) (magnitude : Magnitude)
deriving Repr, DecidableEq

/-- The reading of the 64 bits of a double. -/
def readingOfBits (bits : Nat) : Reading :=
  let negative := bits / Nat.pow 2 63 % 2 == 1
  let exponent : Nat := bits / Nat.pow 2 52 % Nat.pow 2 11
  let fraction := bits % Nat.pow 2 52
  if exponent == 2047 then
    if fraction == 0 then .infinite negative else .notANumber
  else if exponent == 0 then .finite negative ⟨fraction, -1074⟩
  else .finite negative ⟨Nat.pow 2 52 + fraction, (exponent : Int) - 1075⟩

/-- The reading of a double. -/
def reading (x : Float) : Reading :=
  readingOfBits x.toBits.toNat

namespace Magnitude

/-- The numerator of a magnitude. -/
def num (v : Magnitude) : Nat := v.m * Nat.pow 2 v.q.toNat

/-- The denominator of a magnitude. -/
def den (v : Magnitude) : Nat := Nat.pow 2 (-v.q).toNat

end Magnitude

/-- The quotient of two naturals, rounded to nearest; a half goes to the even neighbour. -/
def roundDiv (num den : Nat) : Nat :=
  let q := num / den
  let r := num % den
  if 2 * r < den then q
  else if den < 2 * r then q + 1
  else if q % 2 == 0 then q else q + 1

/-- The number of decimal digits of a natural; none for zero. -/
def digitCount (n : Nat) : Nat :=
  if n == 0 then 0 else (Nat.toDigits 10 n).length

/-- The place of the decimal point of a positive fraction: the least `k` with
`num / den < 10 ^ k`. -/
def pointPlace (num den : Nat) : Int :=
  if den ≤ num then (digitCount (num / den) : Int)
  else 1 - (digitCount ((den - 1) / num) : Int)

/-- The powers of ten by which numerator and denominator grow when a fraction is
measured in units of `10 ^ e`. -/
def unitFactors (e : Int) : Nat × Nat :=
  (Nat.pow 10 (-e).toNat, Nat.pow 10 e.toNat)

end PageObjects.Decimal
