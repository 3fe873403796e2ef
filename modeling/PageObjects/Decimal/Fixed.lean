import PageObjects.Decimal.Nearest
import PageObjects.Decimal.Shortest

/-!
# Rounded decimals

Durations are shown with two places, kept with three, and waiting times are
shown with six significant digits.  All rounding is exact: a decimal half-way
between two neighbours goes to the even one.

Main definitions:

- `fixed`: a double with a number of places.
- `rounded`: the double nearest to a double rounded to a number of places.
- `general`: a double with a number of significant digits.
-/

namespace PageObjects.Decimal

/-- A double with `places` digits after the point. -/
def fixed (places : Nat) (x : Float) : String :=
  match reading x with
  | .notANumber => "nan"
  | .infinite negative => signed negative "inf".toList
  | .finite negative v =>
    let digits := digitsOf (roundDiv (v.num * Nat.pow 10 places) v.den)
    let digits := zeros (places + 1 - digits.length) ++ digits
    let whole := digits.length - places
    signed negative (digits.take whole ++
      if places == 0 then [] else '.' :: digits.drop whole)

/-- The double nearest to a double rounded to `places` digits after the point. -/
def rounded (places : Nat) (x : Float) : Float :=
  match reading x with
  | .finite negative v => ofDecimal negative (roundDiv (v.num * Nat.pow 10 places) v.den) (-places)
  | _ => x

/-- Numbers from `0.0001` up to `places` digits before the point are written
positionally, without a mark for whole numbers. -/
def generalLayout (places : Nat) : Layout := ⟨-3, places, ""⟩

/-- A double with at most `places` significant digits. -/
def general (places : Nat) (x : Float) : String :=
  match reading x with
  | .notANumber => "nan"
  | .infinite negative => signed negative "inf".toList
  | .finite negative v =>
    if v.m == 0 then signed negative ['0']
    else
      let place := pointPlace v.num v.den
      let (small, large) := unitFactors (place - places)
      let d := roundDiv (v.num * small) (v.den * large)
      let (d, place) := if d == Nat.pow 10 places then (Nat.pow 10 (places - 1), place + 1) else (d, place)
      signed negative ((generalLayout places).write (digitsOf d) place)

end PageObjects.Decimal
