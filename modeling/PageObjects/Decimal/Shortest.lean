import PageObjects.Decimal.Binary
import PageObjects.Decimal.Layout

/-!
# The shortest decimal that reads back

A double is shown with the fewest digits that still lie nearer to it than to
any other double, and of those decimals with the one nearest to it.

Main definitions:

- `readsBack`: whether a decimal lies in the interval that rounds to a double.
- `shortest`: the digits and exponent of the shortest such decimal.
- `plainLayout`: how a number is laid out in messages and answers.
- `showFloat`: the text of a double.
-/

namespace PageObjects.Decimal

/-- Whether the decimal `d * 10 ^ e` rounds to the magnitude.  The interval
reaches half-way to the two neighbours; its ends belong to it when the last bit
is even, and the lower neighbour of a power of two is only half as far away. -/
def readsBack (v : Magnitude) (d : Nat) (e : Int) : Bool :=
  let below := if v.m == Nat.pow 2 52 && -1074 < v.q then 1 else 2
  let (small, large) := unitFactors e
  let q := v.q - 2
  let point := d * large * Nat.pow 2 (-q).toNat
  let unit := small * Nat.pow 2 q.toNat
  let low := (4 * v.m - below) * unit
  let high := (4 * v.m + 2) * unit
  if v.m % 2 == 0 then low ≤ point && point ≤ high else low < point && point < high

/-- The better of the two neighbours of the magnitude on the grid of multiples
of `10 ^ e`, if one of them reads back. -/
def onGrid? (v : Magnitude) (e : Int) : Option Nat :=
  let (small, large) := unitFactors e
  let num := v.num * small
  let den := v.den * large
  let d := num / den
  match readsBack v d e, readsBack v (d + 1) e with
  | true, true => some (roundDiv num den)
  | true, false => some d
  | false, true => some (d + 1)
  | false, false => none

/-- Try grids with `n`, `n + 1`, … digits. -/
def shortestFrom (v : Magnitude) (place : Int) : (fuel n : Nat) → Nat × Int
  | 0, n => (roundDiv (v.num * (unitFactors (place - n)).1) (v.den * (unitFactors (place - n)).2),
      place - n)
  | fuel + 1, n =>
    match onGrid? v (place - n) with
    | some d => (d, place - n)
    | none => shortestFrom v place fuel (n + 1)

/-- The shortest decimal `d * 10 ^ e` that reads back as a positive magnitude;
seventeen digits always do. -/
def shortest (v : Magnitude) : Nat × Int :=
  shortestFrom v (pointPlace v.num v.den) 16 1

/-- Numbers from `0.0001` up to sixteen digits before the point are written
positionally, and whole numbers end in `.0`. -/
def plainLayout : Layout := ⟨-3, 16, ".0"⟩

/-- The sign of a number. -/
def signed (negative : Bool) (cs : List Char) : String :=
  String.ofList (if negative then '-' :: cs else cs)

/-- The text of a double. -/
def showFloat (x : Float) : String :=
  match reading x with
  | .notANumber => "nan"
  | .infinite negative => signed negative "inf".toList
  | .finite negative v =>
    if v.m == 0 then signed negative "0.0".toList
    else
      let (d, e) := shortest v
      let digits := digitsOf d
      signed negative (plainLayout.write digits (digits.length + e))

end PageObjects.Decimal
