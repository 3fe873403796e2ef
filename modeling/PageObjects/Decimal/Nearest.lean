import PageObjects.Decimal.Binary

/-!
# The double nearest to a fraction

Decimal texts and integers become the nearest double; a fraction half-way
between two doubles goes to the one with an even last bit.

Main definitions:

- `nearestBits`: the bits of the double nearest to a fraction.
- `ofDecimal`: the double nearest to `m * 10 ^ e`.
- `ofInt?`: the double nearest to an integer, unless it is too large.
-/

namespace PageObjects.Decimal

/-- The bits of positive infinity. -/
def infinityBits : Nat := 2047 * Nat.pow 2 52

/-- The greatest `k` with `2 ^ k ≤ num / den`, for a positive fraction. -/
def binaryPlace (num den : Nat) : Int :=
  let k : Int := (num.log2 : Int) - (den.log2 : Int)
  if den * Nat.pow 2 k.toNat ≤ num * Nat.pow 2 (-k).toNat then k else k - 1

/-- The bits of the double nearest to a fraction. -/
def nearestBits (num den : Nat) : Nat :=
  if num == 0 then 0
  else
    let q := max (binaryPlace num den - 52) (-1074)
    let m := roundDiv (num * Nat.pow 2 (-q).toNat) (den * Nat.pow 2 q.toNat)
    let (m, q) := if m == Nat.pow 2 53 then (Nat.pow 2 52, q + 1) else (m, q)
    if m < Nat.pow 2 52 then m
    else if 971 < q then infinityBits
    else (q + 1075).toNat * Nat.pow 2 52 + (m - Nat.pow 2 52)

/-- The double with given bits and sign. -/
def ofBits (negative : Bool) (bits : Nat) : Float :=
  Float.ofBits (UInt64.ofNat (if negative then Nat.pow 2 63 + bits else bits))

/-- Positive infinity. -/
def infinity : Float := ofBits false infinityBits

/-- A value that is not a number. -/
def notANumber : Float := ofBits false (infinityBits + Nat.pow 2 51)

/-- The double nearest to `m * 10 ^ e`, up to sign.  Exponents far outside the
range of doubles are decided without computing the power. -/
def ofDecimal (negative : Bool) (m : Nat) (e : Int) : Float :=
  let place := (digitCount m : Int) + e
  if m == 0 || place < -400 then ofBits negative 0
  else if 400 < place then ofBits negative infinityBits
  else ofBits negative (nearestBits (m * Nat.pow 10 e.toNat) (Nat.pow 10 (-e).toNat))

/-- The double nearest to an integer; none when that is infinite. -/
def ofInt? (n : Int) : Option Float :=
  let bits := nearestBits n.natAbs 1
  if bits == infinityBits then none else some (ofBits (n < 0) bits)

end PageObjects.Decimal
