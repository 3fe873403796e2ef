/-!
# Tables of code point ranges

Character classes are kept as ascending lists of disjoint inclusive ranges of
code points.  Membership scans the list and stops at the first range that
begins past the code point.

Main definitions:

- `RangeTable`: the ranges of one class.
- `RangeTable.holds`: membership of a code point.
- `RangeTable.offset?`: position of a code point inside its range.
-/

namespace PageObjects.Text

/-- The ascending, disjoint, inclusive code point ranges of a character class. -/
abbrev RangeTable := List (Nat × Nat)

namespace RangeTable

/-- Whether a code point lies in one of the ranges. -/
def holds : RangeTable → Nat → Bool
  | [], _ => false
  | (lo, hi) :: rest, n => if n < lo then false else n ≤ hi || holds rest n

/-- The distance of a code point from the start of the range that holds it. -/
def offset? : RangeTable → Nat → Option Nat
  | [], _ => none
  | (lo, hi) :: rest, n =>
    if n < lo then none else if n ≤ hi then some (n - lo) else offset? rest n

@[simp] theorem holds_nil (n : Nat) : holds [] n = false := rfl

end RangeTable

end PageObjects.Text
