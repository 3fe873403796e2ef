/-!
# The order of types

A type that builds on several others looks names up in one order.  The order
starts with the type itself, keeps the order of every base and the order in
which the bases are given, and exists only if these agree.

Main definitions:

- `merge`: orders merged into one that keeps all of them.
- `linearization`: the order of a type.
-/

namespace PageObjects.PageType

variable {α : Type} [DecidableEq α]

/-- The first head that no order has further on. -/
def nextHead? (orders : List (List α)) : Option α :=
  (orders.filterMap List.head?).find? fun h => orders.all fun o => !o.tail.contains h

/-- The orders without a head. -/
def withoutHead (h : α) (orders : List (List α)) : List (List α) :=
  orders.map fun o => if o.head? = some h then o.tail else o

/-- Orders merged into one, in at most `n` steps. -/
def mergeWithin : (n : Nat) → List (List α) → Option (List α)
  | 0, orders => if orders.all List.isEmpty then some [] else none
  | n + 1, orders =>
    if orders.all List.isEmpty then some []
    else
      match nextHead? orders with
      | none => none
      | some h => (mergeWithin n (withoutHead h orders)).map (h :: ·)

/-- Orders merged into one that keeps all of them. -/
def merge (orders : List (List α)) : Option (List α) :=
  mergeWithin orders.flatten.length orders

/-- The order of a type, from the orders of its bases.  No base may be given twice. -/
def linearization (self : α) (bases : List α) (orders : List (List α)) : Option (List α) :=
  if bases.Nodup then (merge (orders ++ [bases])).map (self :: ·) else none

end PageObjects.PageType
