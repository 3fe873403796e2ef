import PageObjects.Value.Key

/-!
# Cells

Lists, mappings and sets can be changed while several things refer to them, so
each has a cell that holds what it consists of.  Cells are numbered in the order
in which they were made and are never given up.

Main definitions:

- `Cell`, `Cells`: what a collection consists of, and all collections.
- `Cells.make`, `Cells.put`: a new cell, and a cell with another content.
- `Cells.items`, `Cells.entries`: what a value consists of.
- `Cells.truthy`: whether a value counts as true.
- `Cells.same`: equality of values, by what they consist of.

Main results:

- Theorem `Cells.cell?_make`: a new cell leaves all others as they are.
- Theorem `Cells.cell?_put`: so does a changed one.
-/

namespace PageObjects

/-- What a collection consists of. -/
inductive Cell where
  | list (items : List Value)
  | map (entries : Value.Entries)
  | set (items : List Value)
deriving Inhabited

/-- All collections. -/
structure Cells where
  all : Array Cell := #[]
deriving Inhabited

namespace Cells

/-- The content of a cell. -/
def cell? (s : Cells) (i : Nat) : Option Cell := s.all[i]?

/-- A new cell. -/
def make (s : Cells) (c : Cell) : Nat × Cells := (s.all.size, ⟨s.all.push c⟩)

/-- A cell with another content. -/
def put (s : Cells) (i : Nat) (c : Cell) : Cells := ⟨s.all.setIfInBounds i c⟩

/-- A new cell leaves all others as they are. -/
theorem cell?_make (s : Cells) (c : Cell) (i : Nat) :
    (s.make c).2.cell? i = if i = s.all.size then some c else s.cell? i := by
  simp [make, cell?, Array.getElem?_push]

/-- A changed cell leaves all others as they are. -/
theorem cell?_put (s : Cells) (c : Cell) (i j : Nat) :
    (s.put i c).cell? j = if i = j ∧ i < s.all.size then some c else s.cell? j := by
  by_cases h : i = j
  · subst h
    by_cases hi : i < s.all.size
    · simp [put, cell?, hi]
    · simp [put, cell?, hi]
  · simp [put, cell?, h]

/-- The items of a list. -/
def listAt (s : Cells) (i : Nat) : List Value :=
  match s.cell? i with
  | some (.list items) => items
  | _ => []

/-- The entries of a mapping. -/
def mapAt (s : Cells) (i : Nat) : Value.Entries :=
  match s.cell? i with
  | some (.map entries) => entries
  | _ => []

/-- The members of a set. -/
def setAt (s : Cells) (i : Nat) : List Value :=
  match s.cell? i with
  | some (.set items) => items
  | _ => []

/-- The items of a list, a tuple, a set or a series. -/
def items? (s : Cells) : Value → Option (List Value)
  | .list i => some (s.listAt i)
  | .set i => some (s.setAt i)
  | .tuple items | .series _ items => some items
  | _ => none

/-- The entries of a mapping. -/
def entries? (s : Cells) : Value → Option Value.Entries
  | .map i => some (s.mapAt i)
  | _ => none

/-- Whether a value counts as true. -/
def truthy (s : Cells) : Value → Bool
  | .none => false
  | .bool b => b
  | .int n => n != 0
  | .float x => x != 0
  | .text t => t != ""
  | .bytes bs => !bs.isEmpty
  | .list i => !(s.listAt i).isEmpty
  | .tuple items | .series _ items => !items.isEmpty
  | .set i => !(s.setAt i).isEmpty
  | .map i => !(s.mapAt i).isEmpty
  | _ => true

@[simp] theorem truthy_bool (s : Cells) (b : Bool) : s.truthy (.bool b) = b := rfl

/-! ## Equality -/

/-- Item by item equality. -/
def sameItems (same : Value → Value → Bool) : List Value → List Value → Bool
  | [], [] => true
  | a :: as, b :: bs => same a b && sameItems same as bs
  | _, _ => false

/-- Equality of values with a given equality of what they consist of. -/
def sameBy (s : Cells) (same : Value → Value → Bool) (a b : Value) : Bool :=
  match a, b with
  | .list i, .list j => i == j || sameItems same (s.listAt i) (s.listAt j)
  | .tuple as, .tuple bs => sameItems same as bs
  | .set i, .set j =>
    (s.setAt i).length == (s.setAt j).length &&
      (s.setAt i).all fun x => (s.setAt j).any fun y => x.identity == y.identity
  | .map i, .map j =>
    i == j || (s.mapAt i).length == (s.mapAt j).length &&
      (s.mapAt i).all fun e =>
        match Value.lookup? e.1 (s.mapAt j) with
        | some v => same e.2 v
        | none => false
  | .nan _, .nan _ => false
  | .expectation n t, .expectation m u => same n m && same t u
  | a, b => a.identity == b.identity

/-- Equality of values of a bounded depth. -/
def sameWithin (s : Cells) : (depth : Nat) → Value → Value → Bool
  | 0 => s.sameBy fun _ _ => false
  | depth + 1 => s.sameBy (sameWithin s depth)

/-- The depth to which values are compared and shown. -/
def depthLimit : Nat := 960

/-- Equality of values.  Numbers are compared by value whatever their type,
texts and words by their letters, collections by what they consist of, and
things that a program has made by their identity. -/
def same (s : Cells) (a b : Value) : Bool := s.sameWithin depthLimit a b

/-- Equality of an item of a collection: the same thing is equal to itself. -/
def sameItem (s : Cells) (a b : Value) : Bool := a.identity == b.identity || s.same a b

@[simp] theorem same_text (s : Cells) (a b : String) :
    s.same (.text a) (.text b) = (a == b) := by
  rw [Bool.eq_iff_iff]
  simp [same, sameWithin, sameBy, depthLimit, Value.identity]

end Cells

end PageObjects
