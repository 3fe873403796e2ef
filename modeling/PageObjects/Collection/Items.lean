import PageObjects.Collection.Occurrences

/-!
# Items

What is under a key of a collection, whether there is anything, and putting
something there.  Positions count from either end of a list, and keys of
mappings have to be such that they cannot change.

Main definitions:

- `itemAt`: the item of a list at a position.
- `Prog.itemOf`: the item under a key.
- `Prog.containsItem`: whether there is an item.
- `Prog.setItem`: put an item under a key.
- `Prog.membersOf`: what a value gives one by one.
-/

namespace PageObjects

/-- The place of a position in a list of a length; negative positions count from the end. -/
def placeOf (length : Nat) (position : Int) : Option Nat :=
  let place := if position < 0 then position + length else position
  if 0 ≤ place ∧ place < length then some place.toNat else none

/-- The item of a list at a position. -/
def itemAt (items : List Value) (position : Int) : Option Value :=
  (placeOf items.length position).bind fun i => items[i]?

/-- Whether a text occurs in another. -/
def occursIn (part : List Char) : List Char → Bool
  | [] => part.isEmpty
  | c :: cs => part.isPrefixOf (c :: cs) || occursIn part cs

namespace Prog

/-! ## Reading -/

/-- The place of a key in a sequence, which has to be a whole number. -/
def placeIn (length : Nat) (key : Value) : Prog Nat :=
  match key.index? with
  | some n => ofOption (.plain .position) (placeOf length n)
  | none => raise .wrongType

/-- The item of a sequence under a key. -/
def sequenceItem (items : List Value) (key : Value) : Prog Value := do
  let i ← placeIn items.length key
  ofOption (.plain .position) items[i]?

/-- The item of a mapping under a key. -/
def mappingItem (entries : Value.Entries) (key : Value) : Prog Value :=
  if key.hashable then ofOption (.plain .key) (Value.lookup? key entries) else raise .wrongType

/-- What a value gives one by one. -/
def membersOf (v : Value) : Prog (List Value) := do
  ofOption .wrongType (← view fun s => s.members? v)

/-- The answer of a member that a type defines, which has to be there. -/
def demand (v : Value) (name : String) (args : List Value) : Prog Value := do
  ofOption .wrongType (← askTypeWith v name args)

/-- The item of a value under a key. -/
def itemOf (v key : Value) : Prog Value := do
  match v with
  | .list i => sequenceItem (← view fun s => s.cells.listAt i) key
  | .tuple items => sequenceItem items key
  | .text _ | .toggle _ | .bindingKind _ | .bytes _ => sequenceItem (← membersOf v) key
  | .map i => mappingItem (← view fun s => s.cells.mapAt i) key
  | .mapping place => mappingItem (← view fun s => s.entriesAt place) key
  | .catalog c => mappingItem (← view fun s => s.entriesAt (.pages c)) key
  | .occurrence f => groupItem f key
  | v => demand v "__getitem__" [key]

/-- Whether a mapping has a key. -/
def hasKey (entries : Value.Entries) (key : Value) : Prog Bool :=
  if key.hashable then .done (Value.lookup? key entries).isSome else raise .wrongType

/-- Whether an item is equal to a value. -/
def hasItem (items : List Value) (key : Value) : Prog Bool :=
  view fun s => items.any fun x => s.cells.sameItem x key

/-- Whether a value has an item. -/
def containsItem (v key : Value) : Prog Bool := do
  match v with
  | .list i => hasItem (← view fun s => s.cells.listAt i) key
  | .tuple items | .series _ items => hasItem items key
  | .set i =>
    if key.hashable then hasItem (← view fun s => s.cells.setAt i) key else raise .wrongType
  | .bytes bs => hasItem (bs.map fun b => .int b.toNat) key
  | .map i => hasKey (← view fun s => s.cells.mapAt i) key
  | .mapping place => hasKey (← view fun s => s.entriesAt place) key
  | .catalog c => hasKey (← view fun s => s.entriesAt (.pages c)) key
  | v =>
    match v.word? with
    | some whole => do
      let part ← ofOption .wrongType key.word?
      pure (occursIn part.toList whole.toList)
    | none => truth (← demand v "__contains__" [key])

/-! ## Changing -/

/-- Put an item into a mapping that something keeps of its own. -/
def writePlace (place : Place) (key value : Value) : Prog Unit :=
  match place with
  | .fields i =>
    match key.word? with
    | some name => op (.setField i name value)
    | none => .done ()
  | .table d => op (.writeTable d key value)
  | .pages c => op (.register c key value)
  | .bindings _ => raise .wrongType

/-- Put an item under a key. -/
def setItem (v key value : Value) : Prog Unit := do
  match v with
  | .list i => do
    let items ← view fun s => s.cells.listAt i
    let place ← placeIn items.length key
    op (.putCell i (.list (items.set place value)))
  | .map i =>
    if key.hashable then do
      let entries ← view fun s => s.cells.mapAt i
      op (.putCell i (.map (Value.insertKey key value entries)))
    else raise .wrongType
  | .mapping place => if key.hashable then writePlace place key value else raise .wrongType
  | v => do
    let _ ← demand v "__setitem__" [key, value]
    pure ()

end Prog

end PageObjects
