import PageObjects.Value.Cells
import PageObjects.Yaml.Node

/-!
# Documents of YAML

The value of a document.  A collection gets its cell as soon as it is met, and
is filled when its turn comes: collections are filled in the order in which they
were met, so what is wrong near the root is found before what is wrong further
down, and a collection may contain itself.  Mappings may be merged into others;
of two entries with equal keys the later value counts, at the place of the first
key.

Main definitions:

- `Builder`: the state of building a value.
- `construct`: the value of a node.
- `fill`: what a collection consists of.
- `read`: the value of the one document in a text.
-/

namespace PageObjects.Yaml

/-- The state of building a value: the nodes, the values of those that have been
met, the collections that are to be filled, and all cells. -/
structure Builder where
  nodes : Array Node
  made : Array (Option Value)
  pending : Array (Nat × Value) := #[]
  cells : Cells

/-- A step of building a value. -/
abbrev Building := StateT Builder (Except Fault)

/-- The node of a number. -/
def nodeAt (id : Nat) : Building Node := do
  return ((← get).nodes[id]?).getD (.scalar (coreTag "null") "")

/-- The tag of a node. -/
def Node.tag : Node → String
  | .scalar tag _ | .sequence tag _ | .mapping tag _ => tag

/-- A node with another tag. -/
def Node.withTag (tag : String) : Node → Node
  | .scalar _ text => .scalar tag text
  | .sequence _ items => .sequence tag items
  | .mapping _ entries => .mapping tag entries

/-- Put a node in the place of a number. -/
def replaceNode (id : Nat) (node : Node) : Building Unit :=
  modify fun s => { s with nodes := s.nodes.setIfInBounds id node }

/-- The entries of a mapping node. -/
def entriesAt (id : Nat) : Building (List (Nat × Nat)) := do
  match ← nodeAt id with
  | .mapping _ entries => return entries
  | _ => throw .malformed

/-! ## Merging -/

/-- Whether a node has a tag of the core schema. -/
def hasTag (name : String) (id : Nat) : Building Bool := do
  return (← nodeAt id).tag == coreTag name

/-- The first entry whose key asks for merging, with the other entries. -/
def takeMerge : List (Nat × Nat) → Building (Option (Nat × List (Nat × Nat)))
  | [] => return none
  | (key, value) :: rest => do
    if ← hasTag "merge" key then return some (value, rest)
    match ← takeMerge rest with
    | some (merged, others) => return some (merged, (key, value) :: others)
    | none => return none

/-- Put the entries that are merged into a mapping ahead of its own; those of
earlier mappings in a list of them come last, so that they count. -/
def flatten : (depth : Nat) → (id : Nat) → Building Unit
  | 0, _ => throw .tooDeep
  | depth + 1, id => do
    let mut merged : List (Nat × Nat) := []
    for _ in ← entriesAt id do
      if let some (value, others) ← takeMerge (← entriesAt id) then
        replaceNode id (.mapping (← nodeAt id).tag others)
        match ← nodeAt value with
        | .mapping .. =>
          flatten depth value
          merged := merged ++ (← entriesAt value)
        | .sequence _ items =>
          let mut parts : List (List (Nat × Nat)) := []
          for item in items do
            match ← nodeAt item with
            | .mapping .. =>
              flatten depth item
              parts := (← entriesAt item) :: parts
            | _ => throw .malformed
          merged := merged ++ parts.flatten
        | .scalar .. => throw .malformed
    let own ← entriesAt id
    for (key, _) in own do
      if ← hasTag "value" key then
        replaceNode key ((← nodeAt key).withTag (coreTag "str"))
    if !merged.isEmpty then replaceNode id (.mapping (← nodeAt id).tag (merged ++ own))

/-! ## Building -/

/-- Scalars in mappings, and mappings in merges, may be nested up to this depth. -/
def depthLimit : Nat := 960

/-- The entry of a mapping whose key is the default key. -/
def defaultEntry : List (Nat × Nat) → Building (Option Nat)
  | [] => return none
  | (key, value) :: rest => do
    if ← hasTag "value" key then return some value
    defaultEntry rest

/-- The text of a scalar, or of the default entry of a mapping. -/
def scalarText : (depth : Nat) → (id : Nat) → Building String
  | 0, _ => throw .tooDeep
  | depth + 1, id => do
    match ← nodeAt id with
    | .scalar _ text => return text
    | .sequence .. => throw .malformed
    | .mapping _ entries =>
      match ← defaultEntry entries with
      | some value => scalarText depth value
      | none => throw .malformed

/-- A new cell. -/
def newCell (c : Cell) : Building Nat := do
  let s ← get
  let (i, cells) := s.cells.make c
  set { s with cells }
  return i

/-- A collection that is to be filled. -/
def later (id : Nat) (v : Value) : Building Value := do
  modify fun s => { s with pending := s.pending.push (id, v) }
  return v

/-- The value of a node by its tag. -/
def valueOf (id : Nat) (tag : String) : Building Value := do
  let text := scalarText depthLimit id
  if tag == coreTag "seq" || tag == coreTag "omap" || tag == coreTag "pairs" then
    later id (.list (← newCell (.list [])))
  else if tag == coreTag "map" then later id (.map (← newCell (.map [])))
  else if tag == coreTag "set" then later id (.set (← newCell (.set [])))
  else if tag == coreTag "str" then return .text (← text)
  else if tag == coreTag "null" then
    discard text
    return .none
  else if tag == coreTag "bool" then boolOf (← text)
  else if tag == coreTag "int" then intOf (← text)
  else if tag == coreTag "float" then
    let text ← text
    floatOf (← newCell (.list [])) text
  else if tag == coreTag "binary" then binaryOf (← text)
  else if tag == coreTag "timestamp" then
    let text ← text
    match ← nodeAt id with
    | .scalar .. => timestampOf text
    | _ => throw .timestampNotScalar
  else throw .malformed

/-- The value of a node, which is the same each time. -/
def construct (id : Nat) : Building Value := do
  match ((← get).made[id]?).join with
  | some v => return v
  | none =>
    let v ← valueOf id (← nodeAt id).tag
    modify fun s => { s with made := s.made.setIfInBounds id (some v) }
    return v

/-- The values of nodes. -/
def constructAll : List Nat → Building (List Value)
  | [] => return []
  | id :: rest => do
    let v ← construct id
    return v :: (← constructAll rest)

/-- The entries of a mapping, whose keys must be able to be keys. -/
def constructEntries (acc : Value.Entries) : List (Nat × Nat) → Building Value.Entries
  | [] => return acc
  | (key, value) :: rest => do
    let k ← construct key
    if !k.hashable then throw .malformed
    let v ← construct value
    constructEntries (Value.insertKey k v acc) rest

/-- The pairs of mappings of one entry. -/
def constructPairs : List Nat → Building (List Value)
  | [] => return []
  | id :: rest => do
    match ← nodeAt id with
    | .mapping _ [(key, value)] =>
      let k ← construct key
      let v ← construct value
      return .tuple [k, v] :: (← constructPairs rest)
    | _ => throw .malformed

/-- The items of a sequence node. -/
def itemsAt (id : Nat) : Building (List Nat) := do
  match ← nodeAt id with
  | .sequence _ items => return items
  | _ => throw .malformed

/-- The entries of a mapping node, after merging. -/
def mappingAt (id : Nat) : Building Value.Entries := do
  discard (entriesAt id)
  flatten depthLimit id
  constructEntries [] (← entriesAt id)

/-- Give a cell its content. -/
def fillCell (i : Nat) (c : Cell) : Building Unit :=
  modify fun s => { s with cells := s.cells.put i c }

/-- Fill a collection with what its node consists of. -/
def fill (id : Nat) (v : Value) : Building Unit := do
  match v with
  | .list i =>
    let items ← itemsAt id
    if ← hasTag "seq" id then fillCell i (.list (← constructAll items))
    else fillCell i (.list (← constructPairs items))
  | .map i => fillCell i (.map (← mappingAt id))
  | .set i => fillCell i (.set ((← mappingAt id).map (·.1)))
  | _ => return

/-- Fill all collections, from a place in their order on. -/
def fillFrom : (fuel place : Nat) → Building Unit
  | 0, _ => return
  | fuel + 1, place => do
    if let some (id, v) := (← get).pending[place]? then
      fill id v
      fillFrom fuel (place + 1)

/-- The value of a document. -/
def Document.build (d : Document) (cells : Cells) : Except Fault (Value × Cells) := do
  let building : Building Value := do
    let v ← construct d.root
    fillFrom (d.nodes.size + 1) 0
    return v
  let (v, s) ← building.run { nodes := d.nodes, made := Array.replicate d.nodes.size none, cells }
  return (v, s.cells)

/-- The value of the one document in a text, whose collections are new; an empty
text stands for the absent value. -/
def read (text : String) (cells : Cells) : Except Fault (Value × Cells) := do
  match ← Document.ofStream (Stream.ofText text.toList) with
  | none => return (.none, cells)
  | some d => d.build cells

end PageObjects.Yaml
