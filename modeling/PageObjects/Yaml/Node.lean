import PageObjects.Yaml.Lexer
import PageObjects.Yaml.Schema

/-!
# The nodes of a document

Tokens are put together into nodes, which refer to one another by number: an
alias is a further reference to the node with its anchor, which may be one that
the alias stands in.

Main definitions:

- `Node`: scalars, sequences and mappings with their tags.
- `Document`: the nodes of a document.
- `Document.ofStream`: the one document in a stream of tokens, if there is one.
-/

namespace PageObjects.Yaml

/-- Scalars, sequences and mappings with their tags.  What they consist of is
given by number. -/
inductive Node where
  | scalar (tag text : String)
  | sequence (tag : String) (items : List Nat)
  | mapping (tag : String) (entries : List (Nat × Nat))
deriving Inhabited

/-- The nodes of a document, and the one that all others belong to. -/
structure Document where
  nodes : Array Node
  root : Nat

/-! ## Putting tokens together -/

/-- The state of putting tokens together: what is left, the handles of tags, the
nodes so far, those with anchors, and the number of open collections. -/
structure Composer where
  rest : List Token
  fault : Option Fault
  handles : List (String × String) := []
  nodes : Array Node := #[]
  anchors : List (String × Nat) := []
  depth : Nat := 0

/-- A step of putting tokens together. -/
abbrev Composing := StateT Composer (Except Fault)

/-- The next token; absent at the end of the stream. -/
def peekToken : Composing (Option Token) := do
  let s ← get
  match s.rest, s.fault with
  | t :: _, _ => return some t
  | [], none => return none
  | [], some fault => throw fault

/-- Pass over the next token. -/
def skipToken : Composing Unit :=
  modify fun s => { s with rest := s.rest.drop 1 }

/-- Pass over a token if it comes next. -/
def takeIf (t : Token) : Composing Bool := do
  if (← peekToken) == some t then
    skipToken
    return true
  else return false

/-- A token that has to come next. -/
def expectToken (t : Token) : Composing Unit := do
  if !(← takeIf t) then throw .malformed

/-- The handles that need no directive. -/
def defaultHandles : List (String × String) := [("!", "!"), ("!!", "tag:yaml.org,2002:")]

/-- A tag with its handle replaced. -/
def resolveTag (t : Tag) : Composing String := do
  match t.handle with
  | none => return t.suffix
  | some handle =>
    match (← get).handles.lookup handle with
    | some replacement => return replacement ++ t.suffix
    | none => throw .malformed

/-- An anchor and a tag, in either order. -/
def takeProperties : Composing (Option String × Option String) := do
  match ← peekToken with
  | some (.anchor name) =>
    skipToken
    match ← peekToken with
    | some (.tag t) =>
      skipToken
      return (some name, some (← resolveTag t))
    | _ => return (some name, none)
  | some (.tag t) =>
    skipToken
    match ← peekToken with
    | some (.anchor name) =>
      skipToken
      return (some name, some (← resolveTag t))
    | _ => return (none, some (← resolveTag t))
  | _ => return (none, none)

/-- The tag of a collection. -/
def collectionTag (tag : Option String) (name : String) : String :=
  match tag with
  | none | some "!" => coreTag name
  | some t => t

/-- The tag of a scalar. -/
def scalarTag (tag : Option String) (plain : Bool) (text : String) : String :=
  match tag with
  | none => if plain then plainTag text else coreTag "str"
  | some "!" => plainTag text
  | some t => t

/-- Whether one of the tokens comes next; the end of the stream counts as one when asked for. -/
def atOneOf (ts : List Token) : Composing Bool := do
  match ← peekToken with
  | some t => return ts.contains t
  | none => return false

/-- Add a node.  The result is its number. -/
def addNode (node : Node) : Composing Nat := do
  let s ← get
  set { s with nodes := s.nodes.push node }
  return s.nodes.size

/-- Add a node, which may have an anchor. -/
def addAnchored (anchor : Option String) (node : Node) : Composing Nat := do
  let id ← addNode node
  if let some name := anchor then
    modify fun s => { s with anchors := (name, id) :: s.anchors }
  return id

/-- Put a node in the place of a number. -/
def setNode (id : Nat) (node : Node) : Composing Unit :=
  modify fun s => { s with nodes := s.nodes.setIfInBounds id node }

/-- The scalar that an empty place stands for. -/
def emptyNode : Composing Nat := addNode (.scalar (coreTag "null") "")

/-- Collections may be nested up to this depth. -/
def nestingLimit : Nat := 486

/-- A collection, which has a number before what it consists of is put together. -/
def composeCollection {α : Type} (anchor : Option String) (node : α → Node) (content : Composing α) :
    Composing Nat := do
  if nestingLimit ≤ (← get).depth then throw .tooDeep
  let id ← addAnchored anchor (.scalar (coreTag "null") "")
  modify fun s => { s with depth := s.depth + 1 }
  setNode id (node (← content))
  modify fun s => { s with depth := s.depth - 1 }
  return id

mutual

/-- The node that comes next; it may be a block, or a sequence at the indentation of its key. -/
def composeNode : (fuel : Nat) → (block indentless : Bool) → Composing Nat
  | 0, _, _ => throw .malformed
  | fuel + 1, block, indentless => do
    if let some (.alias name) := ← peekToken then
      skipToken
      match (← get).anchors.lookup name with
      | some id => return id
      | none => throw .malformed
    let (anchor, tag) ← takeProperties
    if let some name := anchor then
      discard peekToken
      if ((← get).anchors.lookup name).isSome then throw .malformed
    composeContent fuel block indentless anchor tag

/-- What follows the properties of a node. -/
def composeContent : (fuel : Nat) → (block indentless : Bool) → (anchor tag : Option String) →
    Composing Nat
  | 0, _, _, _, _ => throw .malformed
  | fuel + 1, block, indentless, anchor, tag => do
    let sequence := composeCollection anchor fun items =>
      Node.sequence (collectionTag tag "seq") items
    let mapping := composeCollection anchor fun entries =>
      Node.mapping (collectionTag tag "map") entries
    let empty : Composing Nat :=
      if anchor.isSome || tag.isSome then addAnchored anchor (.scalar (scalarTag tag true "") "")
      else throw .malformed
    match ← peekToken with
    | some .blockEntry => if indentless then sequence (indentlessItems fuel) else empty
    | some (.scalar plain text) =>
      skipToken
      addAnchored anchor (.scalar (scalarTag tag plain text) text)
    | some .flowSequenceStart =>
      skipToken
      sequence (flowItems fuel true)
    | some .flowMappingStart =>
      skipToken
      mapping (flowEntries fuel true)
    | some .blockSequenceStart =>
      if block then
        skipToken
        sequence (blockItems fuel)
      else empty
    | some .blockMappingStart =>
      if block then
        skipToken
        mapping (blockEntries fuel)
      else empty
    | _ => empty

/-- A node, or an empty one when one of the tokens comes next. -/
def composeUnless : (fuel : Nat) → (stops : List Token) → (block indentless : Bool) →
    Composing Nat
  | 0, _, _, _ => throw .malformed
  | fuel + 1, stops, block, indentless => do
    if ← atOneOf stops then emptyNode else composeNode fuel block indentless

/-- The items of a block sequence. -/
def blockItems : (fuel : Nat) → Composing (List Nat)
  | 0 => throw .malformed
  | fuel + 1 => do
    if ← takeIf .blockEntry then
      let item ← composeUnless fuel [.blockEntry, .blockEnd] true false
      return item :: (← blockItems fuel)
    else
      expectToken .blockEnd
      return []

/-- The items of a sequence at the indentation of its key. -/
def indentlessItems : (fuel : Nat) → Composing (List Nat)
  | 0 => throw .malformed
  | fuel + 1 => do
    if ← takeIf .blockEntry then
      let item ← composeUnless fuel [.blockEntry, .key, .value, .blockEnd] true false
      return item :: (← indentlessItems fuel)
    else return []

/-- The entries of a block mapping. -/
def blockEntries : (fuel : Nat) → Composing (List (Nat × Nat))
  | 0 => throw .malformed
  | fuel + 1 => do
    let stops := [.key, .value, .blockEnd]
    if ← takeIf .key then
      let key ← composeUnless fuel stops true true
      let value ← if ← takeIf .value then composeUnless fuel stops true true else emptyNode
      return (key, value) :: (← blockEntries fuel)
    else
      expectToken .blockEnd
      return []

/-- The items of a flow sequence; a pair among them is a mapping of one entry. -/
def flowItems : (fuel : Nat) → (first : Bool) → Composing (List Nat)
  | 0, _ => throw .malformed
  | fuel + 1, first => do
    if ← takeIf .flowSequenceEnd then return []
    if !first then expectToken .flowEntry
    if ← takeIf .key then
      let id ← composeCollection none (fun entry => Node.mapping (coreTag "map") [entry]) do
        let key ← composeUnless fuel [.value, .flowEntry, .flowSequenceEnd] false false
        let value ←
          if ← takeIf .value then composeUnless fuel [.flowEntry, .flowSequenceEnd] false false
          else emptyNode
        return (key, value)
      return id :: (← flowItems fuel false)
    else if ← takeIf .flowSequenceEnd then return []
    else
      let item ← composeNode fuel false false
      return item :: (← flowItems fuel false)

/-- The entries of a flow mapping; a node alone is a key without a value. -/
def flowEntries : (fuel : Nat) → (first : Bool) → Composing (List (Nat × Nat))
  | 0, _ => throw .malformed
  | fuel + 1, first => do
    if ← takeIf .flowMappingEnd then return []
    if !first then expectToken .flowEntry
    if ← takeIf .key then
      let key ← composeUnless fuel [.value, .flowEntry, .flowMappingEnd] false false
      let value ←
        if ← takeIf .value then composeUnless fuel [.flowEntry, .flowMappingEnd] false false
        else emptyNode
      return (key, value) :: (← flowEntries fuel false)
    else if ← takeIf .flowMappingEnd then return []
    else
      let key ← composeNode fuel false false
      let value ← emptyNode
      return (key, value) :: (← flowEntries fuel false)

end

/-- Directives ahead of a document, with whether a version has been given. -/
def takeDirectives : (fuel : Nat) → (versioned : Bool) → Composing Unit
  | 0, _ => throw .malformed
  | fuel + 1, versioned => do
    match ← peekToken with
    | some (.version major _) =>
      if versioned || major != 1 then throw .malformed
      skipToken
      takeDirectives fuel true
    | some (.handle name replacement) =>
      if ((← get).handles.lookup name).isSome then throw .malformed
      skipToken
      modify fun s => { s with handles := (name, replacement) :: s.handles }
      takeDirectives fuel versioned
    | some .directive =>
      skipToken
      takeDirectives fuel versioned
    | _ => modify fun s => { s with handles := s.handles ++ defaultHandles }

/-- Markers of the end of a document. -/
def skipEnds : (fuel : Nat) → Composing Unit
  | 0 => return
  | fuel + 1 => do
    if ← takeIf .documentEnd then skipEnds fuel

/-- The root of the one document of a stream; none if the stream is empty. -/
def composeStream : Composing (Option Nat) := do
  let fuel := 6 * (← get).rest.length + 16
  match ← peekToken with
  | none => return none
  | some (.version ..) | some (.handle ..) | some .directive | some .documentStart =>
    takeDirectives fuel false
    expectToken .documentStart
    let root ← match ← peekToken with
      | none | some (.version ..) | some (.handle ..) | some .directive
      | some .documentStart | some .documentEnd => emptyNode
      | _ => composeNode fuel true false
    skipEnds fuel
    if (← peekToken).isSome then throw .malformed
    return some root
  | _ =>
    modify fun s => { s with handles := defaultHandles }
    let root ← composeNode fuel true false
    skipEnds fuel
    if (← peekToken).isSome then throw .malformed
    return some root

/-- The one document in a stream of tokens, if there is one. -/
def Document.ofStream (stream : Stream) : Except Fault (Option Document) := do
  let (root, s) ← composeStream.run { rest := stream.tokens, fault := stream.fault }
  return root.map fun root => { nodes := s.nodes, root }

end PageObjects.Yaml
