import PageObjects.Json.Document
import PageObjects.PageType.Declaring

/-!
# Answers

What a script gets to see of a value: plain data as it is, and everything else
by what tells it apart.  A value that contains itself has no answer.

Main definitions:

- `Scene.raw`: plain data as a tree, for what is recorded as it was given.
- `Prog.answerOf`: the answer for a value.
- `Prog.summaryOf`: the answer for a definition.
-/

namespace PageObjects

namespace Scene

/-! ## Plain data -/

/-- The name of an entry in a tree. -/
def rawKey : Value → String
  | .none => "null"
  | .bool b => if b then "true" else "false"
  | v => v.word?.getD v.inspectPlain

/-- Plain data as a tree, up to a depth; what is no plain data has none, nor has
what is nested in itself, as `path` says. -/
def rawWithin (s : Scene) : (depth : Nat) → (path : List Key) → Value → Json
  | 0, _, _ => .null
  | depth + 1, path, v =>
    if path.contains v.identity then .null
    else
      let part := rawWithin s depth (v.identity :: path)
      match v with
      | .bool b => .bool b
      | .int n => .int n
      | .float x => .float x
      | .nan _ => .nan
      | .list i => .list ((s.cells.listAt i).map part)
      | .tuple items => .list (items.map part)
      | .map i => .object ((s.cells.mapAt i).map fun e => (rawKey e.1, part e.2))
      | v => (v.word?.map Json.text).getD .null

/-- Plain data as a tree. -/
def raw (s : Scene) (v : Value) : Json := s.rawWithin 100 [] v

end Scene

namespace Prog

/-! ## Answers -/

/-- A tree with one name. -/
def tagged (name : String) (j : Json) : Json := .object [(name, j)]

/-- An expectation of an element, whose time has to be a number. -/
def expectationAnswer (name timeout : Value) : Prog Json := do
  let x ← ofFault timeout.toFloat
  let name ← view fun s => s.raw name
  pure (.list [name, if x.isNaN then .nan else .float x])

/-- The answer for what can be called. -/
def callableAnswer (v : Value) (name : Option String) : Prog Json := do
  match name with
  | some n => pure (tagged "callable" (.text n))
  | none => do
    let n ← attributeOf "__name__" v
    let n ← view fun s => s.raw n
    pure (tagged "callable" n)

/-- The answer for any other value. -/
def otherAnswer (v : Value) : Prog Json := do
  if ← view fun s => s.callable v then callableAnswer v v.callableName?
  else pure (tagged "object" (.text v.typeName))

/-- The entries of a mapping, whose parts are answered by `part`. -/
def mapAnswer (part : Value → Prog Json) (entries : Value.Entries) : Prog Json := do
  let items ← entries.mapM fun e => do
    let key ← part e.1
    let value ← part e.2
    pure (Json.list [key, value])
  pure (tagged "map" (.list items))

/-- The answer for a definition; its title is answered by `part`. -/
def summaryWith (part : Value → Prog Json) (id : Nat) : Prog (List (String × Json)) := do
  let d ← ofOption .unset (← view fun s => s.definitions[id]?)
  let element ← match d.expectedElement with
    | some e => expectationAnswer e.name e.timeout
    | none => pure .null
  let title ← part ((d.expectedTitle.map (·.toValue)).getD .none)
  let elements ← ofFault d.elementNames
  let actions ← ofFault d.actionNames
  let raw ← view fun s => s.raw
  pure [("page_name", raw d.pageName.value), ("url", raw d.address), ("expected_element", element),
    ("expected_title", title), ("elements", .list (elements.map raw)), ("actions", .list (actions.map raw)),
    ("locked", .bool d.locked)]

/-- The answer for a value, up to a depth. -/
def answerWithin : (depth : Nat) → Value → Prog Json
  | 0, _ => raise .tooDeep
  | depth + 1, v => do
    let part := answerWithin depth
    match v with
    | .none => pure .null
    | .bool b => pure (.bool b)
    | .int n => pure (.int n)
    | .float x => pure (.float x)
    | .nan _ => pure .nan
    | .text t => pure (.text t)
    | .list i => do
      let items ← (← view fun s => s.cells.listAt i).mapM part
      pure (.list items)
    | .tuple items => do
      let items ← items.mapM part
      pure (.list items)
    | .map i => do mapAnswer part (← view fun s => s.cells.mapAt i)
    | .mapping place => do mapAnswer part (← view fun s => s.entriesAt place)
    | .pattern source => pure (tagged "pattern" (.text source))
    | .toggle t => pure (tagged "toggle" (.text t.name))
    | .bindingKind k => pure (.text (Value.bindingWord k))
    | .element name => pure (tagged "el" (.text name))
    | .driver name => pure (tagged "driver" (.text name))
    | .control id kind => do
      let word ← attributeOf "kind" (.control id kind)
      let word ← part word
      let wrapped ← attributeOf "element" (.control id kind)
      let wrapped ← part wrapped
      pure (.object [("control", .text kind.typeName), ("kind", word), ("of", wrapped)])
    | .page _ cls => pure (tagged "page" (.text cls.name))
    | .pageType cls | .recordType cls => pure (tagged "class" (.text cls.name))
    | .systemType n => pure (tagged "class" (.text n))
    | .definition id => do
      let parts ← summaryWith part id
      pure (.object parts)
    | .expectation name timeout => expectationAnswer name timeout
    | .binding name kind _ => do
      let name ← view fun s => s.raw name
      pure (.object [("binding", name), ("kind", .text (Value.bindingWord kind))])
    | v => otherAnswer v

/-- The answer for a value. -/
def answerOf (v : Value) : Prog Json := answerWithin Cells.depthLimit v

/-- The answer for a definition. -/
def summaryOf (id : Nat) : Prog (List (String × Json)) := summaryWith answerOf id

end Prog

end PageObjects
