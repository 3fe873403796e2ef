import PageObjects.PageType.Declaring

/-!
# Catalog entries

An entry of a catalog describes one page type: its address, its expectations,
its elements and values with their locators, and its links and buttons.  It is
read as a list of statements, of which one that cannot be read is a fault; the
faults that count are the first of all, in the order of the statements.

Main definitions:

- `Entry.known`, `Entry.unknownKeys`: the keys of an entry.
- `Entry.locator`: the strategy and the target of a locator.
- `Entry.steps`: the statements of an entry.
-/

namespace PageObjects.Catalog.Entry

/-- A statement, or why it cannot be read. -/
abbrev Step := Except Fault Statement

/-- The keys that an entry may have. -/
def known : List String :=
  ["url", "expected_title", "expected_element", "elements", "values", "links", "buttons", "base"]

/-- The keys of an entry that it may not have, in ascending order.  Keys of
which some are no texts cannot be listed. -/
def unknownKeys (raw : Value.Entries) : Except Fault (List String) :=
  let unknown := raw.filter fun e => !known.any fun k => e.1.word? == some k
  match unknown.mapM fun e => e.1.word? with
  | some keys => .ok (keys.mergeSort Text.Half.precedes)
  | none => .error .wrongType

/-- The search strategies by their keys. -/
def strategies : List (String × String) :=
  [("id", "id"), ("name", "name"), ("css", "css selector"), ("xpath", "xpath"),
   ("link_text", "link text"), ("partial_link_text", "partial link text"),
   ("class_name", "class name"), ("tag_name", "tag name")]

/-- What is done with a found element, by the keys of the kinds of controls. -/
def finishes : List (String × Finish) :=
  [("text_field", .wrapped .textField), ("select_list", .wrapped .selectList),
   ("checkbox", .wrapped .checkBox), ("radio", .wrapped .radioButton), ("auto", .editable)]

/-- A locator: its strategy, its target, and all that it was given with. -/
def locator (s : Scene) (name spec : Value) : Except Fault (String × String × Value.Entries) := do
  let incomplete : Except Fault (String × String × Value.Entries) := do
    .error (.incompleteLocator (← s.text name))
  match s.entries? spec with
  | none => incomplete
  | some fields =>
    match Value.field? "by" fields, Value.field? "value" fields with
    | some strategy, some target =>
      match strategies.lookup (Text.lowercaseString (← s.text strategy)) with
      | some found => return (found, ← s.text target, fields)
      | none => .error (.unknownStrategy (← s.text name) (← s.inspect strategy))
    | _, _ => incomplete

/-- The kind of control that a locator asks for. -/
def finish (s : Scene) (name kind : Value) : Except Fault Finish := do
  if kind.isNone then return .element
  else if !kind.hashable then .error .wrongType
  else
    match kind.word?.bind fun k => finishes.lookup k with
    | some f => return f
    | none => .error (.unknownControl (← s.text name) (← s.inspect kind))

/-- The statement of an element. -/
def element (s : Scene) (name spec : Value) : Step := do
  let (strategy, target, fields) ← locator s name spec
  let f ← finish s name (Value.field "kind" fields)
  return .binding "element" name (.locator "<lambda>" strategy target f)

/-- The statement of a value: the text of an element, or an attribute of it. -/
def value (s : Scene) (name spec : Value) : Step := do
  let (strategy, target, fields) ← locator s name spec
  let property := (Value.field? "attribute" fields).getD (.text "text")
  if property.word? = some "text" then
    return .binding "value" name (.locator "<lambda>" strategy target .text)
  else return .binding "value" name (.attributeLocator strategy target property)

/-- The statement of an expected title. -/
def expectedTitle (s : Scene) (raw : Value) : Step := do
  if raw.word?.isSome then return .expectTitle raw
  else
    match ((s.entries? raw).bind (Value.field? "pattern")).bind Value.word? with
    | some source =>
      match Pattern.compile source with
      | .ok _ => return .expectTitle (.pattern source)
      | .error fault => .error (.ofPattern fault)
    | none => .error (.badTitle (← s.inspect raw))

/-- The statement of an expected element. -/
def expectedElement (s : Scene) (raw : Value) : Step := do
  if raw.word?.isSome then return .expectElement raw (some .none)
  else
    match (s.entries? raw).map fun fields => (Value.field "name" fields, Value.field "timeout" fields) with
    | none => .error (.badExpectation (← s.inspect raw))
    | some (name, timeout) =>
      if name.word?.isNone then .error (.badExpectation (← s.inspect raw))
      else if timeout.isNone then return .expectElement name (some .none)
      else
        let x ← timeout.toFloat
        return .expectElement name (some (.ofFloat x))

/-- The statements of named parts: each key with its value. -/
def named (s : Scene) (raw : Value.Entries) (key : String) (state : Value → Value → Step) : List Step :=
  let part := Value.field key raw
  if s.truthy part then
    match s.entries? part with
    | some entries => entries.map fun e => state e.1 e.2
    | none => [.error .noSuchName]
  else []

/-- The statements of labels. -/
def labels (s : Scene) (raw : Value.Entries) (key : String) (state : Value → Statement) : List Step :=
  let part := Value.field key raw
  if s.truthy part then
    match s.members? part with
    | some items => items.map fun v => (s.text v).map fun t => state (.text t)
    | none => [.error .wrongType]
  else []

/-- The statement of a part that may be absent. -/
def single (raw : Value.Entries) (key : String) (state : Value → Step) : List Step :=
  let part := Value.field key raw
  if part.isNone then [] else [state part]

/-- The statement of an address. -/
def address (s : Scene) (raw : Value) : Step := (s.text raw).map fun t => .address (.text t)

/-- The statements of an entry. -/
def steps (s : Scene) (raw : Value.Entries) : List Step :=
  single raw "url" (address s)
    ++ single raw "expected_title" (expectedTitle s)
    ++ single raw "expected_element" (expectedElement s)
    ++ named s raw "elements" (element s)
    ++ named s raw "values" (value s)
    ++ labels s raw "links" .link
    ++ labels s raw "buttons" .button

@[simp] theorem steps_nil (s : Scene) : steps s [] = [] := rfl

end PageObjects.Catalog.Entry
