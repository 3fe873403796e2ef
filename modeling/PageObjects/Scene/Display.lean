import PageObjects.Scene.Basic

/-!
# Texts of all values

Values that refer to other things are shown by what these consist of.  What is
being shown already is not shown once more inside of itself, and what is nested
too deeply cannot be shown.  Types may say themselves how the things of the type
are shown; how that is found out is left open, so that the same texts can be read
off a scene at once, or made by a program that calls what the types define.

Main definitions:

- `Showing`: a way to look at a scene and to ask a type.
- `Showing.inspect`: the text that shows the kind of a value.
- `Showing.text`: the text that a value is turned into.
- `Showing.formatted`: the text that is put into messages and lines of the log.
- `Scene.inspect`, `Scene.text`: the texts read off a scene at once.
-/

namespace PageObjects

universe u

/-- A way to look at a scene, to ask a type for the text of a thing by one of its members, and to
fail. -/
structure Showing (m : Type → Type u) where
  look : {β : Type} → (Scene → β) → m β
  ask : Value → String → List Value → m (Option String)
  fail : {α : Type} → Fault → m α

/-- The member that shows the kind of a thing. -/
def inspectMember : String := "__repr__"

/-- The member that gives the text of a thing. -/
def textMember : String := "__str__"

/-- The member that gives the text of a thing in a message. -/
def formatMember : String := "__format__"

/-- The module that a value names, unless it is the one that is left out. -/
def Value.home? (v : Value) : Option String :=
  match v with
  | .text s => if s == "builtins" then Option.none else some s
  | _ => Option.none

/-- The full name of a member of something, as far as it is a member of the library. -/
def Value.memberName (owner : Value) (name : String) : String :=
  match owner with
  | .page .. | .pageType _ => PageType.rootName ++ "." ++ name
  | .control _ kind => (if name == "fit" || name == "assert_writable" then kind.typeName else "Control") ++ "." ++ name
  | .object .. | .recordType _ =>
    (if ["set_options", "requires"].contains name then "DataFactory"
      else if ["on", "visit", "make"].contains name then "Foundry" else "DataObject") ++ "." ++ name
  | v => v.typeName ++ "." ++ name

namespace Scene

/-- A page type as it is shown. -/
def inspectPageType (s : Scene) (cls : ClassRef) : String :=
  Value.inspectType (s.fullName cls) (((s.ownMembers cls).lookup "__module__").bind Value.home?)

/-- A record type as it is shown. -/
def inspectRecordType (s : Scene) (cls : ClassRef) : String :=
  Value.inspectType cls.name ((s.recordMember? cls "__module__").bind Value.home?)

end Scene

namespace Showing

variable {m : Type → Type u} [Monad m]

/-- Items between brackets. -/
def listed (opening closing : String) (inner : Value → m String) (items : List Value) : m String := do
  let shown ← items.mapM inner
  pure (Value.bracketed opening closing shown)

/-- An entry of a mapping. -/
def entry (inner : Value → m String) (e : Value × Value) : m String := do
  let key ← inner e.1
  let value ← inner e.2
  pure (key ++ ": " ++ value)

/-- The entries of a mapping between braces. -/
def mapping (inner : Value → m String) (entries : Value.Entries) : m String := do
  let shown ← entries.mapM (entry inner)
  pure (Value.bracketed "\x7b" "\x7d" shown)

/-- Named parts between parentheses. -/
def record (type : String) (inner : Value → m String) (parts : List (String × Value)) : m String := do
  let shown ← parts.mapM fun p => do
    let text ← inner p.2
    pure (p.1 ++ "=" ++ text)
  pure (Value.bracketed (type ++ "(") ")" shown)

/-- A thing with what it wraps. -/
def wrapping (type field : String) (inner : Value → m String) (wrapped : Option Value) : m String := do
  let shown ← inner (wrapped.getD .none)
  pure ("<" ++ type ++ " " ++ field ++ "=" ++ shown ++ ">")

/-- The parts of a binding. -/
def bindingParts (name : Value) (kind : BindingKind) (payload : Value) : List (String × Value) :=
  [("name", name), (match kind with
    | .element => "locator"
    | .action => "body", payload), ("kind", .bindingKind kind)]

/-- The value of an expectation of an element. -/
def expectationValue : Option ElementExpectation → Value
  | some e => .expectation e.name e.timeout
  | none => .none

/-- The parts of a definition that are shown. -/
def definitionParts (d : Definition) : List (String × Value) :=
  [("page_name", d.pageName.value), ("url", d.address),
   ("expected_element", expectationValue d.expectedElement),
   ("expected_title", (d.expectedTitle.map (·.toValue)).getD .none)]

/-- How a value is shown inside of itself, if that can be. -/
def shownAgain? : Value → Option String
  | .list _ => some "[...]"
  | .map _ | .mapping _ => some "\x7b...\x7d"
  | .definition _ => some "..."
  | _ => Option.none

/-- How a value is shown that is being shown already, as `path` says. -/
def loopText? (path : List Key) (v : Value) : Option String :=
  if path.contains v.identity then shownAgain? v else Option.none

/-- The text that shows the kind of a value; `path` holds what is being shown already. -/
def inspectAt (r : Showing m) : (depth : Nat) → (path : List Key) → Value → m String
  | 0, _, _ => r.fail .tooDeep
  | depth + 1, path, v =>
    let inner := inspectAt r depth (v.identity :: path)
    match loopText? path v with
    | some text => pure text
    | none =>
    match v with
    | .int n => if Decimal.tooLongToShow n then r.fail .tooLongToShow else pure (toString n)
    | .list i => do listed "[" "]" inner (← r.look fun s => s.cells.listAt i)
    | .tuple [v] => do pure ("(" ++ (← inner v) ++ ",)")
    | .tuple items => listed "(" ")" inner items
    | .set i => do
      match ← r.look fun s => s.cells.setAt i with
      | [] => pure "set()"
      | items => listed "\x7b" "\x7d" inner items
    | .series type items => listed (type ++ "([") "])" inner items
    | .map i => do mapping inner (← r.look fun s => s.cells.mapAt i)
    | .mapping (.bindings d) => do
      pure ("mappingproxy(" ++ (← mapping inner (← r.look fun s => s.entriesAt (.table d))) ++ ")")
    | .mapping place => do mapping inner (← r.look fun s => s.entriesAt place)
    | .expectation name timeout => record v.typeName inner [("name", name), ("timeout", timeout)]
    | .binding name kind payload => record v.typeName inner (bindingParts name kind payload)
    | .definition id => do
      match ← r.look fun s => s.definitions[id]? with
      | some d => record v.typeName inner (definitionParts d)
      | none => r.fail .unset
    | .control id kind => do
      wrapping kind.typeName "element" inner (← r.look fun s => s.field? id "element")
    | .page id cls => do
      match ← r.ask v inspectMember [] with
      | some text => pure text
      | none =>
        wrapping (← r.look fun s => s.fullName cls) PageType.reservedField inner
          (← r.look fun s => s.field? id PageType.reservedField)
    | .object .. => do
      match ← r.ask v inspectMember [] with
      | some text => pure text
      | none => pure v.inspectPlain
    | .pageType cls => r.look fun s => s.inspectPageType cls
    | .recordType cls => r.look fun s => s.inspectRecordType cls
    | .member owner name => do
      pure ("<bound method " ++ owner.memberName name ++ " of " ++ (← inner owner) ++ ">")
    | .held f owner => do
      pure ("<bound method " ++ (f.callableName?.getD "") ++ " of " ++ (← inner owner) ++ ">")
    | v => pure v.inspectPlain

/-- The text that shows the kind of a value. -/
def inspect (r : Showing m) (v : Value) : m String := inspectAt r Cells.depthLimit [] v

/-- The text that a value is turned into, as it is typed into fields. -/
def text (r : Showing m) (v : Value) : m String :=
  match v.plainText? with
  | some t => pure t
  | none =>
    match v with
    | .page .. | .object .. => do
      match ← r.ask v textMember [] with
      | some t => pure t
      | none => r.inspect v
    | v => r.inspect v

/-- The text that is put into messages and lines of the log; types may have it differ from the text
that a thing is turned into. -/
def formatted (r : Showing m) (v : Value) : m String :=
  match v with
  | .page .. | .object .. => do
    match ← r.ask v formatMember [.text ""] with
    | some t => pure t
    | none => r.text v
  | v => r.text v

end Showing

namespace Scene

/-- The text that a type always gives under a member, if that can be read off the type. -/
def fixedText? (s : Scene) (v : Value) (name : String) : Option String :=
  match s.typeMember? v name with
  | some (.method _ body) =>
    match s.functions[body]? with
    | some (.request (.const (.text t))) => some t
    | _ => none
  | _ => none

/-- To look at a scene as it is. -/
def showing (s : Scene) : Showing (Except Fault) where
  look f := .ok (f s)
  ask v name _ := .ok (s.fixedText? v name)
  fail fault := .error fault

/-- The text that shows the kind of a value, read off a scene. -/
def inspect (s : Scene) (v : Value) : Except Fault String := s.showing.inspect v

/-- The text that a value is turned into, read off a scene. -/
def text (s : Scene) (v : Value) : Except Fault String := s.showing.text v

/-- The fault of a search that finds nothing, or of the text that is to say so. -/
def missing (s : Scene) (strategy target : Value) : Fault :=
  match s.text strategy, s.text target with
  | .error fault, _ | .ok _, .error fault => fault
  | .ok strategy, .ok target => .noElement strategy target

@[simp] theorem text_text (s : Scene) (t : String) : s.text (.text t) = .ok t := rfl

end Scene

end PageObjects
