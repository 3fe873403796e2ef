import PageObjects.Definition.Declaration
import PageObjects.PageType.Linearization
import PageObjects.PageType.Names
import PageObjects.Path
import PageObjects.Scene.Driver
import PageObjects.Settings

/-!
# The scene

All that a run can see and change, apart from the journal: settings and files,
collections, elements and drivers, the clock, and what has been made so far.
Definitions, types, instances and catalogs are numbered in the order in which
they were made.

Main definitions:

- `Hook`, `PageType`, `RecordType`, `Instance`, `Catalog`: what can be made.
- `Scene`: all of it.
- `Scene.entries?`, `Scene.members?`, `Scene.truthy`: what values consist of.
- `Scene.useElement`, `Scene.search`, `Scene.sleep`: what is done with elements,
  drivers and the clock, each of which leaves an event.
-/

namespace PageObjects

/-- How a type declares once it has been made: by clauses, for the type itself
or for what the hook is given; by the entry of a catalog; or not at all. -/
inductive Hook where
  | onType (cs : List (Bool × Clause))
  | plain (cs : List (Bool × Clause))
  | detached
  | entry (raw : Value)

/-- A type of pages.  Its lineage starts with the type itself.  A type without
a definition of its own goes by the one of the next type of its lineage. -/
structure PageType where
  name : String
  fullName : String
  bases : List ClassRef := []
  lineage : List ClassRef := []
  members : List (String × Value) := []
  hook : Option Hook := none
  definition : Option Nat := none

/-- A type of records. -/
structure RecordType where
  name : String
  plain : Bool
  members : List (String × Value) := []

/-- What a page, a control, a record or a session keeps. -/
structure Instance where
  fields : List (String × Value) := []

/-- A catalog of page types. -/
structure Catalog where
  announces : Bool := false
  pages : Value.Entries := []

/-- The reference to the root of all page types. -/
def rootType : ClassRef := ⟨0, PageType.rootName⟩

/-- The collections that there are from the beginning: the notes on the members
of the root of all page types, the options that records start with, and the
notes on the members of all other types. -/
def firstCells : Cells := ⟨#[.map [(.text "_definition", .text "PageDefinition")], .map [], .map []]⟩

/-- The members that the root of all page types keeps as values. -/
def rootValues : List (String × Value) :=
  [("__module__", .text "page_factory.page_factory"), ("__doc__", .none), ("__annotations__", .map 0)]

/-- All that a run can see and change, apart from the journal.  Of the events the
latest comes first. -/
structure Scene where
  settings : Settings := {}
  files : FileTree := {}
  cells : Cells := firstCells
  elements : List (String × Element) := []
  drivers : List (String × Driver) := []
  held : List (String × Value) := []
  counters : List (String × Nat) := []
  clock : Float := 0
  events : List Event := []
  functions : List Expr := []
  definitions : List Definition := [{ pageName := .ofText PageType.rootName, locked := true }]
  pageTypes : List PageType :=
    [{ name := PageType.rootName, fullName := PageType.rootName, lineage := [rootType],
       members := rootValues, definition := some 0 }]
  recordTypes : List RecordType := []
  instances : List Instance := []
  catalogs : List Catalog := []

namespace Scene

/-! ## Types -/

/-- A page type by its reference. -/
def pageType? (s : Scene) (cls : ClassRef) : Option PageType := s.pageTypes[cls.id]?

/-- The lineage of a page type. -/
def lineage (s : Scene) (cls : ClassRef) : List ClassRef := ((s.pageType? cls).map (·.lineage)).getD []

/-- The full name of a page type, as messages show it. -/
def fullName (s : Scene) (cls : ClassRef) : String := ((s.pageType? cls).map (·.fullName)).getD cls.name

/-- The number of the definition of a page type: its own, or the nearest of its lineage. -/
def definitionOf? (s : Scene) (cls : ClassRef) : Option Nat :=
  (s.lineage cls).findSome? fun c => (s.pageType? c).bind (·.definition)

/-- The definition of a page type. -/
def definition? (s : Scene) (cls : ClassRef) : Option Definition :=
  (s.definitionOf? cls).bind fun i => s.definitions[i]?

/-- The attributes that a page type defines itself. -/
def ownMembers (s : Scene) (cls : ClassRef) : List (String × Value) :=
  ((s.pageType? cls).map (·.members)).getD []

/-- An attribute that a page type or one of its bases defines. -/
def member? (s : Scene) (cls : ClassRef) (name : String) : Option Value :=
  (s.lineage cls).findSome? fun c => (s.ownMembers c).lookup name

/-- Whether a page type or one of its bases takes one of some members over. -/
def overrides (s : Scene) (cls : ClassRef) (names : List String) : Bool :=
  names.any fun n => (s.member? cls n).isSome

/-- The member that a base of a page type sets new types up with. -/
def inherited? (s : Scene) (lineage : List ClassRef) (name : String) : Option Value :=
  lineage.tail.findSome? fun c => (s.ownMembers c).lookup name

/-- The hook that a page type has itself. -/
def hook? (s : Scene) (cls : ClassRef) : Option Hook := (s.pageType? cls).bind (·.hook)

/-- Whether a page type has an attribute. -/
def hasAttribute (s : Scene) (cls : ClassRef) (name : String) : Bool :=
  (s.member? cls name).isSome || PageType.isRootName name || PageType.typeOnlyNames.contains name

/-- Whether an attribute would hide a binding of a page type. -/
def hides (s : Scene) (cls : ClassRef) (name : String) : Bool :=
  name == PageType.reservedField || s.hasAttribute cls name

/-- What a declaration has to know about a page type. -/
def facts (s : Scene) (cls : ClassRef) : TypeFacts := { name := s.fullName cls, hides := s.hides cls }

/-- A record type by its reference. -/
def recordType? (s : Scene) (cls : ClassRef) : Option RecordType := s.recordTypes[cls.id]?

/-- An attribute that a record type defines itself. -/
def recordMember? (s : Scene) (cls : ClassRef) (name : String) : Option Value :=
  (s.recordType? cls).bind fun t => t.members.lookup name

/-- The fields of an instance. -/
def fieldsOf (s : Scene) (id : Nat) : List (String × Value) := ((s.instances[id]?).map (·.fields)).getD []

/-- A field of an instance. -/
def field? (s : Scene) (id : Nat) (name : String) : Option Value := (s.fieldsOf id).lookup name

/-- What a page shows, or is called, by: the attribute of its type, or of the type of a record. -/
def typeMember? (s : Scene) (v : Value) (name : String) : Option Value :=
  match v with
  | .page _ cls => s.member? cls name
  | .object _ (some cls) => s.recordMember? cls name
  | _ => none

/-! ## What values consist of -/

/-- The entries of a mapping that something keeps of its own. -/
def entriesAt (s : Scene) : Place → Value.Entries
  | .fields i => Value.named (s.fieldsOf i)
  | .table d | .bindings d => ((s.definitions[d]?).map (·.entries)).getD []
  | .pages c => ((s.catalogs[c]?).map (·.pages)).getD []

/-- The entries of a mapping. -/
def entries? (s : Scene) : Value → Option Value.Entries
  | .map i => some (s.cells.mapAt i)
  | .mapping place => some (s.entriesAt place)
  | _ => none

/-- What a value gives one by one. -/
def members? (s : Scene) (v : Value) : Option (List Value) :=
  match v with
  | .bytes bs => some (bs.map fun b => .int b.toNat)
  | v =>
    match v.word? with
    | some t => some (t.toList.map fun c => .text c.toString)
    | none => ((s.entries? v).map fun es => es.map (·.1)).or (s.cells.items? v)

/-- Whether a value can be called. -/
def callable (s : Scene) (v : Value) : Bool :=
  match v with
  | .pageType _ | .recordType _ | .systemType _ => true
  | v => v.callableName?.isSome || (s.typeMember? v "__call__").isSome

/-- Whether a value counts as true, as far as its type does not decide that itself. -/
def truthy (s : Scene) : Value → Bool
  | .mapping place => !(s.entriesAt place).isEmpty
  | v => s.cells.truthy v

@[simp] theorem truthy_bool (s : Scene) (b : Bool) : s.truthy (.bool b) = b := rfl

/-! ## Elements, drivers and the clock -/

/-- Leave an event. -/
def note (s : Scene) (e : Event) : Scene := { s with events := e :: s.events }

/-- Use an element. -/
def useElement (s : Scene) (name : String) (u : ElementUse) : Except Raised Value × Scene :=
  match s.elements.lookup name with
  | none => (.error { fault := .unset }, s)
  | some e =>
    let (answer, e) := e.use s.cells u
    (answer, { s.note (.element name u) with elements := Assoc.put name e s.elements })

/-- Read the title of a driver. -/
def readTitle (s : Scene) (driver : String) : Except Raised Value × Scene :=
  match s.drivers.lookup driver with
  | none => (.error { fault := .unset }, s)
  | some d => (.ok d.title, s.note (.title driver))

/-- What a variable holds. -/
def readVariable (s : Scene) (name : String) : Except Raised Value :=
  match s.held.lookup name with
  | some v => .ok v
  | none => .error { fault := .unset }

/-- What the variable that a value names holds. -/
def readNamed (s : Scene) (name : Value) : Except Raised Value :=
  match name.text? with
  | some n => s.readVariable n
  | none => .error { fault := .unset }

/-- Search with a driver; `missing` is the fault that nothing is found. -/
def search (missing : Fault) (s : Scene) (driver : String) (strategy target : Value) :
    Except Raised Value × Scene :=
  match s.drivers.lookup driver with
  | none => (.error { fault := .unset }, s)
  | some d =>
    let (answer, d) := d.search s.cells missing strategy target
    let s := { s.note (.find driver strategy target) with drivers := Assoc.put driver d s.drivers }
    match answer with
    | .ok name => (s.readNamed name, s)
    | .error r => (.error r, s)

/-- The seconds that a value stands for. -/
def seconds? (v : Value) : Except Fault Float :=
  if v.word?.isSome then .error .wrongType
  else
    match v with
    | .bytes _ => .error .wrongType
    | v => v.toFloat

/-- Let time pass. -/
def sleep (s : Scene) (seconds : Value) : Except Raised Value × Scene :=
  let s := s.note (.sleep seconds)
  match seconds? seconds with
  | .ok x => (.ok .none, { s with clock := s.clock + x })
  | .error fault => (.error { fault }, s)

/-- Let a driver go to an address. -/
def visit (s : Scene) (driver : String) (address : Value) : Except Raised Value × Scene :=
  match s.drivers.lookup driver with
  | none => (.error { fault := .unset }, s)
  | some d =>
    let s := s.note (.visit driver address)
    let (waited, s) := if s.truthy d.loading then s.sleep d.loading else (.ok .none, s)
    match waited, Raised.ofValue? s.cells d.loadFault with
    | .error r, _ => (.error r, s)
    | .ok _, some r => (.error r, s)
    | .ok _, none =>
      (.ok .none, { s with
        drivers := Assoc.put driver (d.setAttribute "current_url" address) s.drivers })

/-- Count a call. -/
def count (s : Scene) (key : String) : Nat × Scene :=
  let n := (s.counters.lookup key).getD 0 + 1
  (n, { s with counters := Assoc.put key n s.counters })

/-! ## What has been made -/

/-- Make a collection. -/
def makeCell (s : Scene) (c : Cell) : Nat × Scene :=
  let (i, cells) := s.cells.make c
  (i, { s with cells })

/-- Change a collection. -/
def putCell (s : Scene) (i : Nat) (c : Cell) : Scene := { s with cells := s.cells.put i c }

/-- Make a definition. -/
def addDefinition (s : Scene) (d : Definition) : Nat × Scene :=
  (s.definitions.length, { s with definitions := s.definitions ++ [d] })

/-- Put a definition in the place of a number. -/
def setDefinition (s : Scene) (id : Nat) (d : Definition) : Scene :=
  { s with definitions := s.definitions.set id d }

/-- Make a page type. -/
def addPageType (s : Scene) (t : PageType) : Scene := { s with pageTypes := s.pageTypes ++ [t] }

/-- Make a record type. -/
def addRecordType (s : Scene) (t : RecordType) : ClassRef × Scene :=
  (⟨s.recordTypes.length, t.name⟩, { s with recordTypes := s.recordTypes ++ [t] })

/-- Make an instance. -/
def addInstance (s : Scene) (i : Instance) : Nat × Scene :=
  (s.instances.length, { s with instances := s.instances ++ [i] })

/-- Give an instance other fields. -/
def setFields (s : Scene) (id : Nat) (fields : List (String × Value)) : Scene :=
  { s with instances := s.instances.set id { fields } }

/-- Set a field of an instance. -/
def setField (s : Scene) (id : Nat) (field : String) (v : Value) : Scene :=
  s.setFields id (Assoc.put field v (s.fieldsOf id))

/-- Change an element, a driver or an instance from outside. -/
def adjust (s : Scene) (target : Value) (field : String) (v : Value) : Scene :=
  match target with
  | .element name =>
    match s.elements.lookup name with
    | some e => { s with elements := Assoc.put name (e.setField field v) s.elements }
    | none => s
  | .driver name =>
    match s.drivers.lookup name with
    | some d => { s with drivers := Assoc.put name (d.setField s.cells field v) s.drivers }
    | none => s
  | .page id _ | .control id _ | .object id _ => s.setField id field v
  | _ => s

/-- Make a catalog. -/
def addCatalog (s : Scene) (c : Catalog) : Nat × Scene :=
  (s.catalogs.length, { s with catalogs := s.catalogs ++ [c] })

/-- Put a value under a key of a catalog. -/
def register (s : Scene) (catalog : Nat) (key value : Value) : Scene :=
  match s.catalogs[catalog]? with
  | some c =>
    { s with catalogs := s.catalogs.set catalog { c with pages := Value.insertKey key value c.pages } }
  | none => s

/-- Keep the body of a function. -/
def addFunction (s : Scene) (body : Expr) : Nat × Scene :=
  (s.functions.length, { s with functions := s.functions ++ [body] })

/-! ## Small facts -/

@[simp] theorem note_definitions (s : Scene) (e : Event) : (s.note e).definitions = s.definitions := rfl

@[simp] theorem note_events (s : Scene) (e : Event) : (s.note e).events = e :: s.events := rfl

end Scene

end PageObjects
