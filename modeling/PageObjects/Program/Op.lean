import PageObjects.Scene.Display

/-!
# Primitive operations

Programs touch the world by primitive operations only.  An operation answers
and leaves a new world; it cannot fail by itself, but may answer with a fault.

Main definitions:

- `World`: a scene and a journal.
- `Op`: the primitive operations.
- `Op.run`: the answer of an operation, and the world after it.
-/

namespace PageObjects

/-- A scene and a journal. -/
structure World where
  scene : Scene := {}
  journal : Log.Journal := {}

/-- The notices that a declaration gave, and the fault that ended it. -/
abbrev Outcome := List Log.Entry × Option Fault

/-- The primitive operations. -/
inductive Op : Type → Type 1 where
  | view {β : Type} (f : Scene → β) : Op β
  | useElement (name : String) (u : ElementUse) : Op (Except Raised Value)
  | readTitle (driver : String) : Op (Except Raised Value)
  | search (driver : String) (strategy target : Value) : Op (Except Raised Value)
  | visit (driver : String) (address : Value) : Op (Except Raised Value)
  | sleep (seconds : Value) : Op (Except Raised Value)
  | note (e : Event) : Op Unit
  | count (key : String) : Op Nat
  | adjust (target : Value) (field : String) (v : Value) : Op Unit
  | assign (name : String) (v : Value) : Op Unit
  | makeCell (c : Cell) : Op Nat
  | putCell (i : Nat) (c : Cell) : Op Unit
  | setCells (cells : Cells) : Op Unit
  | addDefinition (name : Label) : Op Nat
  | derive (parent : Nat) (name : Label) : Op Nat
  | declare (definition : Nat) (facts : TypeFacts) (d : Declaration) : Op Outcome
  | enter (definition : Nat) (e : Definition.Entry) : Op Outcome
  | lock (definition : Nat) : Op Unit
  | writeTable (definition : Nat) (name value : Value) : Op Unit
  | addPageType (t : PageType) : Op Unit
  | addRecordType (t : RecordType) : Op ClassRef
  | addInstance (i : Instance) : Op Nat
  | setField (id : Nat) (field : String) (v : Value) : Op Unit
  | setFields (id : Nat) (fields : List (String × Value)) : Op Unit
  | addCatalog (c : Catalog) : Op Nat
  | register (catalog : Nat) (key value : Value) : Op Unit
  | addFunction (body : Expr) : Op Nat
  | setPolicy (p : Log.Policy) : Op Log.Policy
  | openConsole (verbose : Bool) : Op Unit
  | openLogFile (place : List String) : Op Unit
  | consoleText : Op String
  | fileText (place : List String) : Op String

namespace World

/-- A world with another scene, beside an answer. -/
def withScene {β : Type} (w : World) (r : β × Scene) : β × World := (r.1, { w with scene := r.2 })

/-- A world with another scene. -/
def setScene (w : World) (s : Scene) : Unit × World := ((), { w with scene := s })

/-- A world with another journal. -/
def setJournal (w : World) (j : Log.Journal) : Unit × World := ((), { w with journal := j })

/-- The outcome of a declaration on a definition, and the world after it. -/
def change (w : World) (definition : Nat) (f : Definition → Declared) : Outcome × World :=
  match w.scene.definitions[definition]? with
  | none => (([], some .unset), w)
  | some d =>
    let r := f d
    ((r.notices, r.fault), { w with scene := w.scene.setDefinition definition r.definition })

/-- A world with a definition changed, if it is there. -/
def update (w : World) (definition : Nat) (f : Definition → Definition) : Unit × World :=
  match w.scene.definitions[definition]? with
  | some d => w.setScene (w.scene.setDefinition definition (f d))
  | none => ((), w)

/-- Log a record. -/
def keep (w : World) (r : Log.Record) : World := { w with journal := w.journal.write r }

/-- Set up a file of the log, which starts out empty. -/
def openLogFile (w : World) (place : List String) : World :=
  { scene := { w.scene with files := w.scene.files.create place }, journal := w.journal.addFile place }

end World

/-- The answer of an operation, and the world after it. -/
def Op.run {β : Type} (op : Op β) (w : World) : β × World :=
  match op with
  | .view f => (f w.scene, w)
  | .useElement name u => w.withScene (w.scene.useElement name u)
  | .readTitle driver => w.withScene (w.scene.readTitle driver)
  | .search driver strategy target =>
    w.withScene (w.scene.search (w.scene.missing strategy target) driver strategy target)
  | .visit driver address => w.withScene (w.scene.visit driver address)
  | .sleep seconds => w.withScene (w.scene.sleep seconds)
  | .note e => w.setScene (w.scene.note e)
  | .count key => w.withScene (w.scene.count key)
  | .adjust target field v => w.setScene (w.scene.adjust target field v)
  | .assign name v => w.setScene { w.scene with held := Assoc.put name v w.scene.held }
  | .makeCell c => w.withScene (w.scene.makeCell c)
  | .putCell i c => w.setScene (w.scene.putCell i c)
  | .setCells cells => w.setScene { w.scene with cells }
  | .addDefinition name => w.withScene (w.scene.addDefinition { pageName := name })
  | .derive parent name =>
    let origin := (w.scene.definitions[parent]?).getD { pageName := name }
    w.withScene (w.scene.addDefinition (origin.derive name))
  | .declare definition facts d => w.change definition fun x => x.declare facts d
  | .enter definition e => w.change definition fun x => x.declareEntry e
  | .lock definition => w.update definition fun d => d.lock
  | .writeTable definition name value => w.update definition fun d => d.write name value
  | .addPageType t => w.setScene (w.scene.addPageType t)
  | .addRecordType t => w.withScene (w.scene.addRecordType t)
  | .addInstance i => w.withScene (w.scene.addInstance i)
  | .setField id field v => w.setScene (w.scene.setField id field v)
  | .setFields id fields => w.setScene (w.scene.setFields id fields)
  | .addCatalog c => w.withScene (w.scene.addCatalog c)
  | .register catalog key value => w.setScene (w.scene.register catalog key value)
  | .addFunction body => w.withScene (w.scene.addFunction body)
  | .setPolicy p => (w.journal.policy, { w with journal := { w.journal with policy := p } })
  | .openConsole verbose => w.setJournal (w.journal.setConsole verbose)
  | .openLogFile place => ((), w.openLogFile place)
  | .consoleText => (w.journal.console, w)
  | .fileText place => (w.journal.fileText place, w)

end PageObjects
