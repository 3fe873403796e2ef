import PageObjects.Program.Run
import PageObjects.Script.Answer
import PageObjects.Script.Eval

/-!
# Running scripts

What it means to call a value, and the run of a script step by step.  A step
that fails does not end the script, and what it did before it failed stays.

Main definitions:

- `Prog.enter`: the program of a call.
- `callAt`: the run of a call, with a bound on the depth of calls.
- `Step`, `Finding`, `Answer`, `StepReport`: a step of a script, what it comes to, and
  what is reported of it.
- `runScript`: the reports of all steps.
-/

namespace PageObjects

namespace Prog

/-! ## Calls -/

/-- The body of a function. -/
def bodyOf (id : Nat) : Prog Expr := do
  ofOption .unset (← view fun s => s.functions[id]?)

/-- The program of a method: the first argument is the page. -/
def enterMethod (body : Nat) (args : List Value) : Prog Value :=
  match args with
  | [] => raise .wrongType
  | page :: args => do eval { page, args } (← bodyOf body)

/-- The program of a function: the last argument is the page. -/
def enterFunction (body : Nat) (args : List Value) : Prog Value := do
  eval (Frame.ofArguments args) (← bodyOf body)

/-- The program of a bound accessor or action. -/
def enterBound (kind : BindingKind) (payload page : Value) (args : List Value) : Prog Value :=
  match kind with
  | .element => if args.isEmpty then callValue payload [page] [] else raise .wrongType
  | .action => callValue payload (args ++ [page]) []

/-- The answers for named values. -/
def answerNamed (named : Named) : Prog (List (String × Json)) :=
  named.mapM fun e => do
    let j ← answerOf e.2
    pure (e.1, j)

/-- The program of a method of a driver, which is noted first. -/
def enterDriver (driver name : String) (args : List Value) (named : Named) : Prog Value := do
  let body ← view fun s => (s.drivers.lookup driver).bind fun d => d.methods.lookup name
  match body with
  | none => callOwned (.driver driver) name args named
  | some e => do
    let given ← args.mapM answerOf
    let givenNamed ← answerNamed named
    op (.note (.call driver name given givenNamed))
    eval { args } e

/-- What a generated accessor does: search, and use what was found. -/
def enterLocator (strategy target : String) (args : List Value) (named : Named)
    (use : Value → Prog Value) : Prog Value := do
  let page ← single "b" args named
  use (← findElement page (.text strategy) (.text target))

/-- The program of a type that is not made by scripts. -/
def enterSystemType (name : String) (args : List Value) (named : Named) : Prog Value :=
  match ControlKind.ofTypeName? name, name with
  | some kind, _ => do makeControl kind (← single "element" args named)
  | none, "type" => do attributeOf "__class__" (← single "" args named)
  | none, "str" => do pure (.text (← shown (← single "object" args named)))
  | none, "bool" => do pure (.bool (← truth (← single "" args named)))
  | none, _ => raise .wrongType

/-- The program of what takes positional arguments only. -/
def positionally (named : Named) (p : Prog Value) : Prog Value :=
  if named.isEmpty then p else raise .wrongType

/-- The program of what a page or a record defines as its call. -/
def enterThing (v : Value) (args : List Value) (named : Named) : Prog Value := do
  match ← view fun s => s.typeMember? v "__call__" with
  | some f => callValue (f.boundTo v) args named
  | none => raise .wrongType

/-- The program of a call. -/
def enter (f : Value) (args : List Value) (named : Named) : Prog Value :=
  match directOp? f args named with
  | some o => performing o
  | none =>
    match f with
    | .function body => positionally named (enterFunction body args)
    | .method _ body => positionally named (enterMethod body args)
    | .bound _ kind payload page => positionally named (enterBound kind payload page args)
    | .hook cls => positionally named (runHook cls args)
    | .held f owner => callValue f (owner :: args) named
    | .locator _ strategy target finish => enterLocator strategy target args named (useFound finish)
    | .attributeLocator strategy target property =>
      enterLocator strategy target args named fun found => callMember found "get_attribute" [property]
    | .decorator cls kind name => do
      let f ← single "fn" args named
      let _ ← declareBy cls (Value.bindingWord kind) name f
      pure f
    | .pageType cls => construct cls args named
    | .recordType cls => newRecord cls args named
    | .systemType name => enterSystemType name args named
    | .member (.driver driver) name => enterDriver driver name args named
    | .member owner name => callOwned owner name args named
    | v => enterThing v args named

end Prog

/-- The run of a call, with a bound on the depth of calls. -/
def callAt (rounds : Nat) : (depth : Nat) → Caller
  | 0, _, _, _, w => (.error { fault := .tooDeep }, w)
  | depth + 1, f, args, named, w => (Prog.enter f args named).run (callAt rounds depth) rounds w

/-- The bound on the depth of calls. -/
def usualDepth : Nat := 300

/-- The bound on the number of checks of one wait. -/
def usualRounds : Nat := 1000000

/-- The run of a program with the usual bounds. -/
def Prog.runUsual {α : Type} (p : Prog α) (w : World) : Result α :=
  p.run (callAt usualRounds usualDepth) usualRounds w

/-! ## Scripts -/

/-- A step of a script. -/
structure Step where
  expr : Expr
  keep : Option String := none
  page : Option String := none

/-- What a step comes to: a value; for the definition of a page type, its
definition and the faults of guarded declarations; for the setting up of
logging, the outlets. -/
inductive Finding where
  | value (v : Value)
  | defined (definition : Nat) (caught : List Raised)
  | outlets (os : List Log.Outlet)

/-- What a step answers with: what scripts get to see of what it comes to. -/
inductive Answer where
  | value (j : Json)
  | defined (parts : List (String × Json)) (caught : List Raised)
  | outlets (os : List Log.Outlet)

namespace Finding

/-- The value that is kept in a variable. -/
def toValue : Finding → Value
  | .value v => v
  | .defined d _ => .definition d
  | .outlets _ => .none

/-- The answer for what a step comes to. -/
def answer : Finding → Prog Answer
  | .value v => do pure (.value (← Prog.answerOf v))
  | .defined d caught => do pure (.defined (← Prog.summaryOf d) caught)
  | .outlets os => .done (.outlets os)

end Finding

namespace Prog

/-- What an expression comes to. -/
def evalStep (frame : Frame) : Expr → Prog Finding
  | .define name bases members hook clauses => do
    let (cls, caught) ← definePage name bases (evalMembers frame members) hook clauses
      fun cls => runClauses frame cls clauses
    pure (.defined (← definitionNumber cls) caught)
  | .request (.setUpLogging verbose file) => do
    let outlets ← setUpLogging verbose file
    pure (.outlets outlets)
  | e => do
    let v ← eval frame e
    pure (.value v)

/-- The page that a step is evaluated with. -/
def pageOf (step : Step) : Prog Value :=
  match step.page with
  | some name => readVariable name
  | none => .done .none

/-- Keep a value in a variable, if it is to be kept. -/
def keepIn (name : Option String) (v : Value) : Prog Unit :=
  match name with
  | some name => op (.assign name v)
  | none => .done ()

/-- The program of a step. -/
def ofStep (step : Step) : Prog Answer := do
  let page ← pageOf step
  let found ← evalStep { page } step.expr
  keepIn step.keep found.toValue
  found.answer

end Prog

/-- What is reported of a step. -/
structure StepReport where
  answer : Except Raised Answer
  events : List Event
  records : List Log.Record
  scene : Scene

/-- The run of a step.  Events and records are reported once. -/
def runStep (step : Step) (w : World) : StepReport × World :=
  let fresh : World :=
    { scene := { w.scene with events := [] }, journal := { w.journal with records := [] } }
  let (answer, w) := (Prog.ofStep step).runUsual fresh
  ({ answer, events := w.scene.events.reverse, records := w.journal.records.reverse, scene := w.scene }, w)

/-- The reports of all steps, each as `present` shows it. -/
def runScript {α : Type} (present : StepReport → α) : List Step → World → List α
  | [], _ => []
  | step :: rest, w =>
    let (report, w) := runStep step w
    present report :: runScript present rest w

/-- What a script starts with. -/
structure Setting where
  settings : Settings := {}
  files : FileTree := {}
  elements : List (String × Element) := []
  drivers : List (String × Driver) := []
  cells : Cells := firstCells

namespace Setting

/-- The variables that a script starts with. -/
def held (s : Setting) : List (String × Value) :=
  let elements := s.elements.map fun e => (e.1, Value.element e.1)
  let drivers := s.drivers.map fun d => (d.1, Value.driver d.1)
  Assoc.merge (Assoc.merge elements drivers) [(PageType.rootName, .pageType rootType)]

/-- The world that a script starts in. -/
def world (s : Setting) : World :=
  { scene := { settings := s.settings, files := s.files, elements := s.elements,
               drivers := s.drivers, cells := s.cells, held := s.held } }

end Setting

end PageObjects
