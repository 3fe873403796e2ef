import PageObjects.Dispatch.Directory
import PageObjects.Script.Request

/-!
# Evaluating expressions

An expression stands for a program.  Parts are evaluated from left to right, a
name is looked up before the arguments of a call are evaluated, and functions
keep their bodies for later.

Main definitions:

- `Prog.eval`: the program of an expression.
- `Prog.runClauses`: the declarations of a page type; guarded ones may fail.
- `Prog.runHook`: the hook of a page type.
-/

namespace PageObjects.Prog

/-! ## Types -/

/-- The hook that a type keeps. -/
def keptHook (form : HookForm) (clauses : List (Bool × Clause)) : Hook :=
  match form with
  | .onType => .onType clauses
  | .plain => .plain clauses
  | .detached => .detached

/-- Define a page type and keep it in a variable. -/
def definePage (name : Value) (bases : List String) (members : Prog (List (String × Value)))
    (form : Option HookForm) (clauses : List (Bool × Clause)) (declare : ClassRef → Prog (List Raised)) :
    Prog (ClassRef × List Raised) := do
  let bases ← typesIn bases
  let members ← members
  let draft : Draft := { name, bases, members, hook := form.map fun f => keptHook f clauses }
  let (cls, caught) ← definePageType draft fun cls =>
    match form with
    | some .detached => do
      op (.note .declaration)
      pure []
    | _ => declare cls
  op (.assign cls.name (.pageType cls))
  pure (cls, caught)

/-- Keep the bodies of methods. -/
def methodMembers : List (String × Expr) → Prog (List (String × Value))
  | [] => .done []
  | (name, body) :: rest => do
    let id ← op (.addFunction body)
    let others ← methodMembers rest
    pure ((name, .method name id) :: others)

/-- Define a record type and keep it in a variable. -/
def defineRecord (name : Value) (defaults : Option Value) (fields : List (String × Value))
    (methods : List (String × Expr)) (plain : Bool) : Prog Value := do
  let name ← ofFault (typeName name)
  let methods ← methodMembers methods
  let defaults := match defaults with
    | some d => [("defaults", d)]
    | none => []
  let cls ← op (.addRecordType { name, plain, members := Assoc.merge (Assoc.merge defaults fields) methods })
  op (.assign name (.recordType cls))
  pure (.recordType cls)

/-! ## Declarations -/

/-- The function of a body that may be missing. -/
def bodyFunction (body : Option Expr) : Prog Value := do
  match body with
  | some e => do
    let id ← op (.addFunction e)
    pure (.function id)
  | none => pure .none

/-- State a binding whose body is an expression, at once or as a decorator. -/
def stateBinding (cls : ClassRef) (member : String) (name : Value) (body : Option Expr) (decorated : Bool) :
    Prog Value := do
  let f ← bodyFunction body
  statement cls (if decorated then .decorated member name f else .binding member name f)

/-- Run a declaration; a guarded one may fail, and its fault is the answer. -/
def guarding (guarded : Bool) (p : Prog Value) : Prog (Option Raised) := do
  if guarded then
    match ← outcome p with
    | .ok _ => pure none
    | .error r => pure (some r)
  else
    let _ ← p
    pure none

/-- The page type that something declares on. -/
def declaringType (v : Value) : Prog ClassRef :=
  match v with
  | .pageType cls | .page _ cls => .done cls
  | _ => raise .noSuchName

/-- The phase that a script asks for. -/
def phaseOf (label : Value) (category : Option Value) (context : List (String × Value)) (slow : Value) :
    Prog Phase := do
  let category ← match category with
    | none => pure .lifecycle
    | some c => categoryOf c
  pure (.stated (← labelled label) category context slow)

/-- The attribute that a value names. -/
def attributeNamed (name v : Value) : Prog Value := do
  attributeOf (← ofOption .wrongType name.word?) v

/-- Whether the values of two expressions are one thing.  A constant is made where it
is written, so it is no other thing unless there is only one such thing. -/
def oneThing : Expr → Expr → Value → Value → Bool
  | .request (.held m), .request (.held n), v, w => m == n || Value.identical v w
  | .request (.const _), _, v, w | _, .request (.const _), v, w => v.isUnique && Value.identical v w
  | _, _, v, w => Value.identical v w

/-! ## Expressions -/

mutual

/-- The program of an expression. -/
def eval (frame : Frame) : Expr → Prog Value
  | .request r => request frame r
  | .items es => do
    let vs ← evalAll frame es
    newList vs
  | .sequence es => evalLast frame es .none
  | .function body => do
    let id ← op (.addFunction body)
    pure (.function id)
  | .get name e => do
    let v ← eval frame e
    attributeNamed name v
  | .has name e => do
    let v ← eval frame e
    let n ← ofOption .wrongType name.word?
    let has ← hasAttribute v n
    pure (.bool has)
  | .call name e args named => do
    let v ← eval frame e
    let f ← attributeNamed name v
    let args ← evalAll frame args
    let named ← evalNamed frame named
    callValue f args named
  | .apply e args named => do
    let f ← eval frame e
    let args ← evalAll frame args
    let named ← evalNamed frame named
    callValue f args named
  | .inspect e => do
    let v ← eval frame e
    let text ← inspected v
    pure (.text text)
  | .directory e => do
    let v ← eval frame e
    let names ← directory v
    newList (names.map .text)
  | .wrap kind e => do
    let v ← eval frame e
    makeControl kind v
  | .editable e => do
    let v ← eval frame e
    editable v
  | .fit control value => do
    let c ← eval frame control
    let v ← eval frame value
    silently (fit c v)
  | .same a b => do
    let v ← eval frame a
    let w ← eval frame b
    pure (.bool (oneThing a b v w))
  | .item key target => do
    let v ← eval frame target
    itemOf v key
  | .contains key target => do
    let v ← eval frame target
    let has ← containsItem v key
    pure (.bool has)
  | .setItem target key value => do
    let v ← eval frame target
    let w ← eval frame value
    silently (setItem v key w)
  | .define name bases members form clauses => do
    let (cls, _) ← definePage name bases (evalMembers frame members) form clauses
      fun cls => runClauses frame cls clauses
    pure (.definition (← definitionNumber cls))
  | .declareOn type (guarded, clause) => do
    let cls ← declaringType (← readVariable type)
    let _ ← guarding guarded (runClause frame cls clause)
    pure .none
  | .defineRecord name defaults fields methods plain => defineRecord name defaults fields methods plain
  | .phase label category context slow body => do
    let p ← phaseOf label category context slow
    timed p (eval frame body)

/-- The values of expressions, in order. -/
def evalAll (frame : Frame) : List Expr → Prog (List Value)
  | [] => .done []
  | e :: es => do
    let v ← eval frame e
    let vs ← evalAll frame es
    pure (v :: vs)

/-- The value of the last expression, after all others. -/
def evalLast (frame : Frame) : List Expr → Value → Prog Value
  | [], last => .done last
  | e :: es, _ => do
    let v ← eval frame e
    evalLast frame es v

/-- The values of named expressions, in order. -/
def evalNamed (frame : Frame) : List (String × Expr) → Prog Named
  | [] => .done []
  | (name, e) :: rest => do
    let v ← eval frame e
    let others ← evalNamed frame rest
    pure ((name, v) :: others)

/-- The attributes of a page type. -/
def evalMembers (frame : Frame) : List (String × Member) → Prog (List (String × Value))
  | [] => .done []
  | (name, m) :: rest => do
    let v ← evalMember frame name m
    let others ← evalMembers frame rest
    pure ((name, v) :: others)

/-- An attribute of a page type. -/
def evalMember (frame : Frame) (name : String) : Member → Prog Value
  | .method body => do
    let id ← op (.addFunction body)
    pure (.method name id)
  | .value e => eval frame e

/-- A declaration on a page type. -/
def runClause (frame : Frame) (cls : ClassRef) : Clause → Prog Value
  | .address url => statement cls (.address url)
  | .expectElement name timeout => statement cls (.expectElement name timeout)
  | .expectTitle title => do
    let v ← eval frame title
    statement cls (.expectTitle v)
  | .binding member name body decorated => stateBinding cls member name body decorated
  | .link label => statement cls (.link label)
  | .button label => statement cls (.button label)

/-- Declarations on a page type, with the faults of guarded ones. -/
def runClauses (frame : Frame) (cls : ClassRef) : List (Bool × Clause) → Prog (List Raised)
  | [] => .done []
  | (guarded, clause) :: rest => do
    let caught ← guarding guarded (runClause frame cls clause)
    let others ← runClauses frame cls rest
    pure (caught.toList ++ others)

end

/-! ## Hooks -/

/-- Run clauses for what a hook is called with. -/
def runClausesFor (cs : List (Bool × Clause)) (target : Value) : Prog Value :=
  if cs.isEmpty then .done .none
  else do
    let cls ← declaringType target
    silently (runClauses {} cls cs)

/-- Run the hook of a page type, with what it is called with. -/
def runHook (cls : ClassRef) (args : List Value) : Prog Value := do
  match ← view fun s => s.hook? cls, args with
  | some .detached, [] => silently (op (.note .declaration))
  | some (.onType cs), [target] | some (.plain cs), [target] => runClausesFor cs target
  | some (.entry raw), [target] => do
    let cls ← declaringType target
    silently (stateEntry cls raw)
  | _, _ => raise .wrongType

end PageObjects.Prog
