import PageObjects.Fault

/-!
# Scripts

The code that users of pages write: locators, actions, methods, blocks, and the
steps of a script.  An expression is evaluated with a page, which may be
missing, and positional arguments.

Main definitions:

- `Request`: what needs no other expression to be evaluated first.
- `Expr`: expressions.
- `Member`: the attributes that a page type is defined with.
- `Clause`: the declarations that a page type is defined with.
- `HookForm`: how a page type declares.
-/

namespace PageObjects

/-- How the hook of a page type is called: for the type that declares, for
whatever it is given, or for nothing at all. -/
inductive HookForm where
  | onType
  | plain
  | detached
deriving Repr, DecidableEq

/-- Requests that need no other expression to be evaluated first. -/
inductive Request where
  | const (v : Value)
  | held (name : String)
  | argument (index : Nat)
  | arguments
  | page
  | pattern (source : Value)
  | toggle (t : Toggle)
  | raise (kind : FaultKind) (message : Option String)
  | sleep (seconds : Value)
  | count (key : String)
  | poke (target field : String) (v : Value)
  | find (strategy target : Value)
  | isSubtype (sub super : String)
  | bareControl (kind : ControlKind)
  | bare (type : String)
  | state (target : String)
  | definition (type : String)
  | newDefinition (name : Value)
  | construct (type driver : String) (visit : Option Value)
  | session (driver : String)
  | catalog (bases : List (String × String)) (announces : Bool)
  | readCatalog (path : Value) (catalog : String)
  | buildPage (name raw : Value) (catalog : String)
  | policy (mode : Value) (includeContext : Bool)
  | signal (message category : Value) (level : Option Value) (context : List (String × Value))
  | diagnostic (message category : Value) (context : List (String × Value))
  | trace (message category : Value) (context : List (String × Value))
  | setUpLogging (verbose file : Value)
  | linesOfFile (path : Value)
  | linesOfConsole

mutual

/-- Expressions. -/
inductive Expr where
  | request (r : Request)
  | items (es : List Expr)
  | sequence (es : List Expr)
  | function (body : Expr)
  | get (name : Value) (target : Expr)
  | has (name : Value) (target : Expr)
  | call (name : Value) (target : Expr) (args : List Expr) (named : List (String × Expr))
  | apply (f : Expr) (args : List Expr) (named : List (String × Expr))
  | inspect (e : Expr)
  | directory (e : Expr)
  | wrap (kind : ControlKind) (e : Expr)
  | editable (e : Expr)
  | fit (control value : Expr)
  | same (a b : Expr)
  | item (key : Value) (target : Expr)
  | contains (key : Value) (target : Expr)
  | setItem (target : Expr) (key : Value) (value : Expr)
  | define (name : Value) (bases : List String) (members : List (String × Member))
      (hook : Option HookForm) (clauses : List (Bool × Clause))
  | declareOn (type : String) (clause : Bool × Clause)
  | defineRecord (name : Value) (defaults : Option Value) (attributes : List (String × Value))
      (methods : List (String × Expr)) (plain : Bool)
  | phase (label : Value) (category : Option Value) (context : List (String × Value))
      (slow : Value) (body : Expr)

/-- The attributes that a page type is defined with. -/
inductive Member where
  | method (body : Expr)
  | value (e : Expr)

/-- The declarations that a page type is defined with; a binding is declared by
the member of the page type that is named for it. -/
inductive Clause where
  | address (url : Value)
  | expectElement (name : Value) (timeout : Option Value)
  | expectTitle (title : Expr)
  | binding (member : String) (name : Value) (body : Option Expr) (decorated : Bool)
  | link (label : Value)
  | button (label : Value)

end

/-- The page that an expression is evaluated with, and the positional arguments. -/
structure Frame where
  page : Value := .none
  args : List Value := []

namespace Frame

/-- The frame of a function: the last argument is the page. -/
def ofArguments (args : List Value) : Frame :=
  { page := args.getLast?.getD .none, args := args.dropLast }

@[simp] theorem ofArguments_concat (args : List Value) (page : Value) :
    ofArguments (args ++ [page]) = { page, args } := by
  simp [ofArguments]

end Frame

instance : Inhabited Expr := ⟨.request .page⟩

instance : Inhabited Member := ⟨.value default⟩

instance : Inhabited Clause := ⟨.address .none⟩

end PageObjects
