import PageObjects.Value.Moment
import PageObjects.Decimal.Binary

/-!
# Values

What locators, actions, options and catalog files deal in: plain data, the
doubles of elements and drivers, and references to the things a program has
made.  Things that change are referred to by number: lists, mappings and sets
by the cell that holds their items, everything else by the order in which it
was made.

Main definitions:

- `ControlKind`, `Toggle`, `BindingKind`: small closed choices.
- `ClassRef`: the reference to a page type or a record type.
- `Finish`: what a generated accessor does with the element it has found.
- `Place`: the mappings that things keep of their own.
- `Occurrence`: what a search with a pattern has found.
- `Value`: all values.
- `Value.word?`, `Value.whole?`: the text and the number that a value is equal to.
-/

namespace PageObjects

/-- The kinds of controls. -/
inductive ControlKind where
  | control
  | textField
  | selectList
  | checkBox
  | radioButton
deriving Repr, DecidableEq

/-- The two states a check box or a radio button is fitted to. -/
inductive Toggle where
  | set
  | clear
deriving Repr, DecidableEq

/-- Accessors and interactions. -/
inductive BindingKind where
  | element
  | action
deriving Repr, DecidableEq

/-- The reference to a type, with the name it was defined under. -/
structure ClassRef where
  id : Nat
  name : String
deriving Repr, DecidableEq

/-- What a generated accessor does with the element it has found. -/
inductive Finish where
  | element
  | wrapped (kind : ControlKind)
  | editable
  | text
  | click
deriving Repr, DecidableEq

/-- The mappings that things keep of their own: the fields of an instance, the
table of a definition, which may be looked at or written to, and the page types
of a catalog. -/
inductive Place where
  | fields (instance_ : Nat)
  | table (definition : Nat)
  | bindings (definition : Nat)
  | pages (catalog : Nat)
deriving Repr, DecidableEq

/-- What a search with a pattern has found: the text that was searched, and where the
whole match and each group begin and end. -/
structure Occurrence where
  source : String
  subject : String
  spans : List (Option (Nat × Nat))
deriving Repr, DecidableEq

namespace Occurrence

/-- The span of a group, of which the first is the whole match. -/
def span? (f : Occurrence) (group : Nat) : Option (Nat × Nat) := (f.spans[group]?).join

/-- The part of the text that a group has matched. -/
def part? (f : Occurrence) (group : Nat) : Option String :=
  (f.span? group).map fun s => String.ofList ((f.subject.toList.drop s.1).take (s.2 - s.1))

end Occurrence

/-- All values. -/
inductive Value where
  | none
  | bool (b : Bool)
  | int (n : Int)
  | float (x : Float)
  | nan (id : Nat)
  | text (s : String)
  | bytes (bs : List UInt8)
  | date (d : Date)
  | moment (m : Moment)
  | list (cell : Nat)
  | tuple (items : List Value)
  | set (cell : Nat)
  | map (cell : Nat)
  | series (type : String) (items : List Value)
  | mapping (place : Place)
  | pattern (source : String)
  | occurrence (f : Occurrence)
  | toggle (t : Toggle)
  | bindingKind (k : BindingKind)
  | element (name : String)
  | driver (name : String)
  | control (id : Nat) (kind : ControlKind)
  | page (id : Nat) (cls : ClassRef)
  | object (id : Nat) (type : Option ClassRef)
  | pageType (cls : ClassRef)
  | recordType (cls : ClassRef)
  | systemType (name : String)
  | definition (id : Nat)
  | expectation (name timeout : Value)
  | binding (name : Value) (kind : BindingKind) (payload : Value)
  | catalog (id : Nat)
  | announcer
  | bound (name : String) (kind : BindingKind) (payload page : Value)
  | function (id : Nat)
  | method (name : String) (body : Nat)
  | hook (cls : ClassRef)
  | held (f owner : Value)
  | member (owner : Value) (name : String)
  | locator (label strategy target : String) (finish : Finish)
  | attributeLocator (strategy target : String) (property : Value)
  | decorator (cls : ClassRef) (kind : BindingKind) (name : Value)
deriving Inhabited

namespace Value

/-- Whether a value is the absent one. -/
def isNone : Value → Bool
  | .none => true
  | _ => false

@[simp] theorem isNone_none : Value.none.isNone = true := rfl

theorem isNone_iff {v : Value} : v.isNone = true ↔ v = .none := by
  cases v <;> simp [isNone]

/-- The text of a value that is a text. -/
def text? : Value → Option String
  | .text s => some s
  | _ => Option.none

/-- The word that a toggle stands for. -/
def toggleWord : Toggle → String
  | .set => "set"
  | .clear => "clear"

/-- The word that a kind of binding stands for. -/
def bindingWord : BindingKind → String
  | .element => "element"
  | .action => "action"

/-- The text that a value is equal to, for texts and words. -/
def word? : Value → Option String
  | .text s => some s
  | .toggle t => some (toggleWord t)
  | .bindingKind k => some (bindingWord k)
  | _ => Option.none

/-- The whole number that a truth value or a number is equal to. -/
def whole? : Value → Option Int
  | .bool b => some (if b then 1 else 0)
  | .int n => some n
  | .float x =>
    match Decimal.reading x with
    | .finite negative v =>
      if v.num % v.den == 0 then
        let n : Int := (v.num / v.den : Nat)
        some (if negative then -n else n)
      else Option.none
    | _ => Option.none
  | _ => Option.none

/-- The whole number that counts positions, for truth values and integers. -/
def index? : Value → Option Int
  | .bool b => some (if b then 1 else 0)
  | .int n => some n
  | _ => Option.none

/-- The name under which a function can be called. -/
def callableName? : Value → Option String
  | .function _ => some "fn"
  | .method name _ | .bound name .. | .member _ name => some name
  | .hook _ => some "declare"
  | .held f _ => callableName? f
  | .locator label .. => some label
  | .attributeLocator .. => some "<lambda>"
  | .decorator .. => some "decorator"
  | _ => Option.none

/-- A value as the instances of a type have it: functions get their owner. -/
def boundTo (v owner : Value) : Value :=
  match v with
  | .method .. | .function _ | .hook _ | .bound .. | .locator .. | .attributeLocator .. | .decorator .. =>
    .held v owner
  | v => v

end Value

end PageObjects
