import PageObjects.Definition.Basic
import PageObjects.Text.CanonicalName
import PageObjects.Text.XPathLiteral

/-!
# Declarations

What the author of a page type writes.  A name has to be a text that is not
empty, and that no attribute of the type hides.  A link or a button declares an
element and an action under names made from its label.

Main definitions:

- `GivenName`: a name as a declaration is given it.
- `Declaration`: what an author writes.
- `TypeFacts`: what a declaration has to know about its type.
- `Declared`: a definition after declarations, with notices and a fault.
- `Definition.declare`: the effect of a declaration.
-/

namespace PageObjects

/-- A name as a declaration is given it: with the text that messages show it
with, and the text that shows its kind. -/
structure GivenName where
  label : Label
  shown : String

/-- A name that is a text. -/
def GivenName.ofText (s : String) : GivenName := ⟨.ofText s, Text.quoted s⟩

/-- What an author writes. -/
inductive Declaration where
  | address (url : Value)
  | expectElement (name timeout : Value)
  | expectTitle (title : Value)
  | element (name : GivenName) (locator : Value)
  | action (name : GivenName) (body : Value)
  | link (label : Label)
  | button (label : Label)

/-- What a declaration has to know about its type: the name, and the names
that would be hidden. -/
structure TypeFacts where
  name : String
  hides : String → Bool

/-- A definition after declarations, the notices they gave, and the fault that
ended them, if there was one. -/
structure Declared where
  definition : Definition
  notices : List Log.Entry := []
  fault : Option Fault := none

namespace Declared

/-- Go on with a declaration unless a fault has ended them. -/
def andThen (r : Declared) (next : Definition → Declared) : Declared :=
  match r.fault with
  | some _ => r
  | none =>
    let s := next r.definition
    { s with notices := r.notices ++ s.notices }

@[simp] theorem andThen_of_fault {r : Declared} {f : Fault} (h : r.fault = some f)
    (next : Definition → Declared) : r.andThen next = r := by
  simp [andThen, h]

end Declared

namespace Definition

/-- The effect of an entry. -/
def declareEntry (d : Definition) (e : Entry) : Declared :=
  match d.enter e with
  | .ok d' => { definition := d', notices := (d.notice? e).toList }
  | .error fault => { definition := d, fault := some fault }

/-- What is wrong with the name of a binding, if anything. -/
def checkName (facts : TypeFacts) (d : Definition) (what : String) (name : GivenName) :
    Except Fault Unit :=
  match d.ensureOpen (what ++ " '" ++ name.label.text ++ "'") with
  | .error fault => .error fault
  | .ok () =>
    match name.label.value.word? with
    | none => .error (.unnamed what facts.name name.shown)
    | some s =>
      if s == "" then .error (.unnamed what facts.name name.shown)
      else if facts.hides s then .error (.reserved name.label.text facts.name what)
      else .ok ()

/-- The effect of an entry under a name that is checked first. -/
def declareNamed (facts : TypeFacts) (d : Definition) (what : String) (name : GivenName)
    (entry : Label → Entry) : Declared :=
  match checkName facts d what name with
  | .ok () => d.declareEntry (entry name.label)
  | .error fault => { definition := d, fault := some fault }

/-- The effect of an element. -/
def declareElement (facts : TypeFacts) (d : Definition) (name : GivenName) (locator : Value) : Declared :=
  d.declareNamed facts "element" name fun n => .element n locator

/-- The effect of an action. -/
def declareAction (facts : TypeFacts) (d : Definition) (name : GivenName) (body : Value) : Declared :=
  d.declareNamed facts "action" name fun n => .action n body

/-- A link or a button as what it declares: an element with the label and a
suffix in its name, and an action with the label alone that clicks the same
element. -/
structure Pair where
  element : String
  action : String
  strategy : String
  target : String

namespace Pair

/-- What a link declares. -/
def ofLink (label : String) : Pair :=
  { element := Text.canonicalName (label ++ " link"), action := Text.canonicalName label
    strategy := "link text", target := label }

/-- What a button declares; `shown` is the label as messages show it. -/
def ofButton (label shown : String) : Pair :=
  { element := Text.canonicalName (label ++ " button"), action := Text.canonicalName label
    strategy := "xpath", target := Text.buttonXPath shown }

/-- What finds the element. -/
def locator (p : Pair) : Value := .locator "locate" p.strategy p.target .element

/-- What clicks the element. -/
def body (p : Pair) : Value := .locator "<lambda>" p.strategy p.target .click

end Pair

/-- The effect of a link or a button. -/
def declarePair (facts : TypeFacts) (d : Definition) (p : Pair) : Declared :=
  (d.declareElement facts (.ofText p.element) p.locator).andThen fun d =>
    d.declareAction facts (.ofText p.action) p.body

/-- The effect of a declaration. -/
def declare (facts : TypeFacts) (d : Definition) : Declaration → Declared
  | .address url => d.declareEntry (.address url)
  | .expectElement name timeout => d.declareEntry (.expectElement name timeout)
  | .expectTitle title => d.declareEntry (.expectTitle title)
  | .element name locator => d.declareElement facts name locator
  | .action name body => d.declareAction facts name body
  | .link label =>
    match label.value.word? with
    | some s => d.declarePair facts (.ofLink s)
    | none => { definition := d, fault := some .wrongType }
  | .button label =>
    match label.value.word? with
    | some s => d.declarePair facts (.ofButton s label.text)
    | none => { definition := d, fault := some .wrongType }

end Definition

end PageObjects
