import PageObjects.Program.Basic

/-!
# Texts and truth in programs

A program that needs the text of a value asks the type of the value first: page
types and record types may define members that give the text of a thing, or say
whether the thing counts as true.

Main definitions:

- `Prog.askType`: the answer of a member that a type defines, if it does.
- `Asking.prog`: a program that asks for texts, as a program.
- `Prog.inspected`, `Prog.shown`, `Prog.formatted`: the texts of a value.
- `Prog.truth`: whether a value counts as true.
- `Prog.labelled`, `Prog.givenName`: a value with its texts.

Main results:

- Theorem `Prog.shown_text` and `Prog.truth_bool`: texts and truth values need
  not be asked for.
-/

namespace PageObjects

namespace Prog

/-- The answer of a member that a type defines for its things, if it does. -/
def askTypeWith (v : Value) (name : String) (args : List Value) : Prog (Option Value) := do
  match ← view fun s => s.typeMember? v name with
  | some f => do
    let answer ← call (f.boundTo v) args []
    pure (some answer)
  | none => pure none

/-- The answer of a member that needs nothing to be told. -/
def askType (v : Value) (name : String) : Prog (Option Value) := askTypeWith v name []

end Prog

/-- A program that asks for texts, as a program. -/
def Asking.prog {α : Type} : Asking α → Prog α
  | .done a => .done a
  | .fail fault => Prog.raise fault
  | .look f next => .perform (.view f) fun b => (next b).prog
  | .call f args next => .invoke f args [] fun v => (next v).prog

namespace Prog

/-- The text that shows the kind of a value. -/
def inspected (v : Value) : Prog String := (Asking.inspected v).prog

/-- The text that a value is turned into, as it is typed into fields. -/
def shown (v : Value) : Prog String := (Asking.shown v).prog

/-- The text that is put into messages. -/
def formatted (v : Value) : Prog String := (Asking.formatted v).prog

/-- A value with the text that messages show it with. -/
def labelled (v : Value) : Prog Label := do
  let text ← formatted v
  pure ⟨v, text⟩

/-- A name as a declaration is given it.  Only what is no name is shown in full. -/
def givenName (v : Value) : Prog GivenName := do
  let label ← labelled v
  if v.word?.isSome then pure ⟨label, Text.quoted label.text⟩
  else do
    let shown ← inspected v
    pure ⟨label, shown⟩

/-- The fault of a length that is negative. -/
def negativeLength : Fault := .raised .value (some "__len__() should return >= 0")

/-- Whether a length that a type gives counts as true. -/
def truthOfLength : Value → Prog Bool
  | .bool b => .done b
  | .int n => if n < 0 then raise negativeLength else .done (n != 0)
  | _ => raise .wrongType

/-- Whether a thing counts as true, as its type says. -/
def truthOfThing (v : Value) : Prog Bool := do
  match ← askType v "__bool__" with
  | some (.bool b) => pure b
  | some _ => raise .wrongType
  | none =>
    match ← askType v "__len__" with
    | some n => truthOfLength n
    | none => pure true

/-- Whether a value counts as true. -/
def truth (v : Value) : Prog Bool :=
  match v with
  | .bool b => .done b
  | .page .. | .object .. => truthOfThing v
  | v => view fun s => s.truthy v

@[simp] theorem shown_text (t : String) : shown (.text t) = .done t := rfl

@[simp] theorem formatted_text (t : String) : formatted (.text t) = .done t := rfl

@[simp] theorem labelled_text (t : String) : labelled (.text t) = .done (.ofText t) := rfl

@[simp] theorem givenName_text (t : String) : givenName (.text t) = .done (.ofText t) := rfl

@[simp] theorem truth_bool (b : Bool) : truth (.bool b) = .done b := rfl

end Prog

end PageObjects
