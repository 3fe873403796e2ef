import PageObjects.Scene.Display

/-!
# Programs that ask for texts

To show a value is to look at the scene, and to call what types define for their
things.  Nothing else is done: so programs that show values are of a kind of their
own, which all other programs and the lines of the log make use of.

Main definitions:

- `Asking`: programs that look and call, with their `Monad` instance.
- `Asking.inspected`, `Asking.shown`, `Asking.formatted`: the texts of a value.
- `Asking.context`: the text of the context of a line.

Main results:

- Theorem `Asking.bind_assoc`: how programs are put together does not matter.
- Theorem `Asking.formatted_of_plain`, `Asking.context_of_plain`: what types have no say in
  is shown without asking.
-/

namespace PageObjects

/-- Named arguments. -/
abbrev Named := List (String × Value)

/-- Programs that only look at the scene and make calls. -/
inductive Asking : Type → Type 1 where
  | done {α : Type} (a : α) : Asking α
  | fail {α : Type} (fault : Fault) : Asking α
  | look {α β : Type} (f : Scene → β) (next : β → Asking α) : Asking α
  | call {α : Type} (f : Value) (args : List Value) (next : Value → Asking α) : Asking α

namespace Asking

/-- Go on with the answer of a program. -/
def bind {α β : Type} : Asking α → (α → Asking β) → Asking β
  | .done a, k => k a
  | .fail fault, _ => .fail fault
  | .look f next, k => .look f fun b => (next b).bind k
  | .call f args next, k => .call f args fun v => (next v).bind k

instance : Monad Asking where
  pure := .done
  bind := bind

@[simp] theorem pure_eq {α : Type} (a : α) : (pure a : Asking α) = .done a := rfl

@[simp] theorem bind_eq {α β : Type} (p : Asking α) (k : α → Asking β) : (p >>= k) = p.bind k := rfl

/-- How programs are put together does not matter. -/
theorem bind_assoc {α β γ : Type} (p : Asking α) (k : α → Asking β) (l : β → Asking γ) :
    (p.bind k).bind l = p.bind fun a => (k a).bind l := by
  induction p with
  | done a => rfl
  | fail fault => rfl
  | look f next ih => simp [bind, ih]
  | call f args next ih => simp [bind, ih]

theorem bind_done {α : Type} (p : Asking α) : p.bind .done = p := by
  induction p with
  | done a => rfl
  | fail fault => rfl
  | look f next ih => simp [bind, ih]
  | call f args next ih => simp [bind, ih]

instance : LawfulMonad Asking :=
  LawfulMonad.mk' Asking (fun p => bind_done p) (fun _ _ => rfl) bind_assoc

/-! ## Texts of values -/

/-- The text that a member of a type has given. -/
def textGiven (answer : Value) : Asking (Option String) :=
  match answer.word? with
  | some t => .done (some t)
  | none => .fail .wrongType

/-- The text that a type gives for a thing by a member, if it has that member. -/
def askText (v : Value) (name : String) (args : List Value) : Asking (Option String) :=
  .look (fun s => s.typeMember? v name) fun member =>
    match member with
    | some f => .call (f.boundTo v) args textGiven
    | none => .done none

/-- To look at the scene of a program. -/
def showing : Showing Asking where
  look f := .look f .done
  ask := askText
  fail := .fail

/-- The text that shows the kind of a value. -/
def inspected (v : Value) : Asking String := showing.inspect v

/-- The text that a value is turned into, as it is typed into fields. -/
def shown (v : Value) : Asking String := showing.text v

/-- The text of a value in messages and in lines of the log. -/
def formatted (v : Value) : Asking String := showing.formatted v

/-- What types have no say in is shown without asking. -/
theorem formatted_of_plain {v : Value} (h : v.isPlain = true) : formatted v = .done v.plainText := by
  cases v with
  | none | bool | float | nan | text | toggle | bindingKind => rfl
  | _ => cases h

/-! ## Contexts -/

/-- The texts of values with their names, in order. -/
def fields : Log.Context → Asking (List String)
  | [] => .done []
  | (name, v) :: rest => do
    let text ← formatted v
    let others ← fields rest
    pure (Log.Context.field name text :: others)

/-- The text of the context of a line. -/
def context (ctx : Log.Context) : Asking String := do
  let fields ← fields ctx.shown
  pure (Log.Context.joined fields)

/-- Values that types have no say in are listed without asking. -/
theorem fields_of_plain {ctx : Log.Context} (h : ctx.Plain) : fields ctx = .done ctx.plainFields := by
  induction ctx with
  | nil => rfl
  | cons e rest ih =>
    obtain ⟨name, v⟩ := e
    have hfirst : formatted v = .done v.plainText := formatted_of_plain (h _ List.mem_cons_self)
    have hrest : fields rest = .done (Log.Context.plainFields rest) :=
      ih fun e he => h e (List.mem_cons_of_mem _ he)
    rw [fields, hfirst, hrest]
    rfl

/-- A context of such values is put into a text without asking. -/
theorem context_of_plain {ctx : Log.Context} (h : ctx.Plain) : context ctx = .done ctx.plainText := by
  rw [context, fields_of_plain h.shown]
  rfl

end Asking

end PageObjects
