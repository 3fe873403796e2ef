import PageObjects.Program.Asking
import PageObjects.Program.Op

/-!
# Programs

A program is a tree: it ends with an answer or a fault, performs a primitive
operation, calls a value, logs a line for which types may have to be asked, or
runs a program of which it handles the faults, a phase of which it keeps the
time, or a check that is repeated until it is satisfied.

Main definitions:

- `Phase`: a part of a program that is timed.
- `Prog`: programs, with their `Monad` instance.
- `Prog.attempt`, `Prog.phase`, `Prog.waitFor`, `Prog.invoke`: their parts.

Main results:

- Theorem `Prog.bind_assoc`: how programs are put together does not matter.
-/

namespace PageObjects

/-- A part of a program that is timed: the construction of a page, or what a script
states. -/
inductive Phase where
  | construction (pageName : Label) (visit : Value)
  | stated (label : Label) (category : Log.Category) (context : Log.Context) (slow : Value)

namespace Phase

/-- What a phase is called. -/
def label : Phase → Label
  | .construction pageName _ => .ofText ("construct " ++ pageName.text)
  | .stated label _ _ _ => label

/-- What the records of a phase are about. -/
def category : Phase → Log.Category
  | .construction _ _ => .lifecycle
  | .stated _ category _ _ => category

/-- What the records of a phase show. -/
def context : Phase → Log.Context
  | .construction pageName visit => [("page", pageName.logged), ("visit", visit)]
  | .stated _ _ context _ => context

/-- How long a phase may take before it is slow, if it has a limit of its own. -/
def slow : Phase → Value
  | .construction _ _ => .none
  | .stated _ _ _ slow => slow

/-- What a phase is about. -/
def subject : Phase → Log.Subject
  | .construction _ _ => .construction
  | .stated .. => .other

end Phase

/-- A check that is repeated: how long, and how long to sleep in between. -/
structure Patience where
  timeout : Float
  interval : Value

/-- Programs. -/
inductive Prog : Type → Type 1 where
  | done {α : Type} (a : α) : Prog α
  | fail {α : Type} (r : Raised) : Prog α
  | perform {α β : Type} (op : Op β) (next : β → Prog α) : Prog α
  | invoke {α : Type} (f : Value) (args : List Value) (named : Named) (next : Value → Prog α) : Prog α
  | tell {α : Type} (e : Log.Entry) (next : Prog α) : Prog α
  | attempt {α β : Type} (body : Prog β) (next : Except Raised β → Prog α) : Prog α
  | phase {α β : Type} (p : Phase) (body : Prog β) (next : β → Prog α) : Prog α
  | await {α : Type} (p : Patience) (check : Prog (Option Value)) (next : Value → Prog α) : Prog α

namespace Prog

/-- Go on with the answer of a program. -/
def bind {α β : Type} : Prog α → (α → Prog β) → Prog β
  | .done a, k => k a
  | .fail r, _ => .fail r
  | .perform op next, k => .perform op fun b => (next b).bind k
  | .invoke f args named next, k => .invoke f args named fun v => (next v).bind k
  | .tell e next, k => .tell e (next.bind k)
  | .attempt body next, k => .attempt body fun r => (next r).bind k
  | .phase p body next, k => .phase p body fun b => (next b).bind k
  | .await p check next, k => .await p check fun v => (next v).bind k

instance : Monad Prog where
  pure := .done
  bind := bind

/-- How programs are put together does not matter. -/
theorem bind_assoc {α β γ : Type} (p : Prog α) (k : α → Prog β) (l : β → Prog γ) :
    (p.bind k).bind l = p.bind fun a => (k a).bind l := by
  induction p with
  | done a => rfl
  | fail r => rfl
  | perform op next ih => simp [bind, ih]
  | invoke f args named next ih => simp [bind, ih]
  | tell e next ih => simp [bind, ih]
  | attempt body next _ ih => simp [bind, ih]
  | phase p body next _ ih => simp [bind, ih]
  | await p check next _ ih => simp [bind, ih]

theorem bind_done {α : Type} (p : Prog α) : p.bind .done = p := by
  induction p with
  | done a => rfl
  | fail r => rfl
  | perform op next ih => simp [bind, ih]
  | invoke f args named next ih => simp [bind, ih]
  | tell e next ih => simp [bind, ih]
  | attempt body next _ ih => simp [bind, ih]
  | phase p body next _ ih => simp [bind, ih]
  | await p check next _ ih => simp [bind, ih]

instance : LawfulMonad Prog :=
  LawfulMonad.mk' Prog (fun p => bind_done p) (fun _ _ => rfl) bind_assoc

/-! ## Parts of programs -/

/-- Perform an operation. -/
def op {β : Type} (o : Op β) : Prog β := .perform o .done

/-- Read the scene. -/
def view {β : Type} (f : Scene → β) : Prog β := op (.view f)

/-- End with a fault. -/
def raise {α : Type} (fault : Fault) : Prog α := .fail { fault }

/-- The answer of an operation that may answer with a fault. -/
def ofExcept {α : Type} : Except Raised α → Prog α
  | .ok a => .done a
  | .error r => .fail r

/-- The answer of a computation that may end with a fault. -/
def ofFault {α : Type} : Except Fault α → Prog α
  | .ok a => .done a
  | .error fault => raise fault

/-- Perform an operation that may answer with a fault. -/
def performing {α : Type} (o : Op (Except Raised α)) : Prog α := .perform o ofExcept

/-- What is there, or a fault. -/
def ofOption {α : Type} (fault : Fault) : Option α → Prog α
  | some a => .done a
  | none => raise fault

/-- The absent value, after a program. -/
def silently {α : Type} (p : Prog α) : Prog Value := p.bind fun _ => .done .none

/-- Log an entry. -/
def log (e : Log.Entry) : Prog Unit := .tell e (.done ())

/-- Log entries in order. -/
def logAll : List Log.Entry → Prog Unit
  | [] => .done ()
  | e :: es => do log e; logAll es

/-- Log the notices of a declaration, and end with its fault if there is one. -/
def declaring (o : Op Outcome) : Prog Unit := do
  let (notices, fault) ← op o
  logAll notices
  match fault with
  | none => pure ()
  | some fault => raise fault

/-- The answer of a program, or the fault that ended it. -/
def outcome {α : Type} (p : Prog α) : Prog (Except Raised α) := .attempt p .done

/-- A program that is timed. -/
def timed {α : Type} (p : Phase) (body : Prog α) : Prog α := .phase p body .done

/-- Repeat a check until it is satisfied. -/
def waitFor (p : Patience) (check : Prog (Option Value)) : Prog Value := .await p check .done

/-- Call a value. -/
def call (f : Value) (args : List Value) (named : Named) : Prog Value := .invoke f args named .done

@[simp] theorem pure_eq {α : Type} (a : α) : (pure a : Prog α) = .done a := rfl

@[simp] theorem bind_eq {α β : Type} (p : Prog α) (k : α → Prog β) : (p >>= k) = p.bind k := rfl

end Prog

end PageObjects
