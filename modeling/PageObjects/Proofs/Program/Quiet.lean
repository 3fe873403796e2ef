import PageObjects.Program.Text

/-!
# Programs that only look

Many programs only look at the scene, call what is called, and log lines: so do those that
find the text of a value, or whether it counts as true.

Main definitions:

- `Prog.Quiet`: programs that perform no operation but to look at the scene.

Main results:

- Theorem `Prog.Quiet.bind`: programs that go on are quiet if their parts are.
- Theorem `Prog.Quiet.prog` and `Prog.Quiet.truth`: texts and truth are found by quiet programs.
-/

namespace PageObjects

namespace Prog

/-- Programs that only look at the scene, make calls and log lines. -/
inductive Quiet : {α : Type} → Prog α → Prop where
  | done {α : Type} (a : α) : Quiet (.done a)
  | fail {α : Type} (r : Raised) : Quiet (.fail r : Prog α)
  | look {α β : Type} {f : Scene → β} {next : β → Prog α} : (∀ b, Quiet (next b)) → Quiet (.perform (.view f) next)
  | invoke {α : Type} {f : Value} {args : List Value} {named : Named} {next : Value → Prog α} :
      (∀ v, Quiet (next v)) → Quiet (.invoke f args named next)
  | tell {α : Type} {e : Log.Entry} {next : Prog α} : Quiet next → Quiet (.tell e next)

namespace Quiet

variable {α β : Type}

theorem raise (fault : Fault) : (Prog.raise fault : Prog α).Quiet := .fail _

/-- A program that goes on is quiet if its parts are. -/
theorem bind {p : Prog α} {k : α → Prog β} (hp : p.Quiet) (hk : ∀ a, (k a).Quiet) : (p.bind k).Quiet := by
  induction hp with
  | done a => exact hk a
  | fail r => exact .fail r
  | look _ ih => exact .look fun b => ih b
  | invoke _ ih => exact .invoke fun v => ih v
  | tell _ ih => exact .tell ih

/-- Of two quiet programs it does not matter which is chosen. -/
theorem ite {c : Prop} [Decidable c] {p q : Prog α} (hp : p.Quiet) (hq : q.Quiet) : (if c then p else q).Quiet := by
  by_cases h : c
  · rwa [if_pos h]
  · rwa [if_neg h]

theorem view (f : Scene → β) : (Prog.view f).Quiet := .look .done

/-- A program that looks at the scene and goes on is quiet if it goes on so. -/
theorem view_bind {f : Scene → α} {k : α → Prog β} (hk : ∀ a, (k a).Quiet) : ((Prog.view f).bind k).Quiet :=
  .bind (.view f) hk

theorem ofOption (fault : Fault) (o : Option α) : (Prog.ofOption fault o).Quiet := by
  cases o with
  | none => exact .raise fault
  | some a => exact .done a

theorem ofFault (e : Except Fault α) : (Prog.ofFault e).Quiet := by
  cases e with
  | error fault => exact .raise fault
  | ok a => exact .done a

theorem call (f : Value) (args : List Value) (named : Named) : (Prog.call f args named).Quiet := .invoke .done

theorem log (e : Log.Entry) : (Prog.log e).Quiet := .tell (.done _)

end Quiet

end Prog

/-! ## Texts -/

namespace Prog.Quiet

theorem askType (v : Value) (name : String) : (Prog.askType v name).Quiet := by
  refine .view_bind fun f => ?_
  cases f with
  | none => exact .done _
  | some f => exact .bind (.call _ _ _) fun _ => .done _

/-- To ask for texts is quiet. -/
theorem prog {α : Type} (p : Asking α) : p.prog.Quiet := by
  induction p with
  | done a => exact .done a
  | fail fault => exact .raise fault
  | look f next ih => exact .look ih
  | call f args next ih => exact .invoke ih

/-- To show what a value consists of is quiet. -/
theorem inspected (v : Value) : (Prog.inspected v).Quiet := prog _

/-- To give the text of a value is quiet. -/
theorem shown (v : Value) : (Prog.shown v).Quiet := prog _

/-- To give the text of a value in messages is quiet. -/
theorem formatted (v : Value) : (Prog.formatted v).Quiet := prog _

/-- To find out whether a value counts as true is quiet. -/
theorem truth (v : Value) : (Prog.truth v).Quiet := by
  have hthing : ∀ v, (truthOfThing v).Quiet := by
    intro v
    refine .bind (askType v _) fun answer => ?_
    cases answer with
    | some answer => cases answer <;> first | exact .done _ | exact .raise _
    | none =>
      refine .bind (askType v _) fun length => ?_
      cases length with
      | none => exact .done _
      | some length =>
        cases length with
        | bool b => exact .done _
        | int n => exact .ite (.raise _) (.done _)
        | _ => exact .raise _
  cases v with
  | bool b => exact .done b
  | page | object => exact hthing _
  | _ => exact .view _

end Prog.Quiet

end PageObjects
