import PageObjects.Proofs.Program.Deeds
import PageObjects.Proofs.Program.Lines

/-!
# What an answer says about a run

A program that goes on has an answer only if each of its parts has one.  Looking at
the scene, and passing on what is there already, leave the world as it is.

Main definitions:

- `Caller.Does`: calls leave the worlds that deeds leave.

Main results:

- Theorem `Prog.run_bind_ok`: an answer of a program that goes on comes from answers
  of its parts.
- Theorem `Prog.run_view_bind`, `Prog.run_op_bind` and their kin: how parts run that
  cannot fail.
- Theorem `Prog.run_callValue`, `Prog.run_callMember`: how calls run.
-/

namespace PageObjects

/-- Calls leave the worlds that deeds leave. -/
def Caller.Does (caller : Caller) (called : Called) : Prop :=
  ∀ f args named w, (caller f args named w).2 = w.after (called f args named w)

theorem callAt_does (rounds depth : Nat) : Caller.Does (callAt rounds depth) (callDeeds rounds depth) :=
  callAt_world rounds depth

namespace Prog

variable {caller : Caller} {rounds : Nat} {α β : Type} {w w' : World}

/-! ## Parts that cannot fail -/

@[simp] theorem run_bind_eq (p : Prog α) (k : α → Prog β) (w : World) :
    run caller rounds (p.bind k) w = andThen (run caller rounds p w) fun a => run caller rounds (k a) :=
  run_bind p k w

@[simp] theorem andThen_ok (a : α) (w : World) (next : α → World → Result β) :
    andThen (.ok a, w) next = next a w := rfl

@[simp] theorem andThen_error (r : Raised) (w : World) (next : α → World → Result β) :
    andThen (.error r, w) next = (.error r, w) := rfl

@[simp] theorem run_view (f : Scene → β) (w : World) :
    run caller rounds (view f) w = (.ok (f w.scene), w) := rfl

theorem andThen_pure (r : Result α) : andThen r (fun a w => (.ok a, w)) = r := by
  rcases r with ⟨_ | a, w⟩ <;> rfl

theorem run_view_bind (f : Scene → α) (k : α → Prog β) (w : World) :
    run caller rounds ((view f).bind k) w = run caller rounds (k (f w.scene)) w := rfl

theorem run_op_bind (o : Op α) (k : α → Prog β) (w : World) :
    run caller rounds ((op o).bind k) w = run caller rounds (k (o.run w).1) (o.run w).2 := rfl

theorem run_ofOption_some_bind (fault : Fault) (a : α) (k : α → Prog β) (w : World) :
    run caller rounds ((ofOption fault (some a)).bind k) w = run caller rounds (k a) w := rfl

theorem run_ofFault_ok_bind (a : α) (k : α → Prog β) (w : World) :
    run caller rounds ((ofFault (.ok a)).bind k) w = run caller rounds (k a) w := rfl

@[simp] theorem run_raise (fault : Fault) (w : World) :
    run caller rounds (raise fault : Prog α) w = (.error { fault }, w) := rfl

/-- To ask for texts as a part of a program is to ask for them. -/
@[simp] theorem run_prog (p : Asking α) (w : World) : run caller rounds p.prog w = p.run caller w := by
  induction p generalizing w with
  | done a => rfl
  | fail fault => rfl
  | look f next ih => exact ih _ w
  | call f args next ih =>
    simp only [Asking.prog, run, Asking.run]
    rcases caller f args [] w with ⟨_ | v, w'⟩
    · rfl
    · exact ih v w'

theorem run_log (e : Log.Entry) (w : World) : run caller rounds (log e) w = PageObjects.tell caller e none w := andThen_pure _

/-- A line with a plain context is logged at once. -/
theorem run_log_of_plain {e : Log.Entry} (h : e.context.Plain) (w : World) :
    run caller rounds (log e) w = (.ok (), w.write e) := (run_log e w).trans (tell_of_plain h)

@[simp] theorem run_ofOption_some (fault : Fault) (a : α) (w : World) :
    run caller rounds (ofOption fault (some a)) w = (.ok a, w) := rfl

@[simp] theorem run_ofOption_none (fault : Fault) (w : World) :
    run caller rounds (ofOption fault none : Prog α) w = (.error { fault }, w) := rfl

@[simp] theorem run_ofFault_ok (a : α) (w : World) :
    run caller rounds (ofFault (.ok a)) w = (.ok a, w) := rfl

@[simp] theorem run_ofFault_error (fault : Fault) (w : World) :
    run caller rounds (ofFault (.error fault) : Prog α) w = (.error { fault }, w) := rfl

/-- A program of which the faults are handled has an answer, whatever it does. -/
@[simp] theorem run_outcome (p : Prog α) (w : World) :
    run caller rounds (outcome p) w = (.ok (run caller rounds p w).1, (run caller rounds p w).2) := rfl

/-- To log lines with plain contexts leaves the scene as it is, and has an answer. -/
theorem run_logAll {es : List Log.Entry} (h : ∀ e ∈ es, e.context.Plain) (w : World) :
    ∃ j, run caller rounds (logAll es) w = (.ok (), { w with journal := j }) := by
  induction es generalizing w with
  | nil => exact ⟨w.journal, rfl⟩
  | cons e es ih =>
    obtain ⟨j, hj⟩ := ih (fun e he => h e (List.mem_cons_of_mem _ he)) (w.write e)
    refine ⟨j, ?_⟩
    rw [logAll, bind_eq, run_bind_eq, run_log_of_plain (h e List.mem_cons_self), andThen_ok, hj]
    rfl

/-! ## Answers -/

/-- An answer of a program that goes on comes from answers of its parts. -/
theorem run_bind_ok {p : Prog α} {k : α → Prog β} {b : β}
    (h : run caller rounds (p.bind k) w = (.ok b, w')) :
    ∃ a w₁, run caller rounds p w = (.ok a, w₁) ∧ run caller rounds (k a) w₁ = (.ok b, w') := by
  rw [run_bind] at h
  rcases hp : run caller rounds p w with ⟨_ | a, w₁⟩
  · rw [hp] at h
    cases h
  · rw [hp] at h
    exact ⟨a, w₁, rfl, h⟩

/-- What is passed on was there. -/
theorem run_ofOption_ok {fault : Fault} {o : Option α} {a : α}
    (h : run caller rounds (ofOption fault o) w = (.ok a, w')) : o = some a ∧ w = w' := by
  cases o with
  | none => cases h
  | some b =>
    cases h
    exact ⟨rfl, rfl⟩

/-- What is passed on is no fault. -/
theorem run_ofFault_ok' {e : Except Fault α} {a : α}
    (h : run caller rounds (ofFault e) w = (.ok a, w')) : e = .ok a ∧ w = w' := by
  cases e with
  | error fault => cases h
  | ok b =>
    cases h
    exact ⟨rfl, rfl⟩

/-- An answer comes with the world that deeds leave. -/
theorem run_after {called : Called} (hcaller : caller.Does called) (p : Prog α) {r : Except Raised α}
    (h : run caller rounds p w = (r, w')) : ∃ deeds, w' = w.after deeds := by
  have hworld : (run caller rounds p w).2 = _ := run_world hcaller p w
  rw [h] at hworld
  exact ⟨_, hworld⟩

/-! ## Calls -/

/-- A value that stands for a call is called. -/
theorem run_callValue {rounds depth : Nat} {f : Value} (hf : ∀ args named, directOp? f args named = none)
    (args : List Value) (named : Named) (w : World) :
    run (callAt rounds (depth + 1)) rounds (callValue f args named) w =
      run (callAt rounds depth) rounds (enter f args named) w := by
  have hcall : run (callAt rounds (depth + 1)) rounds (callValue f args named) w =
      andThen (run (callAt rounds depth) rounds (enter f args named) w) fun v w => (.ok v, w) := by
    rw [callValue, hf]
    rfl
  rw [hcall]
  rcases run (callAt rounds depth) rounds (enter f args named) w with ⟨_ | _, _⟩ <;> rfl

/-- A member that was looked up is called. -/
theorem run_callMember {rounds depth : Nat} {owner v : Value} {name member : String}
    (hfound : run (callAt rounds (depth + 1)) rounds (attributeOf name owner) w = (.ok (.member v member), w))
    (hdirect : ∀ args named, directOp? (.member v member) args named = none) (args : List Value) :
    run (callAt rounds (depth + 1)) rounds (callMember owner name args) w =
      run (callAt rounds depth) rounds (enter (.member v member) args []) w := by
  rw [callMember, bind_eq, run_bind, hfound, andThen_ok, run_callValue hdirect]

end Prog

end PageObjects
