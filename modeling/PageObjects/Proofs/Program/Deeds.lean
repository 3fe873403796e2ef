import PageObjects.Script.Run

/-!
# What runs do

A run leaves its world by performing operations, one after the other, whatever
program it is a run of.  The operations are read off the run itself: those that
the program asks for, those of the calls that it makes, the lines that it logs,
the records of its phases among them, and the sleeping between two checks.  Between
two steps of a script, what has been reported is forgotten.  What no operation
changes is changed by no run.

Main definitions:

- `Deed`: one thing that a run does to its world.
- `World.after`: the world that deeds leave, one after the other.
- `Prog.deeds`, `callDeeds`, `Step.deeds`, `scriptDeeds`: what the runs of programs,
  calls, steps and scripts do.
- `Deed.tableWritten?`: the definition whose table a deed writes to from outside.

Main results:

- Theorem `Prog.run_world`: a run of a program leaves the world that its deeds leave.
- Theorem `callAt_world`, `runStep_world` and `script_world`: so do calls, steps and
  scripts.
-/

namespace PageObjects

/-- One thing that a run does to its world: an operation, logging a record, or
forgetting what has been reported. -/
inductive Deed where
  | op {β : Type} (o : Op β)
  | record (r : Log.Record)
  | renew

namespace World

/-- A world of which the events and the records have been reported. -/
def renewed (w : World) : World :=
  { scene := { w.scene with events := [] }, journal := { w.journal with records := [] } }

end World

namespace Deed

/-- The world after a deed. -/
def perform : Deed → World → World
  | .op o, w => (o.run w).2
  | .record r, w => w.keep r
  | .renew, w => w.renewed

/-- The definition whose table a deed writes to from outside, if it does. -/
def tableWritten? : Deed → Option Nat
  | .op (.writeTable definition _ _) => some definition
  | _ => none

end Deed

/-- Deeds that do not write to the table of a definition from outside. -/
def Spares (definition : Nat) (deeds : List Deed) : Prop :=
  ∀ d ∈ deeds, d.tableWritten? ≠ some definition

/-- The world that deeds leave, one after the other. -/
def World.after (w : World) (deeds : List Deed) : World := deeds.foldl (fun w d => d.perform w) w

namespace World

@[simp] theorem after_cons (w : World) (d : Deed) (deeds : List Deed) :
    w.after (d :: deeds) = (d.perform w).after deeds := rfl

@[simp] theorem after_append (w : World) (deeds deeds' : List Deed) :
    w.after (deeds ++ deeds') = (w.after deeds).after deeds' := List.foldl_append

end World

/-! ## Programs -/

/-- What a call does. -/
abbrev Called := Value → List Value → Named → World → List Deed

/-- What is done with the answer of a run, if there is one. -/
def deedsThen {α : Type} (r : Result α) (next : α → World → List Deed) : List Deed :=
  match r with
  | (.ok a, w) => next a w
  | (.error _, _) => []

section Lines

variable (caller : Caller) (called : Called)

/-- What is done to ask for texts. -/
def Asking.deeds {α : Type} : Asking α → World → List Deed
  | .done _ => fun _ => []
  | .fail _ => fun _ => []
  | .look f next => fun w => .op (.view f) :: deeds (next (f w.scene)) w
  | .call f args next => fun w => called f args [] w ++ deedsThen (caller f args [] w) fun v => deeds (next v)

/-- What is done to find the text of the context of an entry. -/
def Log.Entry.tailDeeds (e : Log.Entry) (w : World) : List Deed :=
  if w.journal.policy.includeContext then (Asking.context e.context).deeds caller called w else []

/-- What is done to log a line. -/
def tellDeeds (e : Log.Entry) (mark : Option Log.Mark) (w : World) : List Deed :=
  if e.gate.opens w.journal.policy.mode then
    e.tailDeeds caller called w ++ deedsThen (e.tail caller w) fun tail _ => [.record (e.recordWith mark tail)]
  else []

/-- What is done at the end of a phase. -/
def Phase.closingDeeds {α : Type} (p : Phase) (limit : Value) (start : Float) (r : Result α) : List Deed :=
  let elapsed := r.2.scene.clock - start
  match r.1 with
  | .error _ =>
    if admits p.fullContext ["failed"] then
      tellDeeds caller called (p.failure elapsed) (some (p.closingMark true)) r.2
    else []
  | .ok _ =>
    match reaches elapsed limit with
    | .ok slow => tellDeeds caller called (p.success elapsed slow) (some (p.closingMark false)) r.2
    | .error _ => []

/-- What is done in a phase; `inside` is what its body does. -/
def Phase.deeds {α : Type} (p : Phase) (body : World → Result α) (inside : World → List Deed) (w : World) :
    List Deed :=
  if admits p.fullContext [] then
    tellDeeds caller called p.opening (some p.openingMark) w ++
      deedsThen (tell caller p.opening (some p.openingMark) w) fun _ w' =>
        inside w' ++ p.closingDeeds caller called (p.limit w.scene.settings) w.scene.clock (body w')
  else []

end Lines

/-- What is done by a check that is repeated; `once` is what one check does. -/
def repeatDeeds (deadline : Float) (interval : Value) (check : World → Result (Option Value))
    (once : World → List Deed) : (n : Nat) → World → List Deed
  | 0, _ => []
  | n + 1, w =>
    once w ++
      match checked (check w).1 with
      | .ok none =>
        if (check w).2.scene.clock > deadline then []
        else
          .op (.sleep interval) ::
            deedsThen (Op.run (.sleep interval) (check w).2) fun _ => repeatDeeds deadline interval check once n
      | _ => []

/-- What the run of a program does. -/
def Prog.deeds (caller : Caller) (called : Called) (rounds : Nat) {α : Type} : Prog α → World → List Deed
  | .done _ => fun _ => []
  | .fail _ => fun _ => []
  | .perform op next => fun w =>
    let r := op.run w
    .op op :: deeds caller called rounds (next r.1) r.2
  | .invoke f args named next => fun w =>
    called f args named w ++
      deedsThen (caller f args named w) fun v => deeds caller called rounds (next v)
  | .tell e next => fun w =>
    tellDeeds caller called e none w ++
      deedsThen (PageObjects.tell caller e none w) fun _ => deeds caller called rounds next
  | .attempt body next => fun w =>
    let r := run caller rounds body w
    deeds caller called rounds body w ++ deeds caller called rounds (next r.1) r.2
  | .phase p body next => fun w =>
    p.deeds caller called (run caller rounds body) (deeds caller called rounds body) w ++
      deedsThen (p.around caller (run caller rounds body) w) fun b => deeds caller called rounds (next b)
  | .await p check next => fun w =>
    repeatDeeds (w.scene.clock + p.timeout) p.interval (run caller rounds check)
        (deeds caller called rounds check) rounds w ++
      deedsThen (repeatCheck (w.scene.clock + p.timeout) p.interval (run caller rounds check) rounds w)
        fun v => deeds caller called rounds (next v)

/-- What comes after a part of a run starts where the deeds of that part end. -/
theorem andThen_world {α β : Type} (r : Result α) {run : α → World → Result β} {next : α → World → List Deed}
    (h : ∀ a w, (run a w).2 = w.after (next a w)) :
    (Prog.andThen r run).2 = r.2.after (deedsThen r next) := by
  rcases r with ⟨_ | a, w⟩
  · rfl
  · exact h a w

section Lines

variable {caller : Caller} {called : Called}
  (h : ∀ f args named w, (caller f args named w).2 = w.after (called f args named w))

include h

/-- To ask for texts leaves the world that its deeds leave, if calls do. -/
theorem Asking.run_world {α : Type} (p : Asking α) (w : World) :
    (p.run caller w).2 = w.after (p.deeds caller called w) := by
  induction p generalizing w with
  | done a => rfl
  | fail fault => rfl
  | look f next ih => exact ih _ w
  | call f args next ih =>
    rw [Asking.run, Asking.deeds, World.after_append, ← h]
    exact andThen_world _ ih

/-- To find the text of a context leaves the world that its deeds leave, if calls do. -/
theorem Log.Entry.tail_world (e : Log.Entry) (w : World) :
    (e.tail caller w).2 = w.after (e.tailDeeds caller called w) := by
  unfold tail tailDeeds
  split
  · exact Asking.run_world h _ w
  · rfl

/-- To log a line leaves the world that its deeds leave, if calls do. -/
theorem tell_world (e : Log.Entry) (mark : Option Log.Mark) (w : World) :
    (tell caller e mark w).2 = w.after (tellDeeds caller called e mark w) := by
  unfold tell tellDeeds
  split
  · rw [World.after_append, ← e.tail_world h]
    exact andThen_world _ fun _ _ => rfl
  · rfl

/-- The end of a phase leaves the world that its deeds leave, if calls do. -/
theorem Phase.finish_world {α : Type} (p : Phase) (limit : Value) (start : Float) (r : Result α) :
    (p.finish caller limit start r).2 = r.2.after (p.closingDeeds caller called limit start r) := by
  have htold : ∀ e mark (answer : Except Raised α) w,
      (Prog.andThen (tell caller e mark w) fun _ w => (answer, w)).2 = w.after (tellDeeds caller called e mark w) := by
    intro e mark answer w
    rw [← tell_world h]
    rcases tell caller e mark w with ⟨_ | _, w'⟩ <;> rfl
  obtain ⟨answer, w⟩ := r
  cases answer with
  | error fault =>
    simp only [finish, closingDeeds]
    split
    · exact htold _ _ _ _
    · rfl
  | ok a =>
    simp only [finish, closingDeeds]
    cases reaches (w.scene.clock - start) limit with
    | ok slow => exact htold _ _ _ _
    | error fault => rfl

/-- A phase leaves the world that its deeds leave, if its body and calls do. -/
theorem Phase.around_world {α : Type} (p : Phase) {body : World → Result α} {inside : World → List Deed}
    (hbody : ∀ w, (body w).2 = w.after (inside w)) (w : World) :
    (p.around caller body w).2 = w.after (p.deeds caller called body inside w) := by
  simp only [around, Phase.deeds]
  split
  · rw [World.after_append, ← tell_world h]
    refine andThen_world _ fun _ w' => ?_
    rw [finish_world h, World.after_append, hbody]
  · rfl

end Lines

/-- A check that is repeated leaves the world that its deeds leave, if one check does. -/
theorem repeatCheck_world (deadline : Float) (interval : Value) {check : World → Result (Option Value)}
    {once : World → List Deed} (h : ∀ w, (check w).2 = w.after (once w)) (n : Nat) (w : World) :
    (repeatCheck deadline interval check n w).2 = w.after (repeatDeeds deadline interval check once n w) := by
  induction n generalizing w with
  | zero => rfl
  | succ n ih =>
    simp only [repeatCheck, repeatDeeds, World.after_append, ← h w]
    generalize check w = r
    obtain ⟨answer, w'⟩ := r
    simp only
    rcases checked answer with fault | (_ | v)
    · rfl
    · simp only
      split
      · rfl
      · rw [World.after_cons]
        simp only [Deed.perform, Op.run, World.withScene]
        rcases w'.scene.sleep interval with ⟨_ | v, s⟩
        · rfl
        · exact ih _
    · rfl

/-- A run of a program leaves the world that its deeds leave, if calls do. -/
theorem Prog.run_world {caller : Caller} {called : Called} {rounds : Nat}
    (h : ∀ f args named w, (caller f args named w).2 = w.after (called f args named w)) {α : Type}
    (p : Prog α) (w : World) : (p.run caller rounds w).2 = w.after (p.deeds caller called rounds w) := by
  induction p generalizing w with
  | done a => rfl
  | fail r => rfl
  | perform op next ih =>
    simp only [run, deeds, World.after_cons]
    exact ih _ _
  | invoke f args named next ih =>
    simp only [run, deeds, World.after_append, ← h]
    exact andThen_world _ ih
  | tell e next ih =>
    simp only [run, deeds, World.after_append, ← tell_world h]
    exact andThen_world _ fun _ => ih
  | attempt body next ihbody ih =>
    simp only [run, deeds, World.after_append, ← ihbody]
    exact ih _ _
  | phase p body next ihbody ih =>
    simp only [run, deeds, World.after_append, ← p.around_world h ihbody]
    exact andThen_world _ ih
  | await p check next ihcheck ih =>
    simp only [run, deeds, World.after_append, ← repeatCheck_world _ _ ihcheck]
    exact andThen_world _ ih

/-! ## Calls and scripts -/

/-- What a call does, with a bound on the depth of calls. -/
def callDeeds (rounds : Nat) : (depth : Nat) → Called
  | 0, _, _, _, _ => []
  | depth + 1, f, args, named, w =>
    (Prog.enter f args named).deeds (callAt rounds depth) (callDeeds rounds depth) rounds w

/-- A call leaves the world that its deeds leave. -/
theorem callAt_world (rounds depth : Nat) (f : Value) (args : List Value) (named : Named) (w : World) :
    (callAt rounds depth f args named w).2 = w.after (callDeeds rounds depth f args named w) := by
  induction depth generalizing f args named w with
  | zero => rfl
  | succ depth ih => exact Prog.run_world ih _ w

/-- What a step of a script does. -/
def Step.deeds (step : Step) (w : World) : List Deed :=
  .renew :: (Prog.ofStep step).deeds (callAt usualRounds usualDepth) (callDeeds usualRounds usualDepth)
    usualRounds w.renewed

/-- A step of a script leaves the world that its deeds leave. -/
theorem runStep_world (step : Step) (w : World) : (runStep step w).2 = w.after (step.deeds w) := by
  rw [Step.deeds, World.after_cons]
  exact Prog.run_world (callAt_world _ _) _ _

/-- The world that a script leaves. -/
def worldAfter : List Step → World → World
  | [], w => w
  | step :: rest, w => worldAfter rest (runStep step w).2

/-- What a script does. -/
def scriptDeeds : List Step → World → List Deed
  | [], _ => []
  | step :: rest, w => step.deeds w ++ scriptDeeds rest (runStep step w).2

/-- A script leaves the world that its deeds leave. -/
theorem script_world (steps : List Step) (w : World) :
    worldAfter steps w = w.after (scriptDeeds steps w) := by
  induction steps generalizing w with
  | nil => rfl
  | cons step rest ih =>
    rw [worldAfter, scriptDeeds, World.after_append, ← runStep_world]
    exact ih _

end PageObjects
