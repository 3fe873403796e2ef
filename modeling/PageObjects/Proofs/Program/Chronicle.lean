import PageObjects.Proofs.Program.Deeds

/-!
# What happens in a run

The chronicle of a run says what happens in it, one thing after the other, and what
happens inside of what: in calls, in phases, and when the texts are found that a line of
the log shows.  It is read off the run itself.

Main definitions:

- `Happening`: one thing that happens.
- `Chronicle`: what happens, as a tree.
- `Prog.chronicle`, `callChronicle`, `Step.chronicle`, `scriptChronicle`: what happens in
  the runs of programs, calls, steps and scripts.
- `Chronicle.Given`, `Chronicle.Unmoved`: the texts of all lines are found, and nothing else
  is done to find them.

Main results:

- Theorem `Prog.chronicle_bind`: what happens in a program that goes on.
-/

namespace PageObjects

/-- One thing that happens in a run: an operation, a call with the world before it and what it
comes to, a line of the log with the text that its context comes to, or a phase with the faults
that its body and the phase end with. -/
inductive Happening where
  | performed {β : Type} (o : Op β)
  | called (f : Value) (args : List Value) (named : Named) (before : World) (r : Result Value)
  | told (e : Log.Entry) (before : World) (tail : Result String)
  | timed (p : Phase) (stage left : Option Raised)

/-- The world in which the text of a line is found, if one is, and what that comes to. -/
def Happening.told? : Happening → Option (World × Result String)
  | .told _ before tail => some (before, tail)
  | _ => none

/-- What happens, and what happens inside of it. -/
inductive Chronicle where
  | done
  | node (h : Happening) (inside rest : Chronicle)

/-- The fault of a result, if it is one. -/
def raised? {α : Type} : Except Raised α → Option Raised
  | .ok _ => none
  | .error r => some r

namespace Chronicle

/-- One chronicle after another. -/
def append : Chronicle → Chronicle → Chronicle
  | .done, c => c
  | .node h inside rest, c => .node h inside (rest.append c)

instance : Append Chronicle := ⟨append⟩

@[simp] theorem node_append (h : Happening) (inside rest c : Chronicle) :
    .node h inside rest ++ c = .node h inside (rest ++ c) := rfl

theorem append_assoc (c c' c'' : Chronicle) : c ++ c' ++ c'' = c ++ (c' ++ c'') := by
  induction c with
  | done => rfl
  | node h inside rest _ ih => simp only [node_append, ih]

/-- All that happens, also inside of other things. -/
def happenings : Chronicle → List Happening
  | .done => []
  | .node h inside rest => h :: (inside.happenings ++ rest.happenings)

@[simp] theorem happenings_append (c c' : Chronicle) : (c ++ c').happenings = c.happenings ++ c'.happenings := by
  induction c with
  | done => rfl
  | node h inside rest _ ih => simp only [node_append, happenings, ih, List.cons_append, List.append_assoc]

/-- What happens after a part of a run, if that part has an answer. -/
def following {α : Type} (r : Result α) (next : α → World → Chronicle) : Chronicle :=
  match r with
  | (.ok a, w) => next a w
  | (.error _, _) => .done

theorem following_andThen {α β : Type} (r : Result α) {run : α → World → Result β}
    {first both : α → World → Chronicle} {next : β → World → Chronicle}
    (h : ∀ a w, both a w = first a w ++ following (run a w) next) :
    following r both = following r first ++ following (Prog.andThen r run) next := by
  rcases r with ⟨_ | a, w⟩
  · rfl
  · exact h a w

/-- The worlds in which the texts of lines are found, and what that comes to. -/
def told (c : Chronicle) : List (World × Result String) := c.happenings.filterMap Happening.told?

/-- The texts of all lines are found. -/
def Given (c : Chronicle) : Prop := ∀ t ∈ c.told, t.2.1.isOk = true

/-- The texts of all lines are found, and nothing else is done. -/
def Unmoved (c : Chronicle) : Prop := ∀ t ∈ c.told, ∃ text, t.2 = (.ok text, t.1)

@[simp] theorem told_append (c c' : Chronicle) : (c ++ c').told = c.told ++ c'.told := by
  simp only [told, happenings_append, List.filterMap_append]

theorem told_node (h : Happening) (inside rest : Chronicle) :
    (node h inside rest).told = h.told?.toList ++ (inside.told ++ rest.told) := by
  simp only [told, happenings, List.filterMap_cons, List.filterMap_append]
  cases h.told? <;> rfl

theorem given_append {c c' : Chronicle} : (c ++ c').Given ↔ c.Given ∧ c'.Given := by
  simp only [Given, told_append, List.forall_mem_append]

theorem given_node {h : Happening} {inside rest : Chronicle} :
    (node h inside rest).Given ↔ (∀ t, h.told? = some t → t.2.1.isOk = true) ∧ inside.Given ∧ rest.Given := by
  simp only [Given, told_node, List.forall_mem_append, Option.mem_toList]

theorem unmoved_append {c c' : Chronicle} : (c ++ c').Unmoved ↔ c.Unmoved ∧ c'.Unmoved := by
  simp only [Unmoved, told_append, List.forall_mem_append]

theorem unmoved_node {h : Happening} {inside rest : Chronicle} :
    (node h inside rest).Unmoved ↔
      (∀ t, h.told? = some t → ∃ text, t.2 = (.ok text, t.1)) ∧ inside.Unmoved ∧ rest.Unmoved := by
  simp only [Unmoved, told_node, List.forall_mem_append, Option.mem_toList]

end Chronicle

open Chronicle (following)

/-! ## Programs -/

/-- What happens in a call. -/
abbrev CallChronicle := Value → List Value → Named → World → Chronicle

section Lines

variable (caller : Caller) (called : CallChronicle)

/-- What happens when texts are asked for. -/
def Asking.chronicle {α : Type} : Asking α → World → Chronicle
  | .done _ => fun _ => .done
  | .fail _ => fun _ => .done
  | .look f next => fun w => .node (.performed (.view f)) .done (chronicle (next (f w.scene)) w)
  | .call f args next => fun w =>
    .node (.called f args [] w (caller f args [] w)) (called f args [] w)
      (following (caller f args [] w) fun v => chronicle (next v))

/-- What happens when the text of the context of an entry is found. -/
def Log.Entry.tailChronicle (e : Log.Entry) (w : World) : Chronicle :=
  if w.journal.policy.includeContext then (Asking.context e.context).chronicle caller called w else .done

/-- What happens when a line is logged. -/
def tellChronicle (e : Log.Entry) (w : World) : Chronicle :=
  if e.gate.opens w.journal.policy.mode then
    .node (.told e w (e.tail caller w)) (e.tailChronicle caller called w) .done
  else .done

/-- What happens at the end of a phase. -/
def Phase.closingChronicle {α : Type} (p : Phase) (limit : Value) (start : Float) (r : Result α) : Chronicle :=
  let elapsed := r.2.scene.clock - start
  match r.1 with
  | .error _ => if admits p.fullContext ["failed"] then tellChronicle caller called (p.failure elapsed) r.2 else .done
  | .ok _ =>
    match reaches elapsed limit with
    | .ok slow => tellChronicle caller called (p.success elapsed slow) r.2
    | .error _ => .done

/-- What happens in a phase; `inside` is what happens in its body. -/
def Phase.chronicle {α : Type} (p : Phase) (body : World → Result α) (inside : World → Chronicle) (w : World) :
    Chronicle :=
  if admits p.fullContext [] then
    tellChronicle caller called p.opening w ++
      following (tell caller p.opening (some p.openingMark) w) fun _ w' =>
        .node (.timed p (raised? (body w').1) (raised? (p.around caller body w).1))
          (inside w' ++ p.closingChronicle caller called (p.limit w.scene.settings) w.scene.clock (body w')) .done
  else .done

end Lines

/-- What happens in a check that is repeated; `once` is what happens in one check. -/
def repeatChronicle (deadline : Float) (interval : Value) (check : World → Result (Option Value))
    (once : World → Chronicle) : (n : Nat) → World → Chronicle
  | 0, _ => .done
  | n + 1, w =>
    once w ++
      match checked (check w).1 with
      | .ok none =>
        if (check w).2.scene.clock > deadline then .done
        else
          .node (.performed (.sleep interval)) .done
            (following (Op.run (.sleep interval) (check w).2) fun _ =>
              repeatChronicle deadline interval check once n)
      | _ => .done

/-- What happens in the run of a program. -/
def Prog.chronicle (caller : Caller) (called : CallChronicle) (rounds : Nat) {α : Type} :
    Prog α → World → Chronicle
  | .done _ => fun _ => .done
  | .fail _ => fun _ => .done
  | .perform op next => fun w =>
    let r := op.run w
    .node (.performed op) .done (chronicle caller called rounds (next r.1) r.2)
  | .invoke f args named next => fun w =>
    .node (.called f args named w (caller f args named w)) (called f args named w)
      (following (caller f args named w) fun v => chronicle caller called rounds (next v))
  | .tell e next => fun w =>
    tellChronicle caller called e w ++
      following (PageObjects.tell caller e none w) fun _ => chronicle caller called rounds next
  | .attempt body next => fun w =>
    let r := run caller rounds body w
    chronicle caller called rounds body w ++ chronicle caller called rounds (next r.1) r.2
  | .phase p body next => fun w =>
    p.chronicle caller called (run caller rounds body) (chronicle caller called rounds body) w ++
      following (p.around caller (run caller rounds body) w) fun b => chronicle caller called rounds (next b)
  | .await p check next => fun w =>
    repeatChronicle (w.scene.clock + p.timeout) p.interval (run caller rounds check)
        (chronicle caller called rounds check) rounds w ++
      following (repeatCheck (w.scene.clock + p.timeout) p.interval (run caller rounds check) rounds w)
        fun v => chronicle caller called rounds (next v)

/-- What happens in a program that goes on: what happens in its parts, in order. -/
theorem Prog.chronicle_bind {caller : Caller} {called : CallChronicle} {rounds : Nat} {α β : Type} (p : Prog α)
    (k : α → Prog β) (w : World) :
    (p.bind k).chronicle caller called rounds w =
      p.chronicle caller called rounds w ++
        following (p.run caller rounds w) fun a => (k a).chronicle caller called rounds := by
  induction p generalizing w with
  | done a => rfl
  | fail r => rfl
  | perform op next ih => simp only [bind, chronicle, run, ih, Chronicle.node_append]
  | invoke f args named next ih =>
    simp only [bind, chronicle, run, Chronicle.node_append, Chronicle.following_andThen _ fun v => ih v k]
  | tell e next ih =>
    simp only [bind, chronicle, run, Chronicle.append_assoc, Chronicle.following_andThen _ fun _ => ih k]
  | attempt body next _ ih => simp only [bind, chronicle, run, ih, Chronicle.append_assoc]
  | phase p body next _ ih =>
    simp only [bind, chronicle, run, Chronicle.append_assoc, Chronicle.following_andThen _ fun b => ih b k]
  | await p check next _ ih =>
    simp only [bind, chronicle, run, Chronicle.append_assoc, Chronicle.following_andThen _ fun v => ih v k]

/-! ## Calls and scripts -/

/-- What happens in a call, with a bound on the depth of calls. -/
def callChronicle (rounds : Nat) : (depth : Nat) → CallChronicle
  | 0, _, _, _, _ => .done
  | depth + 1, f, args, named, w =>
    (Prog.enter f args named).chronicle (callAt rounds depth) (callChronicle rounds depth) rounds w

/-- What happens in a step of a script. -/
def Step.chronicle (step : Step) (w : World) : Chronicle :=
  (Prog.ofStep step).chronicle (callAt usualRounds usualDepth) (callChronicle usualRounds usualDepth) usualRounds
    w.renewed

/-- What happens in a script. -/
def scriptChronicle : List Step → World → Chronicle
  | [], _ => .done
  | step :: rest, w => step.chronicle w ++ scriptChronicle rest (runStep step w).2

end PageObjects
