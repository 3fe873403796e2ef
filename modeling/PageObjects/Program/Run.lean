import PageObjects.Decimal.Layout
import PageObjects.Program.Basic

/-!
# Running programs

How a program runs in a world.  What it means to call a value is left open: it
is given as a function.

A line of the log shows the values of its context.  Their texts are found when the
line is logged, and only if it is and lines show their contexts; if one of them
cannot be found, what is being logged fails with the same fault.

A phase logs its start and its end, with the time that has passed.  Its context
may not repeat what the log line sets itself.  A check is repeated until it is
satisfied or the time is over; while it waits, faults that say that an element
is not there, or not there any more, count as not satisfied.

Main definitions:

- `Caller`: what it means to call a value.
- `Asking.run`: the run of a program that asks for texts.
- `tell`: a line that is logged during a run.
- `Phase.around`: a run with its phase records.
- `repeatCheck`: a check that is repeated.
- `Prog.run`: the run of a program.

Main results:

- Theorem `Prog.run_bind`: a program that goes on runs its parts in order.
-/

namespace PageObjects

/-- The answer or the fault of a run, and the world after it. -/
abbrev Result (α : Type) := Except Raised α × World

/-- What it means to call a value. -/
abbrev Caller := Value → List Value → Named → World → Result Value

namespace Prog

/-- Go on with the answer of a run. -/
def andThen {α β : Type} (r : Result α) (next : α → World → Result β) : Result β :=
  match r with
  | (.ok a, w) => next a w
  | (.error r, w) => (.error r, w)

end Prog

/-- The run of a program that asks for texts. -/
def Asking.run (caller : Caller) {α : Type} : Asking α → World → Result α
  | .done a => fun w => (.ok a, w)
  | .fail fault => fun w => (.error { fault }, w)
  | .look f next => fun w => run caller (next (f w.scene)) w
  | .call f args next => fun w => Prog.andThen (caller f args [] w) fun v => run caller (next v)

/-! ## Lines of the log -/

section Lines

open Prog (andThen)

/-- The text of the context of an entry, if lines show their contexts. -/
def Log.Entry.tail (caller : Caller) (e : Log.Entry) (w : World) : Result String :=
  if w.journal.policy.includeContext then (Asking.context e.context).run caller w else (.ok "", w)

/-- A line that is logged during a run, as the policy has it when it is begun. -/
def tell (caller : Caller) (e : Log.Entry) (mark : Option Log.Mark) (w : World) : Result Unit :=
  if e.gate.opens w.journal.policy.mode then
    andThen (e.tail caller w) fun tail w' => (.ok (), w'.keep (e.recordWith mark tail))
  else (.ok (), w)

end Lines

/-! ## Phases -/

namespace Phase

open Prog (andThen)

/-- The context of the records of a phase. -/
def fullContext (p : Phase) : Log.Context := Log.Context.merge [("a", p.label.value)] p.context

/-- The names that a log line sets itself. -/
def fixedNames : List String := ["cat", "msg", "level"]

/-- Whether a context may be logged with further fixed names. -/
def admits (ctx : Log.Context) (further : List String) : Bool :=
  ctx.all fun e => !(fixedNames ++ further).contains e.1

/-- The record that opens a phase. -/
def opening (p : Phase) : Log.Entry :=
  { gate := .signal, level := 10, category := p.category
    message := "START phase: " ++ p.label.text, context := p.fullContext }

/-- The mark of that record. -/
def openingMark (p : Phase) : Log.Mark := .opening p.subject p.label.text

/-- The context of the record that closes a phase. -/
def closingContext (p : Phase) (elapsed : Float) : Log.Context :=
  p.fullContext.put "elapsed_s" (.ofFloat (Decimal.rounded 3 elapsed))

/-- The record that closes a phase that failed. -/
def failure (p : Phase) (elapsed : Float) : Log.Entry :=
  { gate := .signal, level := 30, category := p.category
    message := "END phase: " ++ p.label.text ++ " (failed after " ++ Decimal.fixed 2 elapsed ++ " seconds)"
    context := (p.closingContext elapsed).put "failed" (.bool true) }

/-- The record that closes a phase that took too long, or did not. -/
def success (p : Phase) (elapsed : Float) (slow : Bool) : Log.Entry :=
  { gate := .signal, level := if slow then 30 else 10, category := p.category
    message := "END phase: " ++ p.label.text ++ (if slow then " (slow, " else " (")
      ++ Decimal.fixed 2 elapsed ++ " seconds)"
    context := p.closingContext elapsed }

/-- The mark of the record that closes a phase. -/
def closingMark (p : Phase) (failed : Bool) : Log.Mark := .closing p.subject p.label.text failed

/-- Whether a time reaches a whole number of seconds, compared exactly. -/
def reachesWhole (elapsed : Float) (n : Int) : Bool :=
  match Decimal.reading elapsed with
  | .finite negative v =>
    let whole : Int := if negative then -(v.num : Int) else v.num
    n * (v.den : Int) ≤ whole
  | .infinite negative => !negative
  | .notANumber => false

/-- Whether a time reaches a limit; a limit has to be a number. -/
def reaches (elapsed : Float) (limit : Value) : Except Fault Bool :=
  match limit with
  | .float x => .ok (elapsed ≥ x)
  | .bool b => .ok (elapsed ≥ if b then 1 else 0)
  | .int n => .ok (reachesWhole elapsed n)
  | .nan _ => .ok false
  | _ => .error .wrongType

/-- The limit of a phase: its own, or the one that is set. -/
def limit (p : Phase) (s : Settings) : Value := if p.slow.isNone then s.slowPhase else p.slow

/-- The end of a phase. -/
def finish {α : Type} (p : Phase) (caller : Caller) (limit : Value) (start : Float) (r : Result α) : Result α :=
  let elapsed := r.2.scene.clock - start
  match r.1 with
  | .error fault =>
    if admits p.fullContext ["failed"] then
      andThen (tell caller (p.failure elapsed) (some (p.closingMark true)) r.2) fun _ w => (.error fault, w)
    else (.error { fault := .wrongType }, r.2)
  | .ok a =>
    match reaches elapsed limit with
    | .ok slow => andThen (tell caller (p.success elapsed slow) (some (p.closingMark false)) r.2) fun _ w => (.ok a, w)
    | .error fault => (.error { fault }, r.2)

/-- A run with its phase records. -/
def around {α : Type} (p : Phase) (caller : Caller) (body : World → Result α) (w : World) : Result α :=
  if admits p.fullContext [] then
    andThen (tell caller p.opening (some p.openingMark) w) fun _ w' =>
      p.finish caller (p.limit w.scene.settings) w.scene.clock (body w')
  else (.error { fault := .wrongType }, w)

end Phase

/-! ## Waiting -/

/-- Whether a fault only says that an element is not there, or not there any more. -/
def FaultKind.isAbsence (k : FaultKind) : Bool := k == .noSuchElement || k == .staleElement

/-- The verdict on a check: satisfied, to be repeated, or ended by a fault. -/
def checked : Except Raised (Option Value) → Except Raised (Option Value)
  | .ok v => .ok v
  | .error r => if r.kind.isAbsence then .ok none else .error r

/-- A check that is repeated, `n` times at most. -/
def repeatCheck (deadline : Float) (interval : Value) (check : World → Result (Option Value)) :
    (n : Nat) → World → Result Value
  | 0, w => (.error { fault := .tooDeep }, w)
  | n + 1, w =>
    let (r, w) := check w
    match checked r with
    | .error r => (.error r, w)
    | .ok (some v) => (.ok v, w)
    | .ok none =>
      if w.scene.clock > deadline then (.error { fault := .timedOut }, w)
      else
        match w.scene.sleep interval with
        | (.ok _, s) => repeatCheck deadline interval check n { w with scene := s }
        | (.error r, s) => (.error r, { w with scene := s })

/-! ## Runs -/

namespace Prog

/-- The run of a program.  A check is repeated `rounds` times at most. -/
def run (caller : Caller) (rounds : Nat) {α : Type} : Prog α → World → Result α
  | .done a => fun w => (.ok a, w)
  | .fail r => fun w => (.error r, w)
  | .perform op next => fun w =>
    let r := op.run w
    run caller rounds (next r.1) r.2
  | .invoke f args named next => fun w =>
    andThen (caller f args named w) fun v => run caller rounds (next v)
  | .tell e next => fun w => andThen (PageObjects.tell caller e none w) fun _ => run caller rounds next
  | .attempt body next => fun w =>
    let r := run caller rounds body w
    run caller rounds (next r.1) r.2
  | .phase p body next => fun w =>
    andThen (p.around caller (run caller rounds body) w) fun b => run caller rounds (next b)
  | .await p check next => fun w =>
    andThen
      (repeatCheck (w.scene.clock + p.timeout) p.interval (run caller rounds check) rounds w)
      fun v => run caller rounds (next v)

/-- A program that goes on runs its parts in order. -/
theorem run_bind {caller : Caller} {rounds : Nat} {α β : Type} (p : Prog α) (k : α → Prog β) (w : World) :
    run caller rounds (p.bind k) w = andThen (run caller rounds p w) fun a => run caller rounds (k a) := by
  induction p generalizing w with
  | done a => rfl
  | fail r => rfl
  | perform op next ih => simp only [bind, run, ih]
  | invoke f args named next ih =>
    simp only [bind, run]
    rcases caller f args named w with ⟨_ | v, w'⟩ <;> simp [andThen, ih]
  | tell e next ih =>
    simp only [bind, run]
    rcases PageObjects.tell caller e none w with ⟨_ | v, w'⟩ <;> simp [andThen, ih]
  | attempt body next _ ih => simp only [bind, run, ih]
  | phase p body next _ ih =>
    simp only [bind, run]
    rcases p.around caller (run caller rounds body) w with ⟨_ | v, w'⟩ <;> simp [andThen, ih]
  | await p check next _ ih =>
    simp only [bind, run]
    rcases repeatCheck (w.scene.clock + p.timeout) p.interval (run caller rounds check) rounds w with
      ⟨_ | v, w'⟩ <;> simp [andThen, ih]

@[simp] theorem run_done {caller : Caller} {rounds : Nat} {α : Type} (a : α) (w : World) :
    run caller rounds (.done a) w = (.ok a, w) := rfl

@[simp] theorem run_fail {caller : Caller} {rounds : Nat} {α : Type} (r : Raised) (w : World) :
    run caller rounds (.fail r : Prog α) w = (.error r, w) := rfl

@[simp] theorem run_op {caller : Caller} {rounds : Nat} {β : Type} (o : Op β) (w : World) :
    run caller rounds (op o) w = (.ok (o.run w).1, (o.run w).2) := rfl

end Prog

end PageObjects
