import PageObjects.Proofs.Program.Answers
import PageObjects.Proofs.Program.Frames

/-!
# Programs that run in parallel

Two programs run in parallel if their runs from one world end in one world, both with an
answer or both with a fault.  Something has to hold of the world all the time for that, and
the calls that are made must not put an end to it.

Main definitions:

- `SameEnd`: runs that end in one world.
- `Prog.Parallel`: programs that run in parallel.

Main results:

- Theorem `Prog.Parallel.bind`: programs that go on.
- Theorem `Prog.Modest.parallel`: a program beside itself.
-/

namespace PageObjects

/-- Two runs end in one world, with answers for which `P` holds while `I` still holds of the
world, or both with a fault. -/
inductive SameEnd {α β : Type} (I : World → Prop) (P : α → β → Prop) : Result α → Result β → Prop where
  | answered {a : α} {b : β} {w : World} : P a b → I w → SameEnd I P (.ok a, w) (.ok b, w)
  | failed {r s : Raised} {w : World} : SameEnd I P (.error r, w) (.error s, w)

namespace SameEnd

variable {α β : Type} {I : World → Prop} {P : α → β → Prop} {r : Result α} {s : Result β}

/-- A run ends as it does itself. -/
theorem refl {r : Result α} (h : I r.2) : SameEnd I Eq r r := by
  rcases r with ⟨fault | a, w⟩
  · exact .failed
  · exact .answered rfl h

theorem world (h : SameEnd I P r s) : r.2 = s.2 := by
  cases h <;> rfl

/-- Runs that end in one world have answers in the same cases. -/
theorem isOk (h : SameEnd I P r s) : r.1.isOk = s.1.isOk := by
  cases h <;> rfl

end SameEnd

namespace Prog

variable {caller : Caller} {called : CallChronicle} {rounds : Nat} {α β γ δ : Type} {I : World → Prop}

/-- From any world of which `I` holds the runs of two programs end in one world, if the calls
that are made leave `I` true. -/
def Parallel (caller : Caller) (called : CallChronicle) (rounds : Nat) (I : World → Prop) (p : Prog α) (q : Prog β)
    (P : α → β → Prop) : Prop :=
  ∀ w, I w → (p.chronicle caller called rounds w).Respects (fun before after => I before → I after) →
    SameEnd I P (p.run caller rounds w) (q.run caller rounds w)

section Parts

variable {p p' : Prog α} {q q' : Prog β} {P : α → β → Prop}

/-- Programs that go on run in parallel if what they go on with does. -/
theorem Parallel.bind {k : α → Prog γ} {l : β → Prog δ} {Q : γ → δ → Prop}
    (h : Parallel caller called rounds I p q P)
    (hk : ∀ a b, P a b → Parallel caller called rounds I (k a) (l b) Q) :
    Parallel caller called rounds I (p.bind k) (q.bind l) Q := by
  intro w hI hcalls
  obtain ⟨hfirst, hrest⟩ := respects_bind.mp hcalls
  have hend := h w hI hfirst
  rw [run_bind, run_bind]
  generalize p.run caller rounds w = r at hend hrest
  generalize q.run caller rounds w = s at hend
  cases hend with
  | answered hP hI' => exact hk _ _ hP _ hI' hrest
  | failed => exact .failed

theorem Parallel.ite {c : Prop} [Decidable c] (h : Parallel caller called rounds I p q P)
    (h' : Parallel caller called rounds I p' q' P) :
    Parallel caller called rounds I (if c then p else p') (if c then q else q') P := by
  by_cases hc : c
  · rwa [if_pos hc, if_pos hc]
  · rwa [if_neg hc, if_neg hc]

theorem parallel_done {a : α} {b : β} (h : P a b) : Parallel caller called rounds I (done a) (done b) P :=
  fun _ hI _ => .answered h hI

theorem parallel_fail (r s : Raised) : Parallel caller called rounds I (fail r) (fail s) P := fun _ _ _ => .failed

/-- Both programs see the same of the scene. -/
theorem parallel_view {f g : Scene → α} (h : ∀ w, I w → g w.scene = f w.scene) :
    Parallel caller called rounds I (view f) (view g) Eq := by
  intro w hI _
  rw [run_view, run_view, h w hI]
  exact .answered rfl hI

end Parts

/-- A modest program runs in parallel with itself, if what holds of a world holds of all worlds that
keep what it has. -/
theorem Modest.parallel {p : Prog α} (hp : p.Modest) (hI : ∀ w w' : World, w.Keeps w' → I w → I w') :
    Parallel caller called rounds I p p Eq := by
  intro w hw hcalls
  have hframing : Framing fun before after => I before → I after :=
    ⟨fun hkeeps => hI _ _ hkeeps, fun h h' hw => h' (h hw)⟩
  exact .refl (run_framed hframing hp w hcalls hw)

end Prog

end PageObjects
