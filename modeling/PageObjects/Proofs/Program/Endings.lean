import PageObjects.Proofs.Program.Answers

/-!
# How runs end

What holds at the end of a run: one thing if it ends with an answer, another if it ends
with a fault.  What a program comes to that goes on is put together from its parts.

Main definitions:

- `Prog.Ends`: what holds at the end of the run of a program.

Main results:

- Theorem `Prog.Ends.bind`: how a program ends that goes on.
-/

namespace PageObjects.Prog

/-- A run from a world ends with an answer and a world for which `Q` holds, or with a fault
and a world for which `E` holds. -/
def Ends (caller : Caller) (rounds : Nat) {α : Type} (p : Prog α) (w : World) (Q : α → World → Prop)
    (E : World → Prop) : Prop :=
  match p.run caller rounds w with
  | (.ok a, w') => Q a w'
  | (.error _, w') => E w'

section Ends

variable {caller : Caller} {rounds : Nat} {α β : Type} {p : Prog α} {w w' : World} {Q Q' : α → World → Prop}
  {E E' : World → Prop}

theorem ends_done {a : α} (h : Q a w) : (done a).Ends caller rounds w Q E := h

theorem ends_raise {fault : Fault} (h : E w) : (raise fault : Prog α).Ends caller rounds w Q E := h

/-- How a run ends that is known. -/
theorem Ends.of_run {a : α} (hrun : p.run caller rounds w = (.ok a, w')) (h : Q a w') : p.Ends caller rounds w Q E := by
  rw [Ends, hrun]
  exact h

/-- How a run ends that is known to fail. -/
theorem Ends.of_fail {r : Raised} (hrun : p.run caller rounds w = (.error r, w')) (h : E w') :
    p.Ends caller rounds w Q E := by
  rw [Ends, hrun]
  exact h

/-- What holds at the end of a run has weaker things hold there. -/
theorem Ends.mono (h : p.Ends caller rounds w Q E) (hQ : ∀ a w', Q a w' → Q' a w') (hE : ∀ w', E w' → E' w') :
    p.Ends caller rounds w Q' E' := by
  rw [Ends] at h ⊢
  rcases hrun : p.run caller rounds w with ⟨_ | a, w'⟩
  · rw [hrun] at h
    exact hE w' h
  · rw [hrun] at h
    exact hQ a w' h

/-- A program that goes on ends as what it goes on with does, or as its first part if that
fails. -/
theorem Ends.bind {k : α → Prog β} {R : β → World → Prop} (h : p.Ends caller rounds w Q E)
    (hk : ∀ a w', Q a w' → (k a).Ends caller rounds w' R E) : (p.bind k).Ends caller rounds w R E := by
  rw [Ends] at h ⊢
  rw [run_bind]
  rcases hrun : p.run caller rounds w with ⟨_ | a, w'⟩
  · rw [hrun] at h
    exact h
  · rw [hrun] at h
    exact hk a w' h

theorem ends_view_bind {f : Scene → α} {k : α → Prog β} {R : β → World → Prop}
    (h : (k (f w.scene)).Ends caller rounds w R E) : ((view f).bind k).Ends caller rounds w R E := h

/-- A run ends in the world that it leaves. -/
theorem ends_of_world {P : World → Prop} (h : P (p.run caller rounds w).2) :
    p.Ends caller rounds w (fun a w' => P w' ∧ p.run caller rounds w = (.ok a, w'))
      fun w' => P w' ∧ ∃ r, p.run caller rounds w = (.error r, w') := by
  rw [Ends]
  rcases hrun : p.run caller rounds w with ⟨r | a, w'⟩
  · rw [hrun] at h
    exact ⟨h, r, rfl⟩
  · rw [hrun] at h
    exact ⟨h, rfl⟩

/-- What is there is passed on without a trace. -/
theorem ends_ofOption (fault : Fault) (o : Option α) (w : World) :
    (ofOption fault o).Ends caller rounds w (fun a w' => o = some a ∧ w' = w) (· = w) := by
  cases o with
  | none => exact ends_raise rfl
  | some a => exact ends_done ⟨rfl, rfl⟩

/-- What holds in any case holds at the end. -/
theorem Ends.world {P : World → Prop} (h : p.Ends caller rounds w Q E) (hQ : ∀ a w', Q a w' → P w')
    (hE : ∀ w', E w' → P w') : P (p.run caller rounds w).2 := by
  rw [Ends] at h
  rcases hrun : p.run caller rounds w with ⟨_ | a, w'⟩
  · rw [hrun] at h
    exact hE w' h
  · rw [hrun] at h
    exact hQ a w' h

/-- What holds with an answer. -/
theorem Ends.answer {a : α} (h : p.Ends caller rounds w Q E) (hrun : p.run caller rounds w = (.ok a, w')) :
    Q a w' := by
  rwa [Ends, hrun] at h

/-- What holds with a fault. -/
theorem Ends.fault {r : Raised} (h : p.Ends caller rounds w Q E) (hrun : p.run caller rounds w = (.error r, w')) :
    E w' := by
  rwa [Ends, hrun] at h

end Ends

end PageObjects.Prog
