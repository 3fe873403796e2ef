import PageObjects.Program.Run

/-!
# Lines that are logged at once

Many lines show texts and truth values only, and are logged without anything else being
done.  Others show values whose texts are found without anything else being done.  A
phase with such lines ends as its body does.

Main definitions:

- `World.write`: a world in which a line with a plain context has been logged.
- `Log.Context.Speaks`: the texts that a context shows are found, and nothing else is done.

Main results:

- Theorem `Asking.run_bind`: a program that goes on runs its parts in order.
- Theorem `tell_of_plain`: lines with plain contexts are logged at once.
- Theorem `tell_of_speaks`: lines whose texts are found are logged, and nothing else is done.
- Theorem `Phase.around_speaks`, `Phase.finish_failed` and `Phase.finish_done`: a phase whose
  texts are found.
-/

namespace PageObjects

open Prog (andThen)

namespace Assoc

variable {α β : Type} [BEq α]

/-- What is put under a key is all that comes to a list of entries. -/
theorem mem_put {key : α} {value : β} {entries : List (α × β)} {e : α × β} (h : e ∈ put key value entries) :
    e.2 = value ∨ e ∈ entries := by
  induction entries with
  | nil =>
    obtain rfl := List.mem_singleton.mp h
    exact .inl rfl
  | cons first rest ih =>
    obtain ⟨k, v⟩ := first
    unfold put at h
    split at h
    · rcases List.mem_cons.mp h with rfl | h
      · exact .inl rfl
      · exact .inr (List.mem_cons_of_mem _ h)
    · rcases List.mem_cons.mp h with rfl | h
      · exact .inr List.mem_cons_self
      · exact (ih h).imp id fun h => List.mem_cons_of_mem _ h

end Assoc

/-! ## Asking for texts -/

/-- A program that goes on runs its parts in order. -/
theorem Asking.run_bind {caller : Caller} {α β : Type} (p : Asking α) (k : α → Asking β) (w : World) :
    (p.bind k).run caller w = andThen (p.run caller w) fun a => (k a).run caller := by
  induction p generalizing w with
  | done a => rfl
  | fail fault => rfl
  | look f next ih => exact ih _ w
  | call f args next ih =>
    simp only [bind, run]
    rcases caller f args [] w with ⟨_ | v, w'⟩
    · rfl
    · exact ih v w'

/-! ## Lines with plain contexts -/

/-- A word is shown without asking. -/
theorem Value.isPlain_of_word {v : Value} (h : v.word?.isSome = true) : v.isPlain = true := by
  cases v with
  | text | toggle | bindingKind => rfl
  | _ => cases h

/-- Log a line whose context is plain. -/
def Log.Journal.note (j : Log.Journal) (e : Log.Entry) (mark : Option Log.Mark) : Log.Journal :=
  if e.gate.opens j.policy.mode then
    j.write (e.recordWith mark (if j.policy.includeContext then e.context.plainText else ""))
  else j

/-- To log a line leaves the policy as it is. -/
@[simp] theorem Log.Journal.note_policy (j : Log.Journal) (e : Log.Entry) (mark : Option Log.Mark) :
    (j.note e mark).policy = j.policy := by
  unfold note
  split
  · exact Log.Journal.write_policy _ _
  · rfl

/-- A world in which a line has been logged whose context is plain. -/
def World.write (w : World) (e : Log.Entry) (mark : Option Log.Mark := none) : World :=
  { w with journal := w.journal.note e mark }

variable {caller : Caller} {w : World} {e : Log.Entry} {mark : Option Log.Mark}

/-- The text of a plain context is found at once. -/
theorem Log.Entry.tail_of_plain (h : e.context.Plain) :
    e.tail caller w = (.ok (if w.journal.policy.includeContext then e.context.plainText else ""), w) := by
  unfold tail
  split
  · rw [Asking.context_of_plain h]
    rfl
  · rfl

/-- Lines with plain contexts are logged at once. -/
theorem tell_of_plain (h : e.context.Plain) : tell caller e mark w = (.ok (), w.write e mark) := by
  rw [tell, Log.Entry.tail_of_plain h, World.write, Log.Journal.note]
  split <;> rfl

/-- What is put into a plain context is all that may not be plain. -/
theorem Log.Context.Plain.put {ctx : Log.Context} (h : ctx.Plain) {v : Value} (hv : v.isPlain = true) (name : String) :
    (ctx.put name v).Plain := by
  intro e he
  rcases Assoc.mem_put he with heq | hmem
  · rw [heq]
    exact hv
  · exact h e hmem

/-! ## Lines whose texts are found -/

namespace Log.Context

variable {ctx : Log.Context}

/-- If lines show their contexts, the texts of what a context shows are found in a world, and
nothing else is done. -/
def Speaks (caller : Caller) (w : World) (ctx : Log.Context) : Prop :=
  w.journal.policy.includeContext = true → ∀ e ∈ ctx, ∃ t, (Asking.formatted e.2).run caller w = (.ok t, w)

/-- Plain contexts speak. -/
theorem Plain.speaks (h : ctx.Plain) : ctx.Speaks caller w := by
  intro _ e he
  rw [Asking.formatted_of_plain (h e he)]
  exact ⟨_, rfl⟩

/-- What is put into a context that speaks is all that may not speak. -/
theorem Speaks.put (h : ctx.Speaks caller w) {v : Value} (hv : v.isPlain = true) (name : String) :
    (ctx.put name v).Speaks caller w := by
  intro hincluded e he
  rcases Assoc.mem_put he with heq | hmem
  · rw [heq, Asking.formatted_of_plain hv]
    exact ⟨_, rfl⟩
  · exact h hincluded e hmem

/-- The texts of values are found one after the other. -/
theorem run_fields (h : ∀ e ∈ ctx, ∃ t, (Asking.formatted e.2).run caller w = (.ok t, w)) :
    ∃ ts, (Asking.fields ctx).run caller w = (.ok ts, w) := by
  induction ctx with
  | nil => exact ⟨[], rfl⟩
  | cons entry rest ih =>
    obtain ⟨name, v⟩ := entry
    obtain ⟨t, ht⟩ := h _ List.mem_cons_self
    obtain ⟨ts, hts⟩ := ih fun e he => h e (List.mem_cons_of_mem _ he)
    refine ⟨field name t :: ts, ?_⟩
    rw [Asking.fields, Asking.bind_eq, Asking.run_bind, ht]
    show ((Asking.fields rest).bind _).run caller w = _
    rw [Asking.run_bind, hts]
    rfl

/-- The text of a context that speaks is found. -/
theorem Speaks.tail {e : Log.Entry} (h : e.context.Speaks caller w) : ∃ t, e.tail caller w = (.ok t, w) := by
  unfold Log.Entry.tail
  split
  · rename_i hincluded
    obtain ⟨ts, hts⟩ := run_fields fun e he => h hincluded e (mem_of_mem_shown he)
    refine ⟨joined ts, ?_⟩
    rw [Asking.context, Asking.bind_eq, Asking.run_bind, hts]
    rfl
  · exact ⟨"", rfl⟩

end Log.Context

/-- Lines whose texts are found are logged, and nothing else is done. -/
theorem tell_of_speaks (h : e.context.Speaks caller w) (mark : Option Log.Mark) :
    ∃ journal, tell caller e mark w = (.ok (), { w with journal }) := by
  obtain ⟨t, ht⟩ := h.tail
  rw [tell, ht]
  split
  · exact ⟨_, rfl⟩
  · exact ⟨w.journal, rfl⟩

namespace Phase

variable {α : Type} {p : Phase}

/-- The context of the record that closes a phase speaks if that of the phase does. -/
theorem closingContext_speaks (h : p.fullContext.Speaks caller w) (elapsed : Float) :
    (p.closingContext elapsed).Speaks caller w :=
  h.put (by unfold Value.ofFloat; split <;> rfl) _

/-- A phase whose texts are found opens. -/
theorem around_speaks (hadmits : admits p.fullContext [] = true) (h : p.fullContext.Speaks caller w) :
    ∃ journal, ∀ body : World → Result α, p.around caller body w =
      p.finish caller (p.limit w.scene.settings) w.scene.clock (body { w with journal }) := by
  obtain ⟨journal, htell⟩ := tell_of_speaks (e := p.opening) h (some p.openingMark)
  refine ⟨journal, fun body => ?_⟩
  rw [around, if_pos hadmits, htell]
  rfl

/-- A phase whose texts are found and whose body fails ends with the fault of its body. -/
theorem finish_failed (hadmits : admits p.fullContext ["failed"] = true) (h : p.fullContext.Speaks caller w)
    (limit : Value) (start : Float) (r : Raised) :
    ∃ journal, (p.finish caller limit start (.error r, w) : Result α) = (.error r, { w with journal }) := by
  obtain ⟨journal, htell⟩ := tell_of_speaks (e := p.failure (w.scene.clock - start))
    ((closingContext_speaks h _).put rfl _) (some (p.closingMark true))
  refine ⟨journal, ?_⟩
  simp only [finish, if_pos hadmits, htell]
  rfl

/-- A phase whose texts are found and whose body has an answer ends with that answer, if
its limit is a number. -/
theorem finish_done {slow : Bool} {limit : Value} {start : Float}
    (hreaches : reaches (w.scene.clock - start) limit = .ok slow) (h : p.fullContext.Speaks caller w) (a : α) :
    ∃ journal, p.finish caller limit start (.ok a, w) = (.ok a, { w with journal }) := by
  obtain ⟨journal, htell⟩ := tell_of_speaks (e := p.success (w.scene.clock - start) slow)
    (closingContext_speaks h _) (some (p.closingMark false))
  refine ⟨journal, ?_⟩
  simp only [finish, hreaches, htell]
  rfl

end Phase

end PageObjects
