import PageObjects.Proofs.Catalog.Parsed
import PageObjects.Proofs.Program.Chronicle
import PageObjects.Proofs.Program.Quiet
import PageObjects.Proofs.Scene.Parts

/-!
# What programs leave alone

Most operations leave catalogs, collections, instances and files as they are, and only add to them.
A program that performs no others itself leaves alone what the calls leave alone that it
makes.  Those calls, each with the world before it and the world after it, are read off
the chronicle of a run.

Main definitions:

- `World.Keeps`: all catalogs, collections, instances and files are as they were.
- `Op.isModest`, `Prog.Modest`: operations, and programs, that keep them.
- `Chronicle.calls`: the calls that a run makes itself.
- `Resting`, `Framing`: relations of worlds for what is left alone.

Main results:

- Theorem `Op.run_keeps`: what operations keep.
- Theorem `Prog.run_framed` and `Prog.run_quiet`: what runs leave alone.
-/

namespace PageObjects

/-! ## Operations -/

/-- All catalogs, collections, instances and files are as they were; there may be more
catalogs, collections and instances. -/
structure World.Keeps (w w' : World) : Prop where
  catalogs : w.scene.catalogs <+: w'.scene.catalogs
  cells : w.scene.cells.Grows w'.scene.cells
  instances : w.scene.instances <+: w'.scene.instances
  files : w'.scene.files = w.scene.files

namespace World.Keeps

variable {w w' w'' : World}

theorem refl (w : World) : w.Keeps w := ⟨List.prefix_rfl, .refl _, List.prefix_rfl, rfl⟩

/-- To change nothing of them keeps them. -/
theorem of_eq (hcatalogs : w'.scene.catalogs = w.scene.catalogs) (hcells : w'.scene.cells = w.scene.cells)
    (hinstances : w'.scene.instances = w.scene.instances) (hfiles : w'.scene.files = w.scene.files) : w.Keeps w' :=
  ⟨hcatalogs ▸ List.prefix_rfl, hcells ▸ .refl _, hinstances ▸ List.prefix_rfl, hfiles⟩

/-- To touch nothing but the browser keeps them. -/
theorem of_browses (h : w.scene.Browses w'.scene) : w.Keeps w' := by
  obtain ⟨s', _⟩ := w'
  cases h
  exact .of_eq rfl rfl rfl rfl

/-- To touch nothing but definitions keeps them. -/
theorem of_redefines (h : w.scene.Redefines w'.scene) : w.Keeps w' := by
  obtain ⟨s', _⟩ := w'
  cases h
  exact .of_eq rfl rfl rfl rfl

end World.Keeps

/-- Operations that put nothing into a catalog, a collection or an instance and set up no file. -/
def Op.isModest {β : Type} : Op β → Bool
  | .register .. | .putCell .. | .setCells .. | .adjust .. | .setField .. | .setFields .. | .openLogFile .. => false
  | _ => true

/-- Modest operations keep all catalogs, collections, instances and files. -/
theorem Op.run_keeps {β : Type} {o : Op β} (h : o.isModest = true) (w : World) : w.Keeps (o.run w).2 := by
  cases o with
  | register | putCell | setCells | adjust | setField | setFields | openLogFile => cases h
  | useElement name u => exact .of_browses (w.scene.useElement_browses name u)
  | readTitle driver => exact .of_browses (w.scene.readTitle_browses driver)
  | search driver strategy target => exact .of_browses (Scene.search_browses _ w.scene driver strategy target)
  | visit driver address => exact .of_browses (w.scene.visit_browses driver address)
  | sleep seconds => exact .of_browses (w.scene.sleep_browses seconds)
  | makeCell c => exact ⟨List.prefix_rfl, .make _ c, List.prefix_rfl, rfl⟩
  | addCatalog c => exact ⟨List.prefix_append _ _, .refl _, List.prefix_rfl, rfl⟩
  | addInstance i => exact ⟨List.prefix_rfl, .refl _, List.prefix_append _ _, rfl⟩
  | declare n facts d => exact .of_redefines (w.change_redefines n _)
  | enter n e => exact .of_redefines (w.change_redefines n _)
  | lock n => exact .of_redefines (w.update_redefines n _)
  | writeTable n name value => exact .of_redefines (w.update_redefines n _)
  | _ => exact .of_eq rfl rfl rfl rfl

/-! ## Programs -/

namespace Prog

/-- Programs that perform modest operations only, but for what is called. -/
inductive Modest : {α : Type} → Prog α → Prop where
  | done {α : Type} (a : α) : Modest (.done a)
  | fail {α : Type} (r : Raised) : Modest (.fail r : Prog α)
  | perform {α β : Type} {o : Op β} {next : β → Prog α} :
      o.isModest = true → (∀ b, Modest (next b)) → Modest (.perform o next)
  | invoke {α : Type} {f : Value} {args : List Value} {named : Named} {next : Value → Prog α} :
      (∀ v, Modest (next v)) → Modest (.invoke f args named next)
  | tell {α : Type} {e : Log.Entry} {next : Prog α} : Modest next → Modest (.tell e next)
  | attempt {α β : Type} {body : Prog β} {next : Except Raised β → Prog α} :
      Modest body → (∀ r, Modest (next r)) → Modest (.attempt body next)
  | phase {α β : Type} {p : Phase} {body : Prog β} {next : β → Prog α} :
      Modest body → (∀ b, Modest (next b)) → Modest (.phase p body next)
  | await {α : Type} {p : Patience} {check : Prog (Option Value)} {next : Value → Prog α} :
      Modest check → (∀ v, Modest (next v)) → Modest (.await p check next)

namespace Modest

variable {α β : Type}

theorem raise (fault : Fault) : (Prog.raise fault : Prog α).Modest := .fail _

/-- A program that goes on is modest if its parts are. -/
theorem bind {p : Prog α} {k : α → Prog β} (hp : p.Modest) (hk : ∀ a, (k a).Modest) : (p.bind k).Modest := by
  induction hp with
  | done a => exact hk a
  | fail r => exact .fail r
  | perform ho _ ih => exact .perform ho fun b => ih b hk
  | invoke _ ih => exact .invoke fun v => ih v hk
  | tell _ ih => exact .tell (ih hk)
  | attempt hbody _ _ ih => exact .attempt hbody fun r => ih r hk
  | phase hbody _ _ ih => exact .phase hbody fun b => ih b hk
  | await hcheck _ _ ih => exact .await hcheck fun v => ih v hk

/-- Of two modest programs it does not matter which is chosen. -/
theorem ite {c : Prop} [Decidable c] {p q : Prog α} (hp : p.Modest) (hq : q.Modest) : (if c then p else q).Modest := by
  by_cases h : c
  · rwa [if_pos h]
  · rwa [if_neg h]

theorem op {o : Op β} (h : o.isModest = true) : (Prog.op o).Modest := .perform h .done

theorem view (f : Scene → β) : (Prog.view f).Modest := .op rfl

/-- A program that looks at the scene and goes on is modest if it goes on so. -/
theorem view_bind {f : Scene → α} {k : α → Prog β} (hk : ∀ a, (k a).Modest) : ((Prog.view f).bind k).Modest :=
  .bind (.view f) hk

theorem ofOption (fault : Fault) (o : Option α) : (Prog.ofOption fault o).Modest := by
  cases o with
  | none => exact .raise fault
  | some a => exact .done a

theorem ofFault (e : Except Fault α) : (Prog.ofFault e).Modest := by
  cases e with
  | error fault => exact .raise fault
  | ok a => exact .done a

theorem performing {o : Op (Except Raised α)} (h : o.isModest = true) : (Prog.performing o).Modest := by
  refine .perform h fun r => ?_
  cases r with
  | error r => exact .fail r
  | ok a => exact .done a

theorem silently {p : Prog α} (h : p.Modest) : (Prog.silently p).Modest := .bind h fun _ => .done _

theorem call (f : Value) (args : List Value) (named : Named) : (Prog.call f args named).Modest := .invoke .done

theorem log (e : Log.Entry) : (Prog.log e).Modest := .tell (.done _)

theorem logAll (es : List Log.Entry) : (Prog.logAll es).Modest := by
  induction es with
  | nil => exact .done _
  | cons e es ih => exact .bind (.log e) fun _ => ih

/-- A call of a member of an element or a driver is modest. -/
theorem directOp {f : Value} {args : List Value} {named : Named} {o : Op (Except Raised Value)}
    (h : directOp? f args named = some o) : o.isModest = true := by
  unfold directOp? at h
  split at h
  · obtain ⟨u, -, rfl⟩ := Option.map_eq_some_iff.mp h
    rfl
  · split at h <;> cases h
    rfl
  · split at h <;> cases h
    rfl
  · cases h

/-- A call is modest, whatever is called. -/
theorem callValue (f : Value) (args : List Value) (named : Named) : (Prog.callValue f args named).Modest := by
  unfold Prog.callValue
  split
  · rename_i o ho
    exact .performing (directOp ho)
  · exact .call f args named

end Modest

end Prog

/-! ## Texts -/

/-- A program that only looks, calls and logs is modest. -/
theorem Prog.Quiet.modest {α : Type} {p : Prog α} (h : p.Quiet) : p.Modest := by
  induction h with
  | done a => exact .done a
  | fail r => exact .fail r
  | look _ ih => exact .perform rfl ih
  | invoke _ ih => exact .invoke ih
  | tell _ ih => exact .tell ih

namespace Prog.Modest

/-- To show what a value consists of is modest. -/
theorem inspected (v : Value) : (Prog.inspected v).Modest := (Quiet.inspected v).modest

/-- To give the text of a value is modest. -/
theorem shown (v : Value) : (Prog.shown v).Modest := (Quiet.shown v).modest

/-- To give the text of a value in messages is modest. -/
theorem formatted (v : Value) : (Prog.formatted v).Modest := (Quiet.formatted v).modest

theorem labelled (v : Value) : (Prog.labelled v).Modest := .bind (formatted v) fun _ => .done _

theorem givenName (v : Value) : (Prog.givenName v).Modest := by
  exact .bind (labelled v) fun label => .ite (.done _) (.bind (inspected v) fun _ => .done _)

end Prog.Modest

/-! ## Runs -/

namespace Chronicle

/-- The calls that a run makes itself, each with the world before it and the world after it. -/
def calls : Chronicle → List (World × World)
  | .done => []
  | .node (.called _ _ _ before r) _ rest => (before, r.2) :: rest.calls
  | .node _ inside rest => inside.calls ++ rest.calls

@[simp] theorem calls_append (c c' : Chronicle) : (c ++ c').calls = c.calls ++ c'.calls := by
  induction c with
  | done => rfl
  | node h inside rest _ ih =>
    cases h with
    | called => simp only [node_append, calls, ih, List.cons_append]
    | _ => simp only [node_append, calls, ih, List.append_assoc]

/-- The calls that a run makes itself lead from worlds to related ones. -/
def Respects (c : Chronicle) (R : World → World → Prop) : Prop := ∀ call ∈ c.calls, R call.1 call.2

theorem respects_done (R : World → World → Prop) : Chronicle.done.Respects R := fun _ h => nomatch h

theorem respects_append {c c' : Chronicle} {R : World → World → Prop} :
    (c ++ c').Respects R ↔ c.Respects R ∧ c'.Respects R := by
  rw [Respects, calls_append, List.forall_mem_append]
  exact Iff.rfl

/-- A call leads from the world before it to a related one, if all calls do. -/
theorem Respects.call {f : Value} {args : List Value} {named : Named} {before : World} {r : Result Value}
    {inside rest : Chronicle} {R : World → World → Prop}
    (h : (node (.called f args named before r) inside rest).Respects R) : R before r.2 ∧ rest.Respects R :=
  ⟨h _ List.mem_cons_self, fun call hcall => h call (List.mem_cons_of_mem _ hcall)⟩

end Chronicle

/-- A relation of worlds for what is left alone: it holds between worlds with the same scene. -/
structure Resting (R : World → World → Prop) : Prop where
  scene : ∀ {w w'}, w'.scene = w.scene → R w w'
  trans : ∀ {w w' w''}, R w w' → R w' w'' → R w w''

namespace Resting

variable {R : World → World → Prop} {caller : Caller} {called : CallChronicle} {w : World}

theorem refl (hR : Resting R) (w : World) : R w w := hR.scene rfl

open Chronicle (following)

/-- What a part of a run leaves alone and what comes after it leaves alone is left alone by both. -/
theorem andThen (hR : Resting R) {α β : Type} {r : Result α} {run : α → World → Result β}
    {next : α → World → Chronicle} (hr : R w r.2) (hrest : (following r next).Respects R)
    (hnext : ∀ a w', (next a w').Respects R → R w' (run a w').2) : R w (Prog.andThen r run).2 := by
  rcases r with ⟨_ | a, w'⟩
  · exact hr
  · exact hR.trans hr (hnext a w' hrest)

/-- To ask for texts leaves alone what the calls leave alone. -/
theorem asking (hR : Resting R) {α : Type} (p : Asking α) (w : World)
    (hcalls : (p.chronicle caller called w).Respects R) : R w (p.run caller w).2 := by
  induction p generalizing w with
  | done a => exact hR.refl w
  | fail fault => exact hR.refl w
  | look f next ih => exact ih _ w hcalls
  | call f args next ih =>
    obtain ⟨hcall, hrest⟩ := Chronicle.Respects.call hcalls
    exact hR.andThen hcall hrest ih

/-- To log a line leaves alone what the calls leave alone. -/
theorem tell (hR : Resting R) (e : Log.Entry) (mark : Option Log.Mark) (w : World)
    (hcalls : (tellChronicle caller called e w).Respects R) : R w (PageObjects.tell caller e mark w).2 := by
  unfold PageObjects.tell tellChronicle at *
  by_cases hopens : e.gate.opens w.journal.policy.mode = true
  · rw [if_pos hopens] at hcalls ⊢
    have htail : R w (e.tail caller w).2 := by
      have hinside : (e.tailChronicle caller called w).Respects R :=
        fun call hcall => hcalls call (List.mem_append_left _ hcall)
      unfold Log.Entry.tail Log.Entry.tailChronicle at *
      split
      · rename_i hincluded
        rw [if_pos hincluded] at hinside
        exact hR.asking _ w hinside
      · exact hR.refl w
    rcases ht : e.tail caller w with ⟨_ | tail, w'⟩
    · rwa [ht] at htail
    · rw [ht] at htail
      exact hR.trans htail (hR.scene rfl)
  · rw [if_neg hopens]
    exact hR.refl w

end Resting

/-- A relation of worlds for what is left alone: it holds between worlds of which one keeps
all that the other has. -/
structure Framing (R : World → World → Prop) : Prop where
  keeps : ∀ {w w'}, w.Keeps w' → R w w'
  trans : ∀ {w w' w''}, R w w' → R w' w'' → R w w''

namespace Framing

variable {R : World → World → Prop} {caller : Caller} {called : CallChronicle} {w : World}

theorem refl (hR : Framing R) (w : World) : R w w := hR.keeps (.refl w)

/-- The same scene keeps all that there was. -/
theorem resting (hR : Framing R) : Resting R where
  scene h := hR.keeps (.of_eq (by rw [h]) (by rw [h]) (by rw [h]) (by rw [h]))
  trans := hR.trans

open Chronicle (following)

/-- What a part of a run leaves alone and what comes after it leaves alone is left alone by both. -/
theorem andThen (hR : Framing R) {α β : Type} {r : Result α} {run : α → World → Result β}
    {next : α → World → Chronicle} (hr : R w r.2) (hrest : (following r next).Respects R)
    (hnext : ∀ a w', (next a w').Respects R → R w' (run a w').2) : R w (Prog.andThen r run).2 :=
  hR.resting.andThen hr hrest hnext

/-- To log a line leaves alone what the calls leave alone. -/
theorem tell (hR : Framing R) (e : Log.Entry) (mark : Option Log.Mark) (w : World)
    (hcalls : (tellChronicle caller called e w).Respects R) : R w (PageObjects.tell caller e mark w).2 :=
  hR.resting.tell e mark w hcalls

/-- A line that is logged before a fault or an answer is handed on leaves alone what the
calls leave alone. -/
theorem told (hR : Framing R) {α : Type} (e : Log.Entry) (mark : Option Log.Mark) (w : World) (answer : Except Raised α)
    (hcalls : (tellChronicle caller called e w).Respects R) :
    R w (Prog.andThen (PageObjects.tell caller e mark w) fun _ w => (answer, w)).2 := by
  have htold := hR.tell e mark w hcalls
  rcases ht : PageObjects.tell caller e mark w with ⟨_ | _, w'⟩ <;> rwa [ht] at htold

/-- A phase leaves alone what its body and the calls leave alone. -/
theorem around (hR : Framing R) {α : Type} (p : Phase) {body : World → Result α} {inside : World → Chronicle}
    (hbody : ∀ w, (inside w).Respects R → R w (body w).2) (w : World)
    (hcalls : (p.chronicle caller called body inside w).Respects R) : R w (p.around caller body w).2 := by
  have hfinish : ∀ limit start (r : Result α),
      (p.closingChronicle caller called limit start r).Respects R →
        R r.2 (p.finish caller limit start r).2 := by
    rintro limit start ⟨fault | a, w⟩ hcalls
    · simp only [Phase.finish, Phase.closingChronicle] at hcalls ⊢
      split at hcalls
      · rename_i hadmits
        rw [if_pos hadmits]
        exact hR.told _ _ _ _ hcalls
      · rename_i hadmits
        rw [if_neg hadmits]
        exact hR.refl w
    · simp only [Phase.finish, Phase.closingChronicle] at hcalls ⊢
      cases hreaches : Phase.reaches (w.scene.clock - start) limit with
      | error fault => exact hR.refl w
      | ok slow =>
        rw [hreaches] at hcalls
        exact hR.told _ _ _ _ hcalls
  by_cases hadmits : Phase.admits p.fullContext [] = true
  · simp only [Phase.around, Phase.chronicle, if_pos hadmits] at hcalls ⊢
    obtain ⟨hopening, hrest⟩ := Chronicle.respects_append.mp hcalls
    refine hR.andThen (hR.tell _ _ w hopening) hrest fun _ w' hinside => ?_
    have hparts : (inside w' ++ p.closingChronicle caller called (p.limit w.scene.settings) w.scene.clock
        (body w')).Respects R := fun call hcall => hinside call (List.mem_append_left _ hcall)
    obtain ⟨hbodyCalls, hclosing⟩ := Chronicle.respects_append.mp hparts
    exact hR.trans (hbody w' hbodyCalls) (hfinish _ _ _ hclosing)
  · rw [Phase.around, if_neg hadmits]
    exact hR.refl w

/-- A check that is repeated leaves alone what one check leaves alone. -/
theorem repeatCheck (hR : Framing R) (deadline : Float) (interval : Value) {check : World → Result (Option Value)}
    {once : World → Chronicle} (hcheck : ∀ w, (once w).Respects R → R w (check w).2) (n : Nat) (w : World)
    (hcalls : (repeatChronicle deadline interval check once n w).Respects R) :
    R w (PageObjects.repeatCheck deadline interval check n w).2 := by
  induction n generalizing w with
  | zero => exact hR.refl w
  | succ n ih =>
    simp only [repeatChronicle] at hcalls
    obtain ⟨honce, hrest⟩ := Chronicle.respects_append.mp hcalls
    have hfirst : R w (check w).2 := hcheck w honce
    simp only [PageObjects.repeatCheck]
    generalize check w = r at hfirst hrest
    obtain ⟨answer, w'⟩ := r
    simp only at hfirst hrest ⊢
    rcases hchecked : checked answer with fault | (_ | v)
    · exact hfirst
    · simp only [hchecked] at hrest ⊢
      by_cases hlate : w'.scene.clock > deadline
      · rw [if_pos hlate]
        exact hfirst
      · rw [if_neg hlate] at hrest ⊢
        have hslept : R w' { w' with scene := (w'.scene.sleep interval).2 } :=
          hR.keeps (Op.run_keeps (o := .sleep interval) rfl w')
        simp only [Op.run, World.withScene] at hrest
        rcases hs : w'.scene.sleep interval with ⟨_ | v, s⟩
        · rw [hs] at hslept
          exact hR.trans hfirst hslept
        · rw [hs] at hslept hrest
          exact hR.trans hfirst (hR.trans hslept (ih _ hrest))
    · exact hfirst

end Framing

/-- The run of a modest program leaves alone what the calls leave alone that it makes. -/
theorem Prog.run_framed {R : World → World → Prop} (hR : Framing R) {caller : Caller} {called : CallChronicle}
    {rounds : Nat} {α : Type} {p : Prog α} (hp : p.Modest) (w : World)
    (hcalls : (p.chronicle caller called rounds w).Respects R) : R w (p.run caller rounds w).2 := by
  induction hp generalizing w with
  | done a => exact hR.refl w
  | fail r => exact hR.refl w
  | perform ho _ ih => exact hR.trans (hR.keeps (Op.run_keeps ho w)) (ih _ _ hcalls)
  | invoke _ ih =>
    obtain ⟨hcall, hrest⟩ := Chronicle.Respects.call hcalls
    exact hR.andThen hcall hrest ih
  | tell _ ih =>
    obtain ⟨htold, hrest⟩ := Chronicle.respects_append.mp hcalls
    exact hR.andThen (hR.tell _ none w htold) hrest fun _ => ih
  | attempt _ _ ihbody ih =>
    obtain ⟨hbody, hrest⟩ := Chronicle.respects_append.mp hcalls
    exact hR.trans (ihbody w hbody) (ih _ _ hrest)
  | phase _ _ ihbody ih =>
    obtain ⟨hphase, hrest⟩ := Chronicle.respects_append.mp hcalls
    exact hR.andThen (hR.around _ ihbody w hphase) hrest ih
  | await _ _ ihcheck ih =>
    obtain ⟨hchecks, hrest⟩ := Chronicle.respects_append.mp hcalls
    exact hR.andThen (hR.repeatCheck _ _ ihcheck rounds w hchecks) hrest ih

/-- The run of a program that only looks, calls and logs leaves alone what the calls leave alone. -/
theorem Prog.run_quiet {R : World → World → Prop} (hR : Resting R) {caller : Caller} {called : CallChronicle}
    {rounds : Nat} {α : Type} {p : Prog α} (hp : p.Quiet) (w : World)
    (hcalls : (p.chronicle caller called rounds w).Respects R) : R w (p.run caller rounds w).2 := by
  induction hp generalizing w with
  | done a => exact hR.refl w
  | fail r => exact hR.refl w
  | look _ ih => exact ih _ w hcalls
  | invoke _ ih =>
    obtain ⟨hcall, hrest⟩ := Chronicle.Respects.call hcalls
    exact hR.andThen hcall hrest ih
  | tell _ ih =>
    obtain ⟨htold, hrest⟩ := Chronicle.respects_append.mp hcalls
    exact hR.andThen (hR.tell _ none w htold) hrest fun _ => ih

/-- The calls of a program that goes on are those of its parts. -/
theorem Prog.respects_bind {R : World → World → Prop} {caller : Caller} {called : CallChronicle} {rounds : Nat}
    {α β : Type} {p : Prog α} {k : α → Prog β} {w : World} :
    ((p.bind k).chronicle caller called rounds w).Respects R ↔
      (p.chronicle caller called rounds w).Respects R ∧
        (Chronicle.following (p.run caller rounds w) fun a => (k a).chronicle caller called rounds).Respects R := by
  rw [chronicle_bind]
  exact Chronicle.respects_append

/-- To log a line with a plain context makes no calls. -/
theorem Prog.respects_log_of_plain {R : World → World → Prop} {caller : Caller} {called : CallChronicle} {rounds : Nat}
    {e : Log.Entry} (h : e.context.Plain) (w : World) : ((log e).chronicle caller called rounds w).Respects R := by
  have htail : e.tailChronicle caller called w = .done := by
    unfold Log.Entry.tailChronicle
    split
    · rw [Asking.context_of_plain h]
      rfl
    · rfl
  refine Chronicle.respects_append.mpr ⟨?_, ?_⟩
  · unfold tellChronicle
    split
    · rw [htail]
      exact Chronicle.respects_done R
    · exact Chronicle.respects_done R
  · rw [tell_of_plain h]
    exact Chronicle.respects_done R

/-- To look at what is there makes no calls. -/
theorem Prog.respects_view_bind {R : World → World → Prop} {caller : Caller} {called : CallChronicle} {rounds : Nat}
    {α β : Type} {f : Scene → α} {k : α → Prog β} {w : World} :
    (((view f).bind k).chronicle caller called rounds w).Respects R ↔
      ((k (f w.scene)).chronicle caller called rounds w).Respects R := Iff.rfl

end PageObjects
