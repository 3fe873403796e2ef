import PageObjects.Proofs.PageType.Alike
import PageObjects.Proofs.Program.Traces
import PageObjects.Script.Run

/-!
# Hooks that are written by hand

A hook that is written by hand consists of clauses.  A clause makes the call that a
statement stands for, but the accessors that it binds are functions, which are kept
while the hook runs.  If these do what the accessors of the statements do, the hook
comes to a definition that differs from that of the statements in payloads only, and
ends with the same fault if it ends with one.

Main definitions:

- `Value.ActsAs`: two accessors do the same on every page.
- `Clause.Writes`: a clause makes the call of a statement.

Main results:

- Theorem `Value.ActsAs.later`: accessors go on doing the same.
- Theorem `Prog.runClause_statement`: what a clause comes to.
- Theorem `Prog.runClauses_leaves`: what a hook comes to.
-/

namespace PageObjects

/-- Two accessors do the same on every page, wherever some functions are kept. -/
def Value.ActsAs (functions : List Expr) (v v' : Value) : Prop :=
  ∀ rounds depth page w, functions <+: w.scene.functions →
    callAt rounds depth v' [page] [] w = callAt rounds depth v [page] [] w

namespace Value.ActsAs

variable {functions functions' : List Expr} {v v' : Value}

theorem refl (functions : List Expr) (v : Value) : ActsAs functions v v := fun _ _ _ _ _ => rfl

/-- Two accessors still do the same if more functions are kept. -/
theorem mono (h : ActsAs functions v v') (hf : functions <+: functions') : ActsAs functions' v v' :=
  fun rounds depth page w hw => h rounds depth page w (hf.trans hw)

end Value.ActsAs

/-- A clause that is written by hand makes the call of a statement.  A function does
what the accessor of the statement does. -/
inductive Clause.Writes : Clause → Statement → Prop where
  | address (url : Value) : Writes (.address url) (.address url)
  | expectElement (name : Value) (timeout : Option Value) :
      Writes (.expectElement name timeout) (.expectElement name timeout)
  | expectTitle {e : Expr} {title : Value} :
      (∀ caller rounds w, Prog.run caller rounds (Prog.eval {} e) w = (.ok title, w)) →
        Writes (.expectTitle e) (.expectTitle title)
  | binding (member : String) (name : Value) {body : Expr} {accessor : Value} :
      accessor.isNone = false →
      (∀ functions id, functions[id]? = some body → Value.ActsAs functions accessor (.function id)) →
        Writes (.binding member name (some body) false) (.binding member name accessor)
  | link (label : Value) : Writes (.link label) (.link label)
  | button (label : Value) : Writes (.button label) (.button label)

namespace Statement

variable {P : Value → Value → Prop} {st st' : Statement}

/-- Alike statements are stated by the same members, under the same names and labels. -/
theorem Alike.known (h : st.Alike P st') (hst : st.Known) : st'.Known := by cases h <;> exact hst

theorem Alike.names (h : st.Alike P st') : st'.names = st.names := by cases h <;> rfl

theorem Alike.worded (h : st.Alike P st') (hst : st.Worded) : st'.Worded := by cases h <;> exact hst

end Statement

namespace Prog

variable {caller : Caller} {rounds : Nat} {w : World} {cls : ClassRef} {n : Nat} {d d' : Definition}

/-! ## Clauses -/

/-- What is written without a guard may fail. -/
theorem guarding_false (p : Prog Value) : guarding false p = p.bind fun _ => .done none := rfl

/-- A clause comes to a statement that is alike to the one whose call it makes, with the
functions kept that it needs. -/
theorem runClause_statement {c : Clause} {st : Statement} (h : c.Writes st) (cls : ClassRef) (w : World) :
    ∃ functions st', w.scene.functions <+: functions ∧ st.Alike (Value.ActsAs functions) st' ∧
      ∀ caller rounds, run caller rounds (runClause {} cls c) w =
        run caller rounds (statement cls st') { w with scene := { w.scene with functions } } := by
  have hplain : ∀ {c : Clause} {st : Statement}, (∀ caller rounds,
      run caller rounds (runClause {} cls c) w = run caller rounds (statement cls st) w) →
      ∃ functions st', w.scene.functions <+: functions ∧ st.Alike (Value.ActsAs functions) st' ∧
        ∀ caller rounds, run caller rounds (runClause {} cls c) w =
          run caller rounds (statement cls st') { w with scene := { w.scene with functions } } :=
    fun {_ st} hrun => ⟨w.scene.functions, st, List.prefix_rfl, .same st, hrun⟩
  cases h with
  | address url => exact hplain fun _ _ => rfl
  | expectElement name timeout => exact hplain fun _ _ => rfl
  | expectTitle htitle =>
    refine hplain fun caller rounds => ?_
    rw [runClause, bind_eq, run_bind, htitle, andThen_ok]
  | @binding member name body accessor hsome hacts =>
    have hkept : (w.scene.functions ++ [body])[w.scene.functions.length]? = some body :=
      List.getElem?_concat_length
    refine ⟨w.scene.functions ++ [body], .binding member name (.function w.scene.functions.length),
      List.prefix_append _ _, .binding member name (hacts _ _ hkept) hsome.symm, fun caller rounds => rfl⟩
  | link label => exact hplain fun _ _ => rfl
  | button label => exact hplain fun _ _ => rfl

variable (caller rounds) in
/-- A hook that is written by hand comes to what its statements come to, but for payloads. -/
theorem runClauses_leaves {reading : Reading} (hcls : w.scene.definitionOf? cls = some n)
    (hn : w.scene.definitions[n]? = some d') (halike : d.Alike (Value.ActsAs w.scene.functions) d')
    (horderly : d'.Orderly) (hfree : w.scene.overrides cls Statement.members = false) {cs : List Clause}
    {sts : List Statement} (h : List.Forall₂ Clause.Writes cs sts)
    (hsts : ∀ st ∈ sts, st.Known ∧ st.Worded ∧ ∀ v ∈ st.names, Given reading v) :
    ∃ functions r, w.scene.functions <+: functions ∧ r.1.Orderly ∧
      Leaves caller rounds (runClauses {} cls (cs.map fun c => (false, c))) w
        { w.scene.setDefinition n r.1 with functions } r.2 ∧
      Definition.MadeAlike (Value.ActsAs functions)
        (Statement.allMade reading w.scene.settings.elementTimeout (w.scene.facts cls) d (sts.map .ok)) r := by
  induction h generalizing w d d' with
  | nil =>
    exact ⟨w.scene.functions, (d', none), List.prefix_rfl, horderly,
      ⟨.ok [], w.journal, by rw [Scene.setDefinition_same hn]; rfl, rfl⟩, halike, rfl⟩
  | @cons c st cs sts hc _ ih =>
    obtain ⟨functions, st', hmore, hst', hclause⟩ := runClause_statement hc cls w
    obtain ⟨hknown, hworded, hgiven⟩ := hsts st List.mem_cons_self
    let w₁ : World := { w with scene := { w.scene with functions } }
    have hstated : Makes caller rounds (statement cls st') w₁ n
        (st'.made reading w.scene.settings.elementTimeout (w.scene.facts cls) d') :=
      statement_makes (w := w₁) hcls hn hfree (hst'.known hknown) fun v hv =>
        hgiven v (hst'.names ▸ hv) caller rounds w₁
    have hmade := (halike.mono fun _ _ hv => hv.mono hmore).made (Value.ActsAs.refl functions) reading
      w.scene.settings.elementTimeout (w.scene.facts cls) hst'
    have horderly' : (st'.made reading w.scene.settings.elementTimeout (w.scene.facts cls) d').1.Orderly :=
      horderly.made (hst'.worded hworded)
    have hhead : run caller rounds (runClauses {} cls ((c :: cs).map fun c => (false, c))) w =
        run caller rounds ((statement cls st').bind fun _ =>
          (runClauses {} cls (cs.map fun c => (false, c))).bind fun others => .done others) w₁ := by
      rw [List.map_cons, runClauses, bind_eq, guarding_false, bind_assoc, run_bind, hclause, run_bind]
      rfl
    rw [List.map_cons (f := Except.ok), Statement.allMade]
    rcases hst : st.made reading w.scene.settings.elementTimeout (w.scene.facts cls) d with ⟨x, fault⟩
    rcases hst'' : st'.made reading w.scene.settings.elementTimeout (w.scene.facts cls) d' with ⟨x', fault'⟩
    rw [hst, hst''] at hmade
    rw [hst''] at hstated horderly'
    obtain ⟨hxx', hfault⟩ := hmade
    simp only at hxx' hfault
    subst hfault
    cases fault' with
    | some r =>
      obtain ⟨j, hrun⟩ := hstated.run_error
      refine ⟨functions, (x', some r), hmore, horderly', ⟨.error r, j, ?_, rfl⟩, hxx', rfl⟩
      rw [hhead, run_bind, hrun, andThen_error]
      rfl
    | none =>
      obtain ⟨a, j, hrun⟩ := hstated.run_ok
      -- the scene after the statement differs in the definition and in the functions
      -- only, which the members of the type, its facts and the settings do not depend on
      obtain ⟨functions', r, hmore', hr, hleaves, hrest⟩ := ih (w := { scene := w₁.scene.setDefinition n x', journal := j })
        hcls (Scene.setDefinition_getElem? (s := w₁.scene) hn x') hxx' horderly' hfree
        fun st hst => hsts st (List.mem_cons_of_mem _ hst)
      refine ⟨functions', r, hmore.trans hmore', hr, ?_, hrest⟩
      obtain ⟨answer, j', hrun', hended⟩ := hleaves
      refine ⟨answer, j', ?_, hended⟩
      rw [hhead, bind_done, run_bind, hrun, andThen_ok, hrun']
      rw [← Scene.setDefinition_setDefinition w.scene n x' r.1]
      rfl

end Prog

end PageObjects
