import PageObjects.Proofs.Program.Answers
import PageObjects.Proofs.Scene.Moves

/-!
# Finished page types

The statement that defines a page type ends with the type locked.  From then on the
type goes by its own definition, which stays as it is whatever else is done, as long
as nobody writes to its table from outside.

Main definitions:

- `Scene.Finished`: a type has a definition of its own, which is locked.

Main results:

- Theorem `Prog.definePageType_finished`: a type that was defined with a definition of
  its own is finished.
- Theorem `World.after_finished`: what is finished stays as it is.
-/

namespace PageObjects

namespace Scene

/-- A page type goes by a definition of its own. -/
def Owns (s : Scene) (cls : ClassRef) (n : Nat) : Prop :=
  ∃ t, s.pageType? cls = some t ∧ t.lineage.head? = some cls ∧ t.definition = some n

/-- A page type has a definition of its own, which is locked. -/
structure Finished (s : Scene) (cls : ClassRef) (n : Nat) (d : Definition) : Prop where
  own : s.Owns cls n
  definition : s.definitions[n]? = some d
  locked : d.locked = true

variable {s : Scene} {cls : ClassRef} {n : Nat} {d : Definition}

/-- A type that has a definition of its own goes by it. -/
theorem Owns.definitionOf? (h : s.Owns cls n) : s.definitionOf? cls = some n := by
  obtain ⟨t, ht, hhead, hn⟩ := h
  obtain ⟨rest, hrest⟩ : ∃ rest, t.lineage = cls :: rest := by
    cases hl : t.lineage with
    | nil => simp [hl] at hhead
    | cons c rest =>
      rw [hl, List.head?_cons, Option.some.injEq] at hhead
      exact ⟨rest, by rw [hhead]⟩
  simp [Scene.definitionOf?, lineage, ht, hrest, hn]

theorem Finished.definitionOf? (h : s.Finished cls n d) : s.definitionOf? cls = some n := h.own.definitionOf?

theorem Finished.definition? (h : s.Finished cls n d) : s.definition? cls = some d := by
  rw [Scene.definition?, h.definitionOf?]
  exact h.definition

/-- A type that is added comes next. -/
theorem addPageType_pageType? (h : cls.id = s.pageTypes.length) (t : PageType) :
    (s.addPageType t).pageType? cls = some t := by
  show (s.pageTypes ++ [t])[cls.id]? = some t
  rw [h]
  exact List.getElem?_concat_length

end Scene

/-- The root is finished from the beginning. -/
theorem Setting.root_finished (setting : Setting) :
    setting.world.scene.Finished rootType 0 { pageName := .ofText PageType.rootName, locked := true } :=
  ⟨⟨_, rfl, rfl, rfl⟩, rfl, rfl⟩

namespace World

variable {w : World} {cls : ClassRef} {n : Nat} {d : Definition}

/-- A type keeps the definition that it was made with. -/
theorem after_owns (h : w.scene.Owns cls n) (deeds : List Deed) : (w.after deeds).scene.Owns cls n := by
  obtain ⟨t, ht, hown⟩ := h
  exact ⟨t, after_pageType ht deeds, hown⟩

/-- What is finished stays as it is, unless its table is written to from outside. -/
theorem after_finished (h : w.scene.Finished cls n d) {deeds : List Deed} (hs : Spares n deeds) :
    (w.after deeds).scene.Finished cls n d where
  own := after_owns h.own deeds
  definition := after_locked h.definition h.locked hs
  locked := h.locked

end World

namespace Prog

variable {caller : Caller} {called : Called} {rounds : Nat} {w w' : World} {cls : ClassRef} {n : Nat}

/-! ## The end of a statement -/

/-- The note that a type has been defined is shown without asking. -/
theorem typeDefined_plain (fullName : String) (elements actions : Nat) :
    (typeDefined fullName elements actions).context.Plain := by
  intro e he
  simp only [typeDefined, Log.diagnostic, List.mem_cons, List.not_mem_nil, or_false] at he
  rcases he with rfl | rfl | rfl <;> rfl

/-- A type that is locked leaves all else in the scene as it is. -/
theorem lockType_scene {u : Unit} (h : run caller rounds (lockType cls) w = (.ok u, w')) :
    ∃ n d, w.scene.definitionOf? cls = some n ∧ w.scene.definitions[n]? = some d ∧
      w'.scene = w.scene.setDefinition n d.lock := by
  simp only [lockType, definitionNumber, definitionOf, bind_eq] at h
  obtain ⟨m, _, hnumber, h⟩ := run_bind_ok h
  rw [run_view_bind] at hnumber
  obtain ⟨hm, rfl⟩ := run_ofOption_ok hnumber
  rw [run_op_bind] at h
  obtain ⟨d', _, hafter, h⟩ := run_bind_ok h
  rw [run_view_bind] at hafter
  obtain ⟨hd', rfl⟩ := run_ofOption_ok hafter
  obtain ⟨_, _, helements, h⟩ := run_bind_ok h
  obtain ⟨-, rfl⟩ := run_ofFault_ok' helements
  obtain ⟨_, _, hactions, h⟩ := run_bind_ok h
  obtain ⟨-, rfl⟩ := run_ofFault_ok' hactions
  rw [run_view_bind, run_log_of_plain (typeDefined_plain _ _ _)] at h
  -- there is a definition, since the type is asked for it afterwards
  cases hd : w.scene.definitions[m]? with
  | none =>
    have hsame : ((Op.lock m).run w).2 = w := by simp [Op.run, World.update, hd]
    rw [hsame, Scene.definition?, hm, Option.bind_some, hd] at hd'
    cases hd'
  | some d =>
    have hlocked : ((Op.lock m).run w).2.scene = w.scene.setDefinition m d.lock := by
      simp [Op.run, World.update, hd, World.setScene]
    refine ⟨m, d, hm, hd, ?_⟩
    rw [← hlocked]
    cases h
    rfl

/-- What a new type starts from is read off the scene. -/
theorem parentOf_ok {members : List (String × Value)} {lineage : List ClassRef}
    (h : run caller rounds (parentOf members lineage) w = (.ok n, w')) : w = w' := by
  simp only [parentOf] at h
  split at h
  · cases h
    rfl
  · cases h
  · rw [bind_eq, run_view_bind] at h
    exact (run_ofOption_ok h).2

/-- A new type goes by the definition that it is added with. -/
theorem addPageType_owns {t : PageType} {u : Unit} (h : run caller rounds (op (.addPageType t)) w = (.ok u, w'))
    (hlineage : t.lineage.head? = some cls) (hid : cls.id = w.scene.pageTypes.length)
    (hn : t.definition = some n) : w'.scene.Owns cls n := by
  cases h
  exact ⟨t, Scene.addPageType_pageType? hid t, hlineage, hn⟩

/-- A type is finished when it is locked. -/
theorem lockType_finished {u : Unit} (hown : w.scene.Owns cls n)
    (h : run caller rounds (lockType cls) w = (.ok u, w')) : ∃ d, w'.scene.Finished cls n d := by
  obtain ⟨m, d, hm, hd, hscene⟩ := lockType_scene h
  obtain rfl := Option.some.inj (hm.symm.trans hown.definitionOf?)
  have hlt := (List.getElem?_eq_some_iff.mp hd).1
  refine ⟨d.lock, ?_, ?_, rfl⟩
  · rw [hscene]
    exact hown
  · rw [hscene, Scene.setDefinition]
    exact List.getElem?_set_self hlt

/-- Setting a type up ends with the type finished. -/
theorem setUpType_finished (hcaller : caller.Does called) {t : PageType} {declare : ClassRef → Prog (List Raised)}
    {caught : List Raised} (hlineage : t.lineage.head? = some cls) (hid : cls.id = w.scene.pageTypes.length)
    (h : run caller rounds (setUpType t cls declare) w = (.ok caught, w')) :
    ∃ n d, w'.scene.Finished cls n d := by
  simp only [setUpType, bind_eq] at h
  obtain ⟨parent, _, hparent, h⟩ := run_bind_ok h
  obtain rfl := parentOf_ok hparent
  obtain ⟨n, w₁, hderive, h⟩ := run_bind_ok h
  obtain ⟨_, w₂, hadd, h⟩ := run_bind_ok h
  obtain ⟨_, _, hhook, h⟩ := run_bind_ok h
  obtain ⟨_, _, hcheck, h⟩ := run_bind_ok h
  obtain ⟨_, _, hlock, h⟩ := run_bind_ok h
  cases h
  obtain ⟨hookDeeds, rfl⟩ := run_after hcaller _ hhook
  obtain ⟨checkDeeds, rfl⟩ := run_after hcaller _ hcheck
  have hid₁ : cls.id = w₁.scene.pageTypes.length := by
    cases hderive
    exact hid
  have hown := addPageType_owns hadd hlineage hid₁ rfl
  exact ⟨n, lockType_finished (World.after_owns (World.after_owns hown _) _) hlock⟩

/-- The lineage of a new type starts with the type. -/
theorem newLineage_head? {s : Scene} {bases lineage : List ClassRef} (h : newLineage s cls bases = some lineage) :
    lineage.head? = some cls := by
  simp only [newLineage, PageType.linearization] at h
  split at h
  · obtain ⟨rest, -, rfl⟩ := Option.map_eq_some_iff.mp h
    rfl
  · cases h

/-- A type that was defined with a definition of its own is finished. -/
theorem definePageType_finished (hcaller : caller.Does called) {draft : Draft}
    {declare : ClassRef → Prog (List Raised)} {caught : List Raised}
    (h : run caller rounds (definePageType draft declare) w = (.ok (cls, caught), w'))
    (hn : (w'.scene.pageType? cls).bind (·.definition) = some n) : ∃ d, w'.scene.Finished cls n d := by
  simp only [definePageType, bind_eq] at h
  obtain ⟨name, _, hname, h⟩ := run_bind_ok h
  obtain ⟨-, rfl⟩ := run_ofFault_ok' hname
  rw [run_view_bind] at h
  obtain ⟨fullName, _, hfull, h⟩ := run_bind_ok h
  obtain ⟨-, rfl⟩ := run_ofFault_ok' hfull
  rw [run_view_bind] at h
  obtain ⟨lineage, _, horder, h⟩ := run_bind_ok h
  obtain ⟨hlineage, rfl⟩ := run_ofOption_ok horder
  rw [run_view_bind] at h
  split at h
  · -- a member of a base has set the type up, so it has no definition of its own
    obtain ⟨_, _, hset, h⟩ := run_bind_ok h
    cases h
    simp only [setUpBy, bind_eq, run_op_bind] at hset
    obtain ⟨deeds, rfl⟩ := run_after hcaller _ hset
    have hadded : ∀ t : PageType, ((Op.addPageType t).run w).2.scene.pageType? ⟨w.scene.pageTypes.length, name⟩ =
        some t := fun _ => List.getElem?_concat_length
    rw [World.after_pageType (hadded _) deeds] at hn
    cases hn
  · obtain ⟨_, _, hset, h⟩ := run_bind_ok h
    cases h
    obtain ⟨m, d, hfinished⟩ := setUpType_finished hcaller (newLineage_head? hlineage) rfl hset
    obtain ⟨t, ht, -, hm⟩ := hfinished.own
    rw [ht, Option.bind_some, hm] at hn
    obtain rfl := Option.some.inj hn
    exact ⟨d, hfinished⟩

end Prog

end PageObjects
