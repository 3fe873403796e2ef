import PageObjects.Proofs.PageType.Descent
import PageObjects.Proofs.PageType.Late

/-!
# Definitions that stay

Once the statement that defines a page type has come to its end, the definition of the
type stays as it is.  What a type is made from is finished before, too.  So it does not
matter what else is done before a type is defined: whenever a blueprint is defined, it
comes to the same definition.

Main definitions:

- `Scene.Continues`: settings, types, and what is finished are as they were.
- `Blueprint.Independent`: all that a blueprint builds on is finished.
- `Defines`: a run that defines blueprints, and does other things in between.

Main results:

- Theorem `Blueprint.Opens.told_eq`: a blueprint comes to the same definition whatever
  is done before.
- Theorem `definitions_permanent`: definitions stay, whatever is done and in whatever
  order types are defined.
-/

namespace PageObjects

namespace PageType

variable {α : Type} [DecidableEq α]

/-- What is in an order without a head was in the order. -/
theorem mem_withoutHead {h x : α} {orders : List (List α)} (hx : ∃ o ∈ withoutHead h orders, x ∈ o) :
    ∃ o ∈ orders, x ∈ o := by
  obtain ⟨o, ho, hxo⟩ := hx
  obtain ⟨o', ho', rfl⟩ := List.mem_map.mp ho
  refine ⟨o', ho', ?_⟩
  split at hxo
  · exact List.mem_of_mem_tail hxo
  · exact hxo

/-- What is in a merged order is in one of the orders. -/
theorem mem_mergeWithin {n : Nat} {orders : List (List α)} {merged : List α}
    (h : mergeWithin n orders = some merged) {x : α} (hx : x ∈ merged) : ∃ o ∈ orders, x ∈ o := by
  induction n generalizing orders merged with
  | zero =>
    simp only [mergeWithin] at h
    split at h <;> cases h
    cases hx
  | succ n ih =>
    simp only [mergeWithin] at h
    split at h
    · cases h
      cases hx
    · cases hhead : nextHead? orders with
      | none =>
        rw [hhead] at h
        cases h
      | some y =>
        rw [hhead] at h
        obtain ⟨rest, hrest, rfl⟩ := Option.map_eq_some_iff.mp h
        rcases List.mem_cons.mp hx with rfl | hx
        · obtain ⟨o, ho, hxo⟩ := List.mem_filterMap.mp (List.mem_of_find?_eq_some hhead)
          exact ⟨o, ho, List.mem_of_mem_head? hxo⟩
        · exact mem_withoutHead (ih hrest hx)

end PageType

/-! ## What stays -/

namespace Scene

variable {s s' s'' : Scene} {cls : ClassRef}

/-- Settings, types, and what is finished are as they were. -/
structure Continues (s s' : Scene) : Prop where
  settings : s'.settings = s.settings
  pageType? : ∀ {cls : ClassRef} {t : PageType}, s.pageType? cls = some t → s'.pageType? cls = some t
  finished : ∀ {cls : ClassRef} {n : Nat} {d : Definition}, s.Finished cls n d → s'.Finished cls n d

namespace Continues

theorem refl (s : Scene) : s.Continues s := ⟨rfl, id, id⟩

theorem trans (h : s.Continues s') (h' : s'.Continues s'') : s.Continues s'' :=
  ⟨h'.settings.trans h.settings, fun ht => h'.pageType? (h.pageType? ht), fun hf => h'.finished (h.finished hf)⟩

/-- A type that was there has the lineage and the members that it had. -/
theorem lineage (h : s.Continues s') (hcls : (s.pageType? cls).isSome) : s'.lineage cls = s.lineage cls := by
  obtain ⟨t, ht⟩ := Option.isSome_iff_exists.mp hcls
  rw [Scene.lineage, Scene.lineage, ht, h.pageType? ht]

theorem ownMembers (h : s.Continues s') (hcls : (s.pageType? cls).isSome) :
    s'.ownMembers cls = s.ownMembers cls := by
  obtain ⟨t, ht⟩ := Option.isSome_iff_exists.mp hcls
  rw [Scene.ownMembers, Scene.ownMembers, ht, h.pageType? ht]

end Continues

/-- Other catalogs, or other collections, leave settings, types, and what is finished as
they were. -/
theorem continues_catalogs (s : Scene) (catalogs : List Catalog) : s.Continues { s with catalogs } :=
  ⟨rfl, id, fun hf => ⟨hf.own, hf.definition, hf.locked⟩⟩

theorem continues_cells (s : Scene) (cells : Cells) : s.Continues { s with cells } :=
  ⟨rfl, id, fun hf => ⟨hf.own, hf.definition, hf.locked⟩⟩

theorem Finished.isSome {n : Nat} {d : Definition} (h : s.Finished cls n d) : (s.pageType? cls).isSome := by
  obtain ⟨t, ht, -⟩ := h.own
  rw [ht]
  rfl

end Scene

/-- What is done leaves settings, types, and what is finished as they were, unless
tables are written to from outside. -/
theorem World.after_continues (w : World) {deeds : List Deed} (h : ∀ n, Spares n deeds) :
    w.scene.Continues (w.after deeds).scene :=
  ⟨w.after_settings deeds, fun ht => World.after_pageType ht deeds, fun hf => World.after_finished hf (h _)⟩

/-- A type that is opened, and gets a definition, leaves settings, types, and what is
finished as they were. -/
theorem World.opened_continues (w : World) (o : Opening) (d : Definition) :
    w.scene.Continues ((w.opened o).scene.setDefinition w.scene.definitions.length d) :=
  ⟨rfl, fun ht => (List.getElem?_append_left (List.getElem?_eq_some_iff.mp ht).1).trans ht,
    fun hf => World.opened_finished hf o d⟩

/-! ## Whatever was done before -/

namespace Draft

variable {draft : Draft} {s s' : Scene}

/-- Whether a type has a member of its own does not depend on which type it is. -/
theorem lookup_allMembers_isSome (draft : Draft) (cls cls' : ClassRef) (name : String) :
    ((draft.allMembers cls).lookup name).isSome = ((draft.allMembers cls').lookup name).isSome := by
  have hdefault : ∀ (n : String) (v : Value) (ms : List (String × Value)),
      ((withDefault n v ms).lookup name).isSome = ((ms.lookup name).isSome || name == n) := by
    intro n v ms
    unfold withDefault
    split
    · rename_i hn
      by_cases h : name = n
      · subst h
        simp [hn]
      · simp [h]
    · rw [List.lookup_append]
      cases hn : name == n <;> simp [List.lookup_cons, hn]
  rw [allMembers, allMembers, hdefault, hdefault, hdefault, hdefault]
  split
  · rw [Assoc.lookup_put, Assoc.lookup_put]
    split <;> rfl
  · rfl

/-- Nor does it for the members that are left to a type with a definition. -/
theorem lookup_leftMembers_isSome (draft : Draft) (cls cls' : ClassRef) (name : String) :
    (((draft.allMembers cls).filter fun m => m.1 != definitionMember).lookup name).isSome =
      (((draft.allMembers cls').filter fun m => m.1 != definitionMember).lookup name).isSome := by
  by_cases h : name = definitionMember
  · have hnone : ∀ ms : List (String × Value), (ms.filter fun m => m.1 != definitionMember).lookup name = none := by
      intro ms
      rw [h, List.lookup_eq_none_iff]
      intro m hm
      have hne : m.1 ≠ definitionMember := by simpa using (List.mem_filter.mp hm).2
      exact bne_iff_ne.mpr hne.symm
    rw [hnone, hnone]
  · rw [lookup_filter_ne h, lookup_filter_ne h]
    exact draft.lookup_allMembers_isSome cls cls' name

/-- All that a draft builds on is finished. -/
def Independent (draft : Draft) (s : Scene) : Prop :=
  ∀ base ∈ draft.allBases, ∀ cls ∈ base :: s.lineage base, ∃ n d, s.Finished cls n d

/-- What a draft builds on has the lineages that it had. -/
theorem Independent.lineages (hdraft : draft.Independent s) (h : s.Continues s') :
    draft.allBases.map s'.lineage = draft.allBases.map s.lineage := by
  refine List.map_congr_left fun base hbase => ?_
  obtain ⟨n, d, hfinished⟩ := hdraft base hbase base List.mem_cons_self
  exact h.lineage hfinished.isSome

/-- All types in the lineage of a new type are finished, apart from the type itself. -/
theorem Independent.finished (hdraft : draft.Independent s) {rest : List ClassRef}
    (hrest : PageType.merge (draft.allBases.map s.lineage ++ [draft.allBases]) = some rest) :
    ∀ cls ∈ rest, ∃ n d, s.Finished cls n d := by
  intro cls hcls
  obtain ⟨order, horder, hmem⟩ := PageType.mem_mergeWithin hrest hcls
  rcases List.mem_append.mp horder with horder | horder
  · obtain ⟨base, hbase, rfl⟩ := List.mem_map.mp horder
    exact hdraft base hbase cls (List.mem_cons_of_mem _ hmem)
  · obtain rfl := List.mem_singleton.mp horder
    exact hdraft cls hmem cls List.mem_cons_self

end Draft

theorem any_congr_of_mem {α : Type} {l : List α} {p q : α → Bool} (h : ∀ a ∈ l, p a = q a) :
    l.any p = l.any q := by
  rw [Bool.eq_iff_iff, List.any_eq_true, List.any_eq_true]
  exact exists_congr fun a => and_congr_right fun ha => by rw [h a ha]

theorem findSome?_congr_of_mem {α β : Type} {l : List α} {f g : α → Option β} (h : ∀ a ∈ l, f a = g a) :
    l.findSome? f = l.findSome? g := by
  induction l with
  | nil => rfl
  | cons a l ih =>
    rw [List.findSome?_cons, List.findSome?_cons, h a List.mem_cons_self,
      ih fun b hb => h b (List.mem_cons_of_mem _ hb)]

/-- A type has the members that it had, its own and those of the types that it builds on. -/
theorem Scene.Continues.member? {s s' : Scene} {cls : ClassRef} (h : s.Continues s') (hcls : (s.pageType? cls).isSome)
    (hline : ∀ c ∈ s.lineage cls, (s.pageType? c).isSome) (name : String) :
    s'.member? cls name = s.member? cls name := by
  rw [Scene.member?, Scene.member?, h.lineage hcls]
  exact findSome?_congr_of_mem fun c hc => by rw [h.ownMembers (hline c hc)]

/-- Which members a new type has in the opened world: its own, and those of the types
that it builds on. -/
theorem World.opened_member? {w : World} {o : Opening} {rest : List ClassRef}
    (hid : o.cls.id = w.scene.pageTypes.length) (hlineage : o.type.lineage = o.cls :: rest)
    (hrest : ∀ cls ∈ rest, (w.scene.pageType? cls).isSome) (name : String) :
    ((w.opened o).scene.member? o.cls name).isSome =
      ((o.type.members.lookup name).isSome || rest.any fun cls => ((w.scene.ownMembers cls).lookup name).isSome) := by
  have hself := World.opened_pageType? hid
  have hother : ∀ cls ∈ rest, (w.opened o).scene.ownMembers cls = w.scene.ownMembers cls := by
    intro cls hcls
    obtain ⟨t, ht⟩ := Option.isSome_iff_exists.mp (hrest cls hcls)
    have hlt : cls.id < w.scene.pageTypes.length := (List.getElem?_eq_some_iff.mp ht).1
    have hsame : (w.opened o).scene.pageType? cls = w.scene.pageType? cls := List.getElem?_append_left hlt
    rw [Scene.ownMembers, Scene.ownMembers, hsame]
  have hline : (w.opened o).scene.lineage o.cls = o.cls :: rest := by
    rw [Scene.lineage, hself]
    exact hlineage
  have hown : (w.opened o).scene.ownMembers o.cls = o.type.members := by
    rw [Scene.ownMembers, hself]
    rfl
  have hany : (rest.any fun cls => (((w.opened o).scene.ownMembers cls).lookup name).isSome) =
      rest.any fun cls => ((w.scene.ownMembers cls).lookup name).isSome :=
    any_congr_of_mem fun cls hcls => by rw [hother cls hcls]
  rw [Scene.member?, List.isSome_findSome?, hline, List.any_cons, hown, hany]

/-- What hides bindings in an opened world: the members of the new type, and those of
the types that it builds on. -/
theorem World.opened_hides {w : World} {o : Opening} {rest : List ClassRef}
    (hid : o.cls.id = w.scene.pageTypes.length) (hlineage : o.type.lineage = o.cls :: rest)
    (hrest : ∀ cls ∈ rest, (w.scene.pageType? cls).isSome) (name : String) :
    (w.opened o).scene.hides o.cls name =
      (name == PageType.reservedField ||
        (((o.type.members.lookup name).isSome || rest.any fun cls => ((w.scene.ownMembers cls).lookup name).isSome) ||
          PageType.isRootName name || PageType.typeOnlyNames.contains name)) := by
  rw [Scene.hides, Scene.hasAttribute, opened_member? hid hlineage hrest]

/-- A type that is opened later has the same name and the same attributes, if it has
members of the same names and builds on the same types. -/
theorem World.opened_facts {w w' : World} {o o' : Opening} {rest : List ClassRef} (h : w.scene.Continues w'.scene)
    (hid : o.cls.id = w.scene.pageTypes.length) (hid' : o'.cls.id = w'.scene.pageTypes.length)
    (hlineage : o.type.lineage = o.cls :: rest) (hlineage' : o'.type.lineage = o'.cls :: rest)
    (hrest : ∀ cls ∈ rest, ∃ n d, w.scene.Finished cls n d) (hname : o'.type.fullName = o.type.fullName)
    (hmembers : ∀ name, (o'.type.members.lookup name).isSome = (o.type.members.lookup name).isSome) :
    (w'.opened o').scene.facts o'.cls = (w.opened o).scene.facts o.cls := by
  have hsome : ∀ cls ∈ rest, (w.scene.pageType? cls).isSome := fun cls hcls => by
    obtain ⟨n, d, hfinished⟩ := hrest cls hcls
    exact hfinished.isSome
  have hsome' : ∀ cls ∈ rest, (w'.scene.pageType? cls).isSome := fun cls hcls => by
    obtain ⟨n, d, hfinished⟩ := hrest cls hcls
    exact (h.finished hfinished).isSome
  have hfull : (w'.opened o').scene.fullName o'.cls = (w.opened o).scene.fullName o.cls := by
    rw [Scene.fullName, Scene.fullName, opened_pageType? hid, opened_pageType? hid']
    exact hname
  have hhides : (w'.opened o').scene.hides o'.cls = (w.opened o).scene.hides o.cls := by
    funext name
    have hany : (rest.any fun cls => ((w'.scene.ownMembers cls).lookup name).isSome) =
        rest.any fun cls => ((w.scene.ownMembers cls).lookup name).isSome :=
      any_congr_of_mem fun cls hcls => by rw [h.ownMembers (hsome cls hcls)]
    rw [opened_hides hid hlineage hsome, opened_hides hid' hlineage' hsome', hany, hmembers]
  rw [Scene.facts, Scene.facts, hfull, hhides]

namespace Draft

variable {draft : Draft} {w w' : World}

/-- A type that is opened later starts from the same definition, and has the same
attributes. -/
theorem opening?_continues (h : w.scene.Continues w'.scene) (hdraft : draft.Independent w.scene) {o' : Opening}
    (ho : draft.opening? w'.scene = some o') :
    ∃ o, draft.opening? w.scene = some o ∧ o'.start = o.start ∧
      (w'.opened o').scene.facts o'.cls = (w.opened o).scene.facts o.cls := by
  have hopened := opening?_eq_some_iff.mp ho
  obtain ⟨parent, origin, hparent, horigin, hstart⟩ := hopened.start
  have hlineage := hopened.lineage
  simp only [Prog.newLineage, PageType.linearization, hdraft.lineages h] at hlineage
  split at hlineage
  · rename_i hnodup
    obtain ⟨rest, hrest, hline'⟩ := Option.map_eq_some_iff.mp hlineage
    have hfinished := hdraft.finished hrest
    rw [← hline'] at hparent
    have horigin' : w.scene.definition? parent = some origin := by
      obtain ⟨n, d, hd⟩ := hfinished parent (List.mem_of_getElem? (l := rest) hparent)
      rw [(h.finished hd).definition?] at horigin
      rw [hd.definition?, horigin]
    let cls : ClassRef := ⟨w.scene.pageTypes.length, o'.type.name⟩
    let o : Opening :=
      { cls, start := o'.start
        type := { o'.type with
          lineage := cls :: rest, bases := draft.allBases
          members := (draft.allMembers cls).filter fun m => m.1 != definitionMember
          hook := draft.hook, definition := some w.scene.definitions.length } }
    have hline : Prog.newLineage w.scene cls draft.allBases = some (cls :: rest) := by
      rw [Prog.newLineage, PageType.linearization, if_pos hnodup, hrest]
      rfl
    have ho : draft.Opened w.scene o :=
      ⟨hopened.name, hopened.fullName, rfl, hline, ⟨parent, origin, hparent, horigin', hstart⟩, rfl⟩
    refine ⟨o, opening?_eq_some_iff.mpr ho, rfl, ?_⟩
    refine World.opened_facts h rfl (by rw [hopened.cls]) rfl hline'.symm hfinished rfl fun name => ?_
    rw [hopened.type]
    exact draft.lookup_leftMembers_isSome _ _ name
  · cases hlineage

end Draft

namespace Blueprint

variable {caller : Caller} {rounds : Nat} {b : Blueprint} {w w' : World} {o' : Opening}

/-- A blueprint comes to the same definition later. -/
theorem Opens.told_later (h : w.scene.Continues w'.scene) (hb : b.draft.Independent w.scene) (ho : b.Opens w' o') :
    ∃ o, b.draft.opening? w.scene = some o ∧ b.told w' o' = b.told w o := by
  obtain ⟨o, hopen, hstart, hfacts⟩ := Draft.opening?_continues h hb ho.opening
  exact ⟨o, hopen, by rw [told, told, h.settings, hstart, hfacts]⟩

/-- A blueprint comes to the same definition whatever is done before. -/
theorem Opens.told_eq {w₁ w₂ : World} {o₁ o₂ : Opening} (h₁ : w.scene.Continues w₁.scene)
    (h₂ : w.scene.Continues w₂.scene) (hb : b.draft.Independent w.scene) (ho₁ : b.Opens w₁ o₁)
    (ho₂ : b.Opens w₂ o₂) : b.told w₁ o₁ = b.told w₂ o₂ := by
  obtain ⟨o, hopen, htold₁⟩ := ho₁.told_later h₁ hb
  obtain ⟨o', hopen', htold₂⟩ := ho₂.told_later h₂ hb
  obtain rfl : o = o' := Option.some.inj (hopen.symm.trans hopen')
  rw [htold₁, htold₂]

/-- To define a blueprint leaves settings, types, and what is finished as they were. -/
theorem Opens.define_continues {cls : ClassRef} {caught : List Raised} (hb : b.Opens w o')
    (h : Prog.run caller rounds b.define w = (.ok (cls, caught), w')) : w.scene.Continues w'.scene := by
  obtain ⟨-, -, hscene⟩ := hb.define_scene h
  rw [hscene]
  exact w.opened_continues o' _

end Blueprint

/-! ## Runs that define types -/

/-- A run that defines blueprints, one after the other, and does other things in
between, which do not write to tables from outside.  The types that have been defined
come last first. -/
inductive Defines (start : World) : World → List (Blueprint × ClassRef) → Prop where
  | start : Defines start start []
  | meanwhile {w : World} {defined : List (Blueprint × ClassRef)} (deeds : List Deed) :
      (∀ n, Spares n deeds) → Defines start w defined → Defines start (w.after deeds) defined
  | define {w w' : World} {defined : List (Blueprint × ClassRef)} {b : Blueprint} {o : Opening} {cls : ClassRef}
      {caught : List Raised} {caller : Caller} {rounds : Nat} :
      Defines start w defined → b.Opens w o →
      Prog.run caller rounds b.define w = (.ok (cls, caught), w') →
      Defines start w' ((b, cls) :: defined)

namespace Defines

variable {start w w' : World} {defined : List (Blueprint × ClassRef)} {b : Blueprint} {cls : ClassRef}

/-- A run that defines types leaves what was there before as it was. -/
theorem continues (h : Defines start w defined) : start.scene.Continues w.scene := by
  induction h with
  | start => exact .refl _
  | @meanwhile w _ deeds hspares _ ih => exact ih.trans (w.after_continues hspares)
  | define _ hb hrun ih => exact ih.trans (hb.define_continues hrun)

/-- A type has the definition that its blueprint came to when the type was defined. -/
theorem finished (h : Defines start w defined) (hb : (b, cls) ∈ defined) :
    ∃ v o n, start.scene.Continues v.scene ∧ b.Opens v o ∧ w.scene.Finished cls n (b.told v o).1.lock := by
  induction h with
  | start => cases hb
  | @meanwhile w _ deeds hspares _ ih =>
    obtain ⟨v, o, n, hv, ho, hfinished⟩ := ih hb
    exact ⟨v, o, n, hv, ho, World.after_finished hfinished (hspares n)⟩
  | @define v _ _ _ o _ _ _ _ hdefines ho hrun ih =>
    rcases List.mem_cons.mp hb with heq | hb
    · cases heq
      exact ⟨v, o, _, hdefines.continues, ho, ho.define_finished hrun⟩
    · obtain ⟨u, o', n, hu, ho', hfinished⟩ := ih hb
      exact ⟨u, o', n, hu, ho', (ho.define_continues hrun).finished hfinished⟩

/-- Whenever a blueprint is defined, its type has the same definition. -/
theorem same_definition {w₁ w₂ : World} {defined₁ defined₂ : List (Blueprint × ClassRef)} {cls₁ cls₂ : ClassRef}
    (h₁ : Defines start w₁ defined₁) (h₂ : Defines start w₂ defined₂) (hb : b.draft.Independent start.scene)
    (hb₁ : (b, cls₁) ∈ defined₁) (hb₂ : (b, cls₂) ∈ defined₂) :
    ∃ d, w₁.scene.definition? cls₁ = some d ∧ w₂.scene.definition? cls₂ = some d := by
  obtain ⟨v₁, o₁, n₁, hv₁, ho₁, hfinished₁⟩ := h₁.finished hb₁
  obtain ⟨v₂, o₂, n₂, hv₂, ho₂, hfinished₂⟩ := h₂.finished hb₂
  refine ⟨_, hfinished₁.definition?, ?_⟩
  rw [hfinished₂.definition?, ho₁.told_eq hv₁ hv₂ hb ho₂]

end Defines

/-! ## Definitions stay -/

/-- Definitions stay.  Once the statement that defines a page type has come to its end,
the definition of the type stays as it is, whatever a run does (by `script_world`, what a
script does are deeds), as long as it does not write to the table from outside; all
further declarations are refused, and leave the world as it is.  So two runs that define
the same type give it the same definition, in whatever order they define others, if what
the type builds on was there before. -/
theorem definitions_permanent :
    (∀ {caller : Caller} {called : Called} {rounds : Nat} {draft : Draft} {declare : ClassRef → Prog (List Raised)}
      {w w' : World} {cls : ClassRef} {caught : List Raised} {n : Nat}, caller.Does called →
      Prog.run caller rounds (Prog.definePageType draft declare) w = (.ok (cls, caught), w') →
      (w'.scene.pageType? cls).bind (·.definition) = some n →
      ∃ d, d.locked = true ∧ ∀ deeds, Spares n deeds →
        (w'.after deeds).scene.definition? cls = some d ∧ (w'.after deeds).scene.definitions[n]? = some d ∧
        (∀ member p, Prog.LateDeclaration cls member p →
          (w'.after deeds).scene.overrides cls (Prog.usedMembers member) = false → ∀ rounds depth,
          ∃ what, Prog.run (callAt rounds (depth + 1)) rounds p (w'.after deeds) =
            (.error { fault := .locked d.pageName.text what }, w'.after deeds)) ∧
        ∀ member args, Prog.DefinitionCall member args → ∀ rounds depth,
          ∃ what, Prog.run (callAt rounds (depth + 1)) rounds (Prog.callMember (.definition n) member args)
              (w'.after deeds) =
            (.error { fault := .locked d.pageName.text what }, w'.after deeds)) ∧
    ∀ {start w₁ w₂ : World} {defined₁ defined₂ : List (Blueprint × ClassRef)} {b : Blueprint}
      {cls₁ cls₂ : ClassRef}, Defines start w₁ defined₁ → Defines start w₂ defined₂ →
      b.draft.Independent start.scene → (b, cls₁) ∈ defined₁ → (b, cls₂) ∈ defined₂ →
      ∃ d, w₁.scene.definition? cls₁ = some d ∧ w₂.scene.definition? cls₂ = some d := by
  constructor
  · intro caller called rounds draft declare w w' cls caught n hcaller hrun hn
    obtain ⟨d, hfinished⟩ := Prog.definePageType_finished hcaller hrun hn
    refine ⟨d, hfinished.locked, fun deeds hspares => ?_⟩
    have hafter := World.after_finished hfinished hspares
    exact ⟨hafter.definition?, hafter.definition, fun member p hp hfree rounds depth => hp.refused hafter hfree,
      fun member args hcall rounds depth => hcall.refused hafter.definition hafter.locked⟩
  · intro start w₁ w₂ defined₁ defined₂ b cls₁ cls₂ h₁ h₂ hb hb₁ hb₂
    exact h₁.same_definition h₂ hb hb₁ hb₂

/-! ## A type that is defined first or second -/

namespace Blueprint

/-- A type with a hook that states nothing. -/
def menuPage : Blueprint where
  draft := { name := .text "Menu", bases := [], hook := some (.onType []) }
  statements := []

/-- That type before its hook is run. -/
def menuOpening : Opening := plainOpening 1 "Menu" [rootType] { pageName := .ofText PageType.rootName }

/-- The scene after it. -/
def menuScene : Scene := (({} : Setting).world.opened menuOpening).scene.setDefinition 1 menuOpening.start.lock

/-- The type with an element before its hook is run, if it is the second one. -/
def searchSecondOpening : Opening := plainOpening 2 "Base" [rootType] { pageName := .ofText PageType.rootName }

theorem menuPage_opens : menuPage.Opens ({} : Setting).world menuOpening := by
  refine ⟨?_, rfl, rfl, rfl, .inl rfl, by simp [menuPage]⟩
  rw [Draft.opening?, show Prog.typeName menuPage.draft.name = .ok "Menu" by cbv]
  rfl

theorem searchBase_opens_second (j : Log.Journal) :
    searchBase.Opens { scene := menuScene, journal := j } searchSecondOpening := by
  refine ⟨?_, rfl, rfl, rfl, .inl rfl, by simp [searchBase, Statement.Proper, Value.quiet_text]⟩
  rw [Draft.opening?, show Prog.typeName searchBase.draft.name = .ok "Base" by cbv]
  rfl

/-- The root is all that the type with an element builds on. -/
theorem searchBase_independent : searchBase.draft.Independent ({} : Setting).world.scene := by
  intro base hbase cls hcls
  obtain rfl : base = rootType := List.mem_singleton.mp hbase
  have hroot : cls = rootType := by
    rcases List.mem_cons.mp hcls with rfl | hcls
    · rfl
    · exact List.mem_singleton.mp hcls
  rw [hroot]
  exact ⟨0, _, Setting.root_finished {}⟩

end Blueprint

open Blueprint in
/-- A type has the same definition whether it is defined first or second, and takes no
more declarations. -/
theorem searchBase_permanent :
    ∃ (w₁ w₂ : World) (d : Definition),
      w₁.scene.definition? ⟨1, "Base"⟩ = some d ∧ w₂.scene.definition? ⟨2, "Base"⟩ = some d ∧
      ∃ what, Prog.run (callAt usualRounds 300) usualRounds
          (Prog.callMember (.pageType ⟨1, "Base"⟩) "action" [.text "search", .function 0]) w₁ =
        (.error { fault := .locked d.pageName.text what }, w₁) := by
  let caller := callAt usualRounds usualDepth
  obtain ⟨caught, j, hfirst⟩ := searchBase_defined caller usualRounds
  obtain ⟨_, j', hmenu⟩ := menuPage_opens.defined caller usualRounds rfl (by intro e he; cases he) rfl
  obtain ⟨_, j'', hsecond⟩ := (searchBase_opens_second j').defined (d := searchDefinition) caller usualRounds rfl
    (owned_single ⟨.text "search", .element, .function 0⟩) rfl
  have hdefines₁ := Defines.start.define searchBase_opens hfirst
  have hdefines₂ := (Defines.start.define menuPage_opens hmenu).define (searchBase_opens_second j') hsecond
  obtain ⟨d, hd₁, hd₂⟩ := definitions_permanent.2 hdefines₁ hdefines₂ searchBase_independent
    List.mem_cons_self List.mem_cons_self
  have hdefined : Prog.run caller usualRounds
      (Prog.definePageType searchBase.draft fun cls => Prog.runStatements cls searchBase.statements)
      ({} : Setting).world = _ := hfirst
  obtain ⟨d', -, hpermanent⟩ := definitions_permanent.1 (n := 1) (callAt_does usualRounds usualDepth) hdefined rfl
  obtain ⟨hd', -, hlate, -⟩ := hpermanent [] (fun _ h => nomatch h)
  obtain rfl := Option.some.inj (hd₁.symm.trans hd')
  exact ⟨_, _, d, hd₁, hd₂, hlate _ _ (.onType _ _ (.binding _ _ _ (by decide) rfl)) rfl usualRounds 299⟩

end PageObjects
