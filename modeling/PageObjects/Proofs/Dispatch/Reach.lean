import PageObjects.Proofs.PageType.Descent

/-!
# Which bindings a page finds

A page looks a name up on itself and along the lineage of its type before it asks for
bindings, and it never asks for names that begin and end with two underscores.  The
check of a name that is declared looks at the attributes that the type has then.  So a
binding in the table of a type is found on its pages unless its name has the guarded
shape, or an attribute of a type that builds on the declaring one, or of another base,
hides it.

Main results:

- Theorem `Scene.resolve_eq_bound_iff`: when a name comes to the binding under it.
- Theorem `binding_found_iff`: when a page finds a binding of its type.
-/

namespace PageObjects

namespace Value

/-- What gets an owner is no binding that is bound to a page. -/
theorem boundTo_ne_bound (v owner : Value) (name : String) (kind : BindingKind) (payload page : Value) :
    v.boundTo owner ≠ .bound name kind payload page := by
  cases v <;> simp [boundTo]

end Value

namespace Scene

variable {s : Scene} {page : Value} {id : Nat} {cls : ClassRef} {name : String} {b : Binding}

/-- An attribute of a type is no binding that is bound to a page. -/
theorem ofPage_ne_bound (v owner : Value) (kind : BindingKind) (payload : Value) :
    s.ofPage v owner cls ≠ .bound name kind payload page := by
  unfold ofPage
  split
  · split <;> simp
  · exact Value.boundTo_ne_bound _ _ _ _ _ _

/-- A member of the root is no binding that is bound to a page. -/
theorem rootAttribute_ne_bound (owner : Value) (n : String) (kind : BindingKind) (payload : Value) :
    s.rootAttribute owner cls n ≠ .bound name kind payload page := by
  simp only [rootAttribute]
  split
  · cases s.definitionOf? cls <;> simp
  · simp
  · simp
  · simp

/-- What every thing has whatever it keeps is found under guarded names only, and is no
binding that is bound to a page. -/
theorem of_thingPart? {type part : Value} (h : thingPart? id type name = some part) :
    PageType.isGuarded name = true ∧ (part = .mapping (.fields id) ∨ part = type ∨ part = .none) := by
  simp only [thingPart?] at h
  split at h
  · rename_i hname
    cases h
    subst hname
    exact ⟨by decide +kernel, .inl rfl⟩
  · split at h
    · rename_i hname
      cases h
      subst hname
      exact ⟨by decide +kernel, .inr (.inl rfl)⟩
    · split at h
      · rename_i hname
        cases h
        subst hname
        exact ⟨by decide +kernel, .inr (.inr rfl)⟩
      · cases h

/-- A name whose shape is not guarded stands for no such part. -/
theorem pagePart?_of_not_isGuarded (h : PageType.isGuarded name = false) : s.pagePart? id cls name = none := by
  refine pagePart?_eq_none ?_
  cases hp : thingPart? id (.pageType cls) name with
  | none => rfl
  | some part =>
    rw [(of_thingPart? hp).1] at h
    cases h

/-- When a name comes to the binding that stands under it: its shape is not guarded,
and neither the type nor the root has an attribute of that name. -/
theorem resolve_eq_bound_iff (hslot : s.slot? cls name = some (.binding b)) (hname : b.name.word? = some name)
    (hfield : s.field? id name = none) (hfurther : s.member? cls furtherName = none) :
    s.resolve page id cls name = .found (.bound name b.kind b.payload page) ↔
      PageType.isGuarded name = false ∧ s.member? cls name = none ∧ PageType.isRootName name = false := by
  constructor
  · intro h
    unfold resolve at h
    cases hpart : s.pagePart? id cls name with
    | some part =>
      -- what stands for the thing itself is no binding
      simp only [hpart, Resolution.found.injEq] at h
      subst h
      simp only [pagePart?] at hpart
      split at hpart
      · cases hpart
      · obtain ⟨-, hpart⟩ := of_thingPart? hpart
        rcases hpart with h | h | h <;> cases h
    | none =>
      simp only [hpart, hfield] at h
      cases hmember : s.member? cls name with
      | some v =>
        simp only [hmember, Resolution.found.injEq] at h
        exact absurd h (ofPage_ne_bound _ _ _ _)
      | none =>
        simp only [hmember, hfurther] at h
        by_cases hroot : PageType.isRootName name = true
        · simp only [hroot, if_true, Resolution.found.injEq] at h
          exact absurd h (rootAttribute_ne_bound _ _ _ _)
        · rw [if_neg hroot, fallback] at h
          by_cases hguarded : PageType.isGuarded name = true
          · rw [if_pos hguarded] at h
            cases h
          · exact ⟨by simpa using hguarded, rfl, by simpa using hroot⟩
  · rintro ⟨hguarded, hmember, hroot⟩
    have hpart : s.pagePart? id cls name = none := pagePart?_of_not_isGuarded hguarded
    simp only [resolve, hpart, hfield, hmember, hroot, hfurther, Bool.false_eq_true, if_false]
    exact fallback_binding hguarded hslot hname

/-- A name with a binding under it is found, or refused; it is not handed on. -/
theorem resolve_of_binding (hslot : s.slot? cls name = some (.binding b)) (hname : b.name.word? = some name)
    (hfurther : s.member? cls furtherName = none) :
    (∃ v, s.resolve page id cls name = .found v) ∨ ∃ fault, s.resolve page id cls name = .refused fault := by
  unfold resolve
  split
  · exact .inl ⟨_, rfl⟩
  · split
    · exact .inl ⟨_, rfl⟩
    · split
      · exact .inl ⟨_, rfl⟩
      · split
        · exact .inl ⟨_, rfl⟩
        · rw [hfurther]
          simp only [fallback, hslot, hname]
          split
          · exact .inr ⟨_, rfl⟩
          · exact .inl ⟨_, rfl⟩

end Scene

namespace Prog

variable {caller : Caller} {rounds : Nat} {w : World} {id : Nat} {cls : ClassRef} {name : String} {b : Binding}

/-- When a page finds a binding of its type, in a given world. -/
theorem run_attributeOf_page_iff (hslot : w.scene.slot? cls name = some (.binding b))
    (hname : b.name.word? = some name) (hfield : w.scene.field? id name = none)
    (hplain : w.scene.overrides cls [everyName, furtherName] = false) :
    run caller rounds (attributeOf name (.page id cls)) w =
        (.ok (.bound name b.kind b.payload (.page id cls)), w) ↔
      PageType.isGuarded name = false ∧ w.scene.member? cls name = none ∧ PageType.isRootName name = false := by
  have hevery : w.scene.member? cls everyName = none :=
    Scene.member?_of_overrides hplain (List.mem_cons_self ..)
  have hfurther : w.scene.member? cls furtherName = none :=
    Scene.member?_of_overrides hplain (List.mem_cons_of_mem _ List.mem_cons_self)
  have hrun : run caller rounds (attributeOf name (.page id cls)) w =
      run caller rounds (settlePage (attributeAt handingLimit) cls name
        (w.scene.resolve (.page id cls) id cls name)) w := by
    rw [attributeOf, attributeAt_page, pageAttribute, bind_eq, run_view_bind, hevery]
    rfl
  have hbound : w.scene.resolve (.page id cls) id cls name = .found (.bound name b.kind b.payload (.page id cls)) ↔ _ :=
    Scene.resolve_eq_bound_iff hslot hname hfield hfurther
  have hcases : (∃ v, w.scene.resolve (.page id cls) id cls name = .found v) ∨
      ∃ fault, w.scene.resolve (.page id cls) id cls name = .refused fault :=
    Scene.resolve_of_binding hslot hname hfurther
  rw [hrun, ← hbound]
  rcases hcases with ⟨v, hv⟩ | ⟨fault, hfault⟩
  · rw [hv]
    simp [settlePage, settle]
  · rw [hfault]
    simp [settlePage, settle]

end Prog

/-! ## Names that pass the check -/

/-- A binding that is found under a text stands under its own name. -/
theorem Definition.slot?_of_get? {d : Definition} (howned : ∀ e ∈ d.table, Owned e) {name : String} {b : Binding}
    (h : d.get? [.text name] = some b) :
    d.slot? [.text name] = some (.binding b) ∧ b.name.word? = some name := by
  obtain ⟨slot, hslot, hsb⟩ := Option.bind_eq_some_iff.mp h
  obtain ⟨c, rfl, hname⟩ := binding_of_owned howned hslot
  cases hsb
  exact ⟨hslot, Value.identity_eq_text_iff.mp hname⟩

/-! ## Bindings that are found -/

/-- When pages find bindings.  Whatever a script has done, as long as it did not write to
tables from outside: a page that keeps nothing under a name itself, and of which the type
looks names up as the root does, finds the binding that the table of its type has under
the name exactly if the name is not guarded and neither its type nor the root has an
attribute of that name. -/
theorem binding_found_iff {setting : Setting} {deeds : List Deed} (hspares : ∀ n, Spares n deeds) (caller : Caller)
    (rounds : Nat) {cls : ClassRef} {d : Definition} {name : String} {b : Binding} {id : Nat}
    (hd : (setting.world.after deeds).scene.definition? cls = some d) (hb : d.get? [.text name] = some b)
    (hfield : (setting.world.after deeds).scene.field? id name = none)
    (hplain : (setting.world.after deeds).scene.overrides cls [everyName, furtherName] = false) :
    Prog.run caller rounds (Prog.attributeOf name (.page id cls)) (setting.world.after deeds) =
        (.ok (.bound name b.kind b.payload (.page id cls)), setting.world.after deeds) ↔
      PageType.isGuarded name = false ∧ (setting.world.after deeds).scene.member? cls name = none ∧
        PageType.isRootName name = false := by
  obtain ⟨n, -, hn⟩ := Option.bind_eq_some_iff.mp hd
  have hwell := World.after_wellFormed setting.wellFormed hspares d (List.mem_of_getElem? hn)
  obtain ⟨hslot, hname⟩ := Definition.slot?_of_get? hwell.owned hb
  exact Prog.run_attributeOf_page_iff (Option.bind_eq_some_iff.mpr ⟨d, hd, hslot⟩) hname hfield hplain

/-! ## Bindings that are not found -/

/-- What is done to add a type that builds on others, with an open copy of a definition. -/
def addingType (id : Nat) (name : String) (above : List ClassRef) (members : List (String × Value)) : List Deed :=
  [.op (.derive (id - 1) (.ofText name)),
   .op (.addPageType
    { name, fullName := name, bases := above.take 1, lineage := ⟨id, name⟩ :: above, members
      definition := some id })]

/-- What is done to define a type with an element under a guarded name and a plain one,
and a type that builds on it, with an attribute that has the plain name. -/
def hidingDeeds : List Deed :=
  let base := addingType 1 "Base" [rootType] []
  let facts := (({} : Setting).world.after base).scene.facts ⟨1, "Base"⟩
  base ++
    [.op (.declare 1 facts (.element (.ofText "__x__") (.function 0))),
     .op (.declare 1 facts (.element (.ofText "search") (.function 1))), .op (.lock 1)] ++
    addingType 2 "Child" [⟨1, "Base"⟩, rootType] [("search", .int 2)] ++ [.op (.lock 2)]

/-- The world after that. -/
def hidingWorld : World := ({} : Setting).world.after hidingDeeds

/-- The definition that both types end up with. -/
def hidingDefinition (name : String) : Definition where
  pageName := .ofText name
  table :=
    [([.text "__x__"], ⟨.text "__x__", .binding ⟨.text "__x__", .element, .function 0⟩⟩),
     ([.text "search"], ⟨.text "search", .binding ⟨.text "search", .element, .function 1⟩⟩)]
  everElements := [.text "__x__", .text "search"]
  locked := true

/-- Both names are accepted.  The guarded one is not found, and the plain one is found
on the type that declares it but not on the one that hides it. -/
theorem hidingWorld_found :
    (hidingWorld.scene.definition? ⟨1, "Base"⟩ = some (hidingDefinition "Base") ∧
      hidingWorld.scene.definition? ⟨2, "Child"⟩ = some (hidingDefinition "Child")) ∧
    Prog.run (callAt usualRounds usualDepth) usualRounds (Prog.attributeOf "__x__" (.page 0 ⟨1, "Base"⟩)) hidingWorld ≠
      (.ok (.bound "__x__" .element (.function 0) (.page 0 ⟨1, "Base"⟩)), hidingWorld) ∧
    Prog.run (callAt usualRounds usualDepth) usualRounds (Prog.attributeOf "search" (.page 0 ⟨1, "Base"⟩)) hidingWorld =
      (.ok (.bound "search" .element (.function 1) (.page 0 ⟨1, "Base"⟩)), hidingWorld) ∧
    Prog.run (callAt usualRounds usualDepth) usualRounds (Prog.attributeOf "search" (.page 0 ⟨2, "Child"⟩)) hidingWorld ≠
      (.ok (.bound "search" .element (.function 1) (.page 0 ⟨2, "Child"⟩)), hidingWorld) := by
  have hspares : ∀ n, Spares n hidingDeeds := by
    intro n x hx
    simp only [hidingDeeds, addingType, List.mem_append, List.mem_cons, List.not_mem_nil, or_false] at hx
    rcases hx with (((rfl | rfl) | rfl | rfl | rfl) | rfl | rfl) | rfl <;> exact fun h => nomatch h
  have hfound : ∀ (cls : ClassRef) (d : Definition) (name : String) (b : Binding),
      hidingWorld.scene.definition? cls = some d → d.get? [.text name] = some b →
      hidingWorld.scene.field? 0 name = none → hidingWorld.scene.overrides cls [everyName, furtherName] = false →
      (Prog.run (callAt usualRounds usualDepth) usualRounds (Prog.attributeOf name (.page 0 cls)) hidingWorld =
          (.ok (.bound name b.kind b.payload (.page 0 cls)), hidingWorld) ↔
        PageType.isGuarded name = false ∧ hidingWorld.scene.member? cls name = none ∧
          PageType.isRootName name = false) := fun cls d name b hd hb hfield hplain =>
    binding_found_iff hspares _ _ hd hb hfield hplain
  refine ⟨⟨rfl, rfl⟩, ?_, ?_, ?_⟩
  · intro h
    obtain ⟨hguarded, -⟩ := (hfound ⟨1, "Base"⟩ (hidingDefinition "Base") "__x__"
      ⟨.text "__x__", .element, .function 0⟩ rfl rfl rfl rfl).mp h
    rw [show PageType.isGuarded "__x__" = true by decide +kernel] at hguarded
    cases hguarded
  · exact (hfound ⟨1, "Base"⟩ (hidingDefinition "Base") "search" ⟨.text "search", .element, .function 1⟩
      rfl rfl rfl rfl).mpr ⟨by decide +kernel, rfl, by decide⟩
  · intro h
    obtain ⟨-, hmember, -⟩ := (hfound ⟨2, "Child"⟩ (hidingDefinition "Child") "search"
      ⟨.text "search", .element, .function 1⟩ rfl rfl rfl rfl).mp h
    cases hmember

end PageObjects
