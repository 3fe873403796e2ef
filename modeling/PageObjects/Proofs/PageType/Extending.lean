import PageObjects.Proofs.PageType.Permanence

/-!
# Types that build on one base

Most page types build on one base, have a hook, and nothing else.  If the base is a
finished type that takes over no member that declares something, such a type can be
opened, and all that matters about it are the base, the name, and what its hook makes
of the definition of the base: the new type either gets that definition, or the
statement ends with the fault that ended the hook, or with the fault that the type
expects an element that it cannot have.

Main definitions:

- `Draft.onBase`: a draft with one base and a hook.
- `Definition.Orderly`: a definition that is well formed and expects what has a name.
- `Definition.close`: what becomes of a definition after the hook.
- `Scene.Extensible`: a page type that others can build on.

Main results:

- Theorem `Scene.Extensible.opening?`: a type on an extensible base can be opened.
- Theorem `Prog.definePageType_leaves`: what the statement that defines a type comes to.
- Theorem `Scene.Extensible.defined`: the new type is extensible in turn.
-/

namespace PageObjects

namespace PageType

variable {α : Type} [DecidableEq α]

/-- Merging one order with nothing gives that order. -/
theorem mergeWithin_nil {order : List α} (h : order.Nodup) {n : Nat} (hn : order.length ≤ n) :
    mergeWithin n [order, []] = some order := by
  induction order generalizing n with
  | nil => cases n <;> simp [mergeWithin]
  | cons a rest ih =>
    obtain ⟨ha, hrest⟩ := List.nodup_cons.mp h
    obtain ⟨m, rfl⟩ : ∃ m, n = m + 1 := ⟨n - 1, by simp at hn; omega⟩
    have hm : mergeWithin m [rest, []] = some rest := ih hrest (by simpa using hn)
    simp [mergeWithin, nextHead?, withoutHead, ha, hm]

/-- The order of one base comes after a type that builds on it. -/
theorem merge_base {base : α} {above : List α} (h : (base :: above).Nodup) :
    merge [base :: above, [base]] = some (base :: above) := by
  obtain ⟨ha, hrest⟩ := List.nodup_cons.mp h
  have hm : mergeWithin (above.length + 1) [above, []] = some above := mergeWithin_nil hrest (by omega)
  have hsteps : merge [base :: above, [base]] = mergeWithin (above.length + 1 + 1) [base :: above, [base]] := by
    simp [merge]
  rw [hsteps, mergeWithin]
  simp [nextHead?, withoutHead, ha, hm]

end PageType

/-! ## Definitions that expect what has a name -/

/-- A definition that is well formed, and expects an element, if any, by a word. -/
structure Definition.Orderly (d : Definition) : Prop where
  wellFormed : d.WellFormed
  expected : ∀ e, d.expectedElement = some e → e.name.word?.isSome = true

/-- An element is expected by a word, and a link or a button is labelled with one. -/
def Statement.Worded : Statement → Prop
  | .expectElement name _ => name.word?.isSome = true
  | .link label | .button label => label.word?.isSome = true
  | _ => True

namespace Definition.Orderly

variable {d : Definition}

theorem lock (h : d.Orderly) : d.lock.Orderly := ⟨h.wellFormed.lock, h.expected⟩

theorem derive (h : d.Orderly) (pageName : Label) : (d.derive pageName).Orderly :=
  ⟨h.wellFormed.derive pageName, h.expected⟩

/-- An entry keeps a definition orderly, if it expects an element by a word. -/
theorem enter (h : d.Orderly) {e : Entry}
    (he : ∀ name timeout, e = .expectElement name timeout → name.word?.isSome = true) :
    (d.declareEntry e).definition.Orderly := by
  refine ⟨h.wellFormed.enter e, ?_⟩
  have hsame : ∀ d' : Definition, d'.expectedElement = d.expectedElement →
      ∀ x, d'.expectedElement = some x → x.name.word?.isSome = true := by
    intro d' hd' x hx
    exact h.expected x (hd'.symm.trans hx)
  unfold declareEntry
  cases hr : d.enter e with
  | error fault => exact h.expected
  | ok d' =>
    have hopen := enterOpen_of_enter hr
    cases e with
    | address url =>
      cases hopen
      exact h.expected
    | expectElement name timeout =>
      cases hopen
      rintro x ⟨⟩
      exact he name timeout rfl
    | expectTitle title =>
      simp only [Definition.enterOpen] at hopen
      split at hopen <;> cases hopen
      exact h.expected
    | element name locator =>
      simp only [Definition.enterOpen] at hopen
      split at hopen
      · split at hopen <;> cases hopen
        exact h.expected
      · cases hopen
    | action name body =>
      simp only [Definition.enterOpen] at hopen
      split at hopen <;> cases hopen
      exact h.expected

/-- So does an entry under a name that is checked first. -/
theorem named (h : d.Orderly) (facts : TypeFacts) (what : String) (name : GivenName) {entry : Label → Entry}
    (he : ∀ l n t, entry l ≠ .expectElement n t) : (d.declareNamed facts what name entry).definition.Orderly := by
  unfold declareNamed
  cases checkName facts d what name with
  | error fault => exact h
  | ok _ => exact h.enter fun n t hnt => absurd hnt (he _ n t)

/-- So does a link or a button. -/
theorem pair (h : d.Orderly) (facts : TypeFacts) (p : Pair) : (d.declarePair facts p).definition.Orderly := by
  have helement : (d.declareElement facts (.ofText p.element) p.locator).definition.Orderly :=
    h.named facts "element" _ (by simp)
  unfold declarePair Declared.andThen
  split
  · exact helement
  · exact helement.named facts "action" _ (by simp)

/-- A declaration keeps a definition orderly, if it expects an element by a word. -/
theorem make (h : d.Orderly) (facts : TypeFacts) {x : Declaration}
    (hx : ∀ name timeout, x = .expectElement name timeout → name.word?.isSome = true) :
    (d.make facts x).1.Orderly := by
  cases x with
  | address url => exact h.enter (by simp)
  | expectElement name timeout =>
    refine h.enter fun n t hnt => ?_
    cases hnt
    exact hx name timeout rfl
  | expectTitle title => exact h.enter (by simp)
  | element name locator => exact h.named facts "element" name (by simp)
  | action name body => exact h.named facts "action" name (by simp)
  | link label =>
    simp only [Definition.make, declare]
    split
    · exact h.pair facts _
    · exact h
  | button label =>
    simp only [Definition.make, declare]
    split
    · exact h.pair facts _
    · exact h

variable {reading : Reading} {usual : Value} {facts : TypeFacts}

/-- A statement keeps a definition orderly, if it expects an element by a word. -/
theorem made (h : d.Orderly) {st : Statement} (hst : st.Worded) : (st.made reading usual facts d).1.Orderly := by
  have hbinding : ∀ (kind : BindingKind) (name body : Value),
      (Statement.bindingMade reading facts d kind name body).1.Orderly := by
    intro kind name body
    unfold Statement.bindingMade
    split
    · exact h
    · split
      · exact h.make facts (by cases kind <;> simp [Prog.bindingDeclaration])
      · exact h
  have hlabel : ∀ (label : Value) {x : Declaration}, (∀ n t, x ≠ .expectElement n t) →
      (Statement.labelMade facts d label x).1.Orderly := by
    intro label x hx
    unfold Statement.labelMade
    split
    · exact h.make facts fun n t hnt => absurd hnt (hx n t)
    · exact h
  cases st with
  | address url => exact h.make facts (by simp)
  | expectElement name timeout =>
    refine h.make facts fun n t hnt => ?_
    cases hnt
    exact hst
  | expectTitle title => exact h.make facts (by simp)
  | binding member name body => exact hbinding _ name body
  | decorated member name body => exact hbinding _ name body
  | link label => exact hlabel label (by simp)
  | button label => exact hlabel label (by simp)

/-- A list of statements keeps a definition orderly. -/
theorem allMade (h : d.Orderly) {steps : List (Except Fault Statement)}
    (hsteps : ∀ st, .ok st ∈ steps → st.Worded) : (Statement.allMade reading usual facts d steps).1.Orderly := by
  induction steps generalizing d with
  | nil => exact h
  | cons step rest ih =>
    cases step with
    | error fault => exact h
    | ok st =>
      have hmade : (st.made reading usual facts d).1.Orderly := h.made (hsteps st List.mem_cons_self)
      rw [Statement.allMade]
      rcases hst : st.made reading usual facts d with ⟨d', _ | r⟩
      · rw [hst] at hmade
        exact ih hmade fun st hst => hsteps st (List.mem_cons_of_mem _ hst)
      · rw [hst] at hmade
        exact hmade

end Definition.Orderly

/-! ## The end of a statement that defines a type -/

namespace Definition

/-- The fault that a type expects an element that it cannot have: one that is neither
declared nor an attribute. -/
def missing? (fullName : String) (has : String → Bool) (d : Definition) : Option Raised :=
  match d.expectedElement with
  | none => none
  | some e =>
    if (d.slot? e.name.identity).isSome || has (e.name.word?.getD "") then none
    else some { fault := .unresolvable fullName e.name.wordLabel.text }

/-- What becomes of a definition after the hook, and how the statement ends: it is
locked, unless the hook has failed or something is missing. -/
def close (fullName : String) (has : String → Bool) : Definition × Option Raised → Definition × Option Raised
  | (d, some r) => (d, some r)
  | (d, none) =>
    match d.missing? fullName has with
    | some r => (d, some r)
    | none => (d.lock, none)

end Definition

namespace Prog

variable {caller : Caller} {rounds : Nat} {w w' : World} {cls : ClassRef} {n : Nat} {d : Definition}

/-- To check what a type expects comes to the fault that something is missing. -/
theorem run_checkExpectation (hcls : w.scene.definitionOf? cls = some n) (hn : w.scene.definitions[n]? = some d)
    (hd : d.Orderly) :
    run caller rounds (checkExpectation cls) w =
      (ended (d.missing? (w.scene.fullName cls) (w.scene.hasAttribute cls)), w) := by
  have hdefinition : w.scene.definition? cls = some d := Option.bind_eq_some_iff.mpr ⟨n, hcls, hn⟩
  rw [checkExpectation, bind_eq, run_view_bind, hdefinition, Option.bind_some, Definition.missing?]
  cases he : d.expectedElement with
  | none => rfl
  | some e =>
    have hword := hd.expected e he
    obtain ⟨name, hname⟩ := Option.isSome_iff_exists.mp hword
    have hslot : run caller rounds (expectedSlot cls e.name) w = (.ok (d.slot? e.name.identity), w) := by
      rw [expectedSlot, if_pos (Value.hashable_of_word hword), bind_eq, run_view_bind, hdefinition, Option.bind_some]
      cases hs : d.slot? e.name.identity with
      | none => rfl
      | some slot =>
        obtain ⟨b, rfl, -⟩ := hd.wellFormed.binding_of_slot? hs
        rfl
    simp only [bind_eq]
    rw [run_bind, hslot, andThen_ok]
    cases hs : d.slot? e.name.identity with
    | some slot => rfl
    | none =>
      simp only [Option.isSome_none, Bool.false_or, hname, Option.getD_some]
      rw [run_bind, run_ofOption_some, andThen_ok, run_view_bind]
      split
      · rfl
      · rw [run_view_bind, formatted_word hword]
        rfl

/-- What is done with a type after its hook has run. -/
theorem closeType_makes (hcls : w.scene.definitionOf? cls = some n) (hn : w.scene.definitions[n]? = some d)
    (hd : d.Orderly) (caught : List Raised) :
    Makes caller rounds (closeType cls caught) w n
      (Definition.close (w.scene.fullName cls) (w.scene.hasAttribute cls) (d, none)) := by
  rw [Makes, closeType, bind_eq, run_bind, run_checkExpectation hcls hn hd, Definition.close]
  cases d.missing? (w.scene.fullName cls) (w.scene.hasAttribute cls) with
  | some r => exact ⟨.error r, w.journal, by rw [Scene.setDefinition_same hn]; rfl, rfl⟩
  | none =>
    have hlocked : (run caller rounds (lockType cls) w).1 = .ok () := lockType_ok hcls hn hd.wellFormed.owned
    simp only [ended, andThen_ok, bind_eq]
    rw [run_bind]
    rcases hlock : run caller rounds (lockType cls) w with ⟨_ | _, w₁⟩
    · rw [hlock] at hlocked
      cases hlocked
    · obtain ⟨m, d', hm, hd', hscene⟩ := lockType_scene hlock
      obtain rfl : n = m := Option.some.inj (hcls.symm.trans hm)
      obtain rfl : d = d' := Option.some.inj (hn.symm.trans hd')
      refine ⟨.ok caught, w₁.journal, ?_, rfl⟩
      rw [andThen_ok, ← hscene]
      rfl

/-- What the statement that defines a type comes to, if its hook changes the definition
of the type, and nothing else but that it may keep the bodies of functions. -/
theorem definePageType_leaves {draft : Draft} {o : Opening} (declare : ClassRef → Prog (List Raised))
    {r : Definition × Option Raised} {functions : List Expr} (ho : draft.opening? w.scene = some o)
    (hown : draft.members.lookup Draft.definitionMember = none)
    (hset : w.scene.inherited? o.type.lineage settingUpMember = none) (hhook : draft.hook.isSome)
    (hleaves : Leaves caller rounds (declare o.cls) (w.opened o)
      { (w.opened o).scene.setDefinition w.scene.definitions.length r.1 with functions } r.2) (hr : r.1.Orderly) :
    let closed := Definition.close o.type.fullName ((w.opened o).scene.hasAttribute o.cls) r
    ∃ answer j, run caller rounds (definePageType draft declare) w =
        (answer,
          { scene := { (w.opened o).scene.setDefinition w.scene.definitions.length closed.1 with functions }
            journal := j }) ∧
      answer.map (·.1) = (ended closed.2).map fun _ => o.cls := by
  have hopened := Draft.opening?_eq_some_iff.mp ho
  have hmembers : o.type.members = (draft.allMembers o.cls).filter fun m => m.1 != Draft.definitionMember := by
    rw [hopened.type]
  have hfull : (w.opened o).scene.fullName o.cls = o.type.fullName := by
    rw [Scene.fullName, World.opened_pageType? (by rw [hopened.cls])]
    rfl
  rw [run_definePageType declare ho hown hset, run_bind, hmembers, runOwnHook_draft, if_pos hhook]
  obtain ⟨d, fault⟩ := r
  cases fault with
  | some r =>
    obtain ⟨j, hrun⟩ := hleaves.run_error
    rw [hrun]
    exact ⟨.error r, j, rfl, rfl⟩
  | none =>
    obtain ⟨caught, j, hrun⟩ := hleaves.run_ok
    have hown := (Opening.owns ho).definitionOf?
    have hplace := Scene.setDefinition_getElem? (Opening.definition w o) d
    let told : World :=
      { scene := { (w.opened o).scene.setDefinition w.scene.definitions.length d with functions }, journal := j }
    have hclose : Makes caller rounds (closeType o.cls caught) told _
        (Definition.close ((w.opened o).scene.fullName o.cls) ((w.opened o).scene.hasAttribute o.cls) (d, none)) :=
      closeType_makes (w := told) hown hplace hr caught
    obtain ⟨answer, j', hrun', hended⟩ := hclose
    have htwice : ∀ d', told.scene.setDefinition w.scene.definitions.length d' =
        { (w.opened o).scene.setDefinition w.scene.definitions.length d' with functions } := fun d' => by
      rw [← Scene.setDefinition_setDefinition (w.opened o).scene w.scene.definitions.length d d']
      rfl
    rw [hfull, htwice] at hrun'
    rw [hfull] at hended
    rw [hrun, andThen_ok, hrun']
    cases answer with
    | error r =>
      refine ⟨.error r, j', rfl, ?_⟩
      rw [← hended]
      rfl
    | ok caught' =>
      refine ⟨.ok (o.cls, caught'), j', rfl, ?_⟩
      rw [← hended]
      rfl

end Prog

/-! ## Types on one base -/

namespace Draft

/-- A draft with one base and a hook, and nothing else. -/
def onBase (name : Value) (base : ClassRef) (hook : Hook) (home : String) : Draft :=
  { name, bases := [base], hook := some hook, home }

/-- A type on one base before its hook is run. -/
def openingOn (s : Scene) (page : String) (base : ClassRef) (d : Definition) (hook : Hook) (home : String) : Opening :=
  let cls : ClassRef := ⟨s.pageTypes.length, page⟩
  { cls, start := d.derive (.ofText page)
    type :=
      { name := page, fullName := page, bases := [base], lineage := cls :: s.lineage base
        members := [(hookMember, .hook cls), ("__module__", .text home), ("__doc__", .none)]
        hook := some hook, definition := some s.definitions.length } }

end Draft

/-- A page type that others can build on: it and all that it builds on are finished, it
sets up its types as the root does, takes over no member that declares something, and
its definition is orderly. -/
structure Scene.Extensible (s : Scene) (base : ClassRef) (d : Definition) : Prop where
  first : ∃ above, s.lineage base = base :: above
  once : (s.lineage base).Nodup
  finished : ∀ cls ∈ s.lineage base, ∃ n d, s.Finished cls n d
  definition : s.definition? base = some d
  setUp : s.member? base Prog.settingUpMember = none
  members : s.overrides base Statement.members = false
  orderly : d.Orderly

/-- The root can be built on from the beginning. -/
theorem Setting.root_extensible (setting : Setting) :
    setting.world.scene.Extensible rootType { pageName := .ofText PageType.rootName, locked := true } where
  first := ⟨[], rfl⟩
  once := by simp [Scene.lineage, Scene.pageType?, Setting.world, rootType]
  finished := by
    intro cls hcls
    obtain rfl : cls = rootType := List.mem_singleton.mp hcls
    exact ⟨0, _, setting.root_finished⟩
  definition := setting.root_finished.definition?
  setUp := rfl
  members := rfl
  orderly := ⟨(Definition.WellFormed.fresh (.ofText PageType.rootName)).lock, fun e he => nomatch he⟩

namespace Scene.Extensible

variable {s s' : Scene} {w : World} {base : ClassRef} {d : Definition}

/-- A type that can be built on is there. -/
theorem isSome (h : s.Extensible base d) : ∀ cls ∈ s.lineage base, (s.pageType? cls).isSome := by
  intro cls hcls
  obtain ⟨n, d, hfinished⟩ := h.finished cls hcls
  exact hfinished.isSome

/-- It is finished, with its definition. -/
theorem base_finished (h : s.Extensible base d) : ∃ n, s.Finished base n d := by
  obtain ⟨above, habove⟩ := h.first
  obtain ⟨n, d', hfinished⟩ := h.finished base (by rw [habove]; exact List.mem_cons_self)
  obtain rfl : d' = d := Option.some.inj (hfinished.definition?.symm.trans h.definition)
  exact ⟨n, hfinished⟩

/-- A type that could be built on still can. -/
theorem continues (h : s.Extensible base d) (hc : s.Continues s') : s'.Extensible base d := by
  obtain ⟨n, hfinished⟩ := h.base_finished
  have hline : s'.lineage base = s.lineage base := hc.lineage hfinished.isSome
  have hmember : ∀ name, s'.member? base name = s.member? base name := hc.member? hfinished.isSome h.isSome
  refine ⟨by rw [hline]; exact h.first, by rw [hline]; exact h.once, ?_, (hc.finished hfinished).definition?,
    by rw [hmember]; exact h.setUp, ?_, h.orderly⟩
  · intro cls hcls
    rw [hline] at hcls
    obtain ⟨m, d', hd'⟩ := h.finished cls hcls
    exact ⟨m, d', hc.finished hd'⟩
  · have hmembers := h.members
    simp only [overrides, hmember] at hmembers ⊢
    exact hmembers

section

variable (h : w.scene.Extensible base d) (page : String) (hook : Hook) (home : String)

include h

/-- A type on an extensible base can be opened. -/
theorem opening? {name : Value} (hname : Prog.typeName name = .ok page) :
    (Draft.onBase name base hook home).opening? w.scene = some (Draft.openingOn w.scene page base d hook home) := by
  obtain ⟨above, habove⟩ := h.first
  have horder : Prog.newLineage w.scene ⟨w.scene.pageTypes.length, page⟩ [base] =
      some (⟨w.scene.pageTypes.length, page⟩ :: w.scene.lineage base) := by
    have honce := h.once
    rw [habove] at honce
    rw [Prog.newLineage, PageType.linearization, if_pos (by simp), List.map_cons, List.map_nil,
      List.singleton_append, habove, PageType.merge_base honce]
    rfl
  refine Draft.opening?_eq_some_iff.mpr ⟨hname, rfl, rfl, horder, ⟨base, d, ?_, h.definition, rfl⟩, rfl⟩
  rw [show (Draft.openingOn w.scene page base d hook home).type.lineage[1]? = (w.scene.lineage base)[0]? from rfl,
    habove]
  rfl

/-- Which members a type on an extensible base has before its hook is run. -/
theorem opened_member? (name : String) :
    ((w.opened (Draft.openingOn w.scene page base d hook home)).scene.member?
        ⟨w.scene.pageTypes.length, page⟩ name).isSome =
      (["declare", "__module__", "__doc__"].contains name || (w.scene.member? base name).isSome) := by
  have hmember := World.opened_member? (o := Draft.openingOn w.scene page base d hook home) rfl rfl h.isSome name
  have hbase : (w.scene.lineage base).any (fun cls => ((w.scene.ownMembers cls).lookup name).isSome) =
      (w.scene.member? base name).isSome := List.isSome_findSome?.symm
  have hown : ((Draft.openingOn w.scene page base d hook home).type.members.lookup name).isSome =
      ["declare", "__module__", "__doc__"].contains name := by
    simp only [Draft.openingOn, Draft.hookMember, List.lookup_cons, List.lookup_nil, List.contains_cons,
      List.contains_nil, Bool.or_false]
    cases name == "declare" <;> cases name == "__module__" <;> cases name == "__doc__" <;> rfl
  rw [hbase, hown] at hmember
  exact hmember

/-- A type on an extensible base takes over no member that declares something. -/
theorem opened_overrides :
    (w.opened (Draft.openingOn w.scene page base d hook home)).scene.overrides
      ⟨w.scene.pageTypes.length, page⟩ Statement.members = false := by
  have hbase := h.members
  simp only [overrides, List.any_eq_false, h.opened_member?] at hbase ⊢
  intro m hm
  have hnew : ["declare", "__module__", "__doc__"].contains m = false := by
    revert m
    decide
  rw [hnew, Bool.false_or]
  exact hbase m hm

/-- Which attributes a type on an extensible base has does not depend on its hook, nor
on the module that it belongs to. -/
theorem opened_hasAttribute (hook' : Hook) (home' : String) :
    (w.opened (Draft.openingOn w.scene page base d hook home)).scene.hasAttribute ⟨w.scene.pageTypes.length, page⟩ =
      (w.opened (Draft.openingOn w.scene page base d hook' home')).scene.hasAttribute
        ⟨w.scene.pageTypes.length, page⟩ := by
  funext name
  rw [hasAttribute, hasAttribute, h.opened_member?, h.opened_member?]

/-- Nor do the facts that its declarations have to know. -/
theorem opened_facts (hook' : Hook) (home' : String) :
    (w.opened (Draft.openingOn w.scene page base d hook home)).scene.facts ⟨w.scene.pageTypes.length, page⟩ =
      (w.opened (Draft.openingOn w.scene page base d hook' home')).scene.facts ⟨w.scene.pageTypes.length, page⟩ := by
  have hname : ∀ hook home, (w.opened (Draft.openingOn w.scene page base d hook home)).scene.fullName
      ⟨w.scene.pageTypes.length, page⟩ = page := by
    intro hook home
    have hself : (w.opened (Draft.openingOn w.scene page base d hook home)).scene.pageType?
        ⟨w.scene.pageTypes.length, page⟩ = some _ :=
      World.opened_pageType? (o := Draft.openingOn w.scene page base d hook home) rfl
    rw [fullName, hself]
    rfl
  have hhides : ∀ s : Scene, s.hides ⟨w.scene.pageTypes.length, page⟩ = fun name =>
      name == PageType.reservedField || s.hasAttribute ⟨w.scene.pageTypes.length, page⟩ name := fun s => rfl
  rw [facts, facts, hname, hname, hhides, hhides, h.opened_hasAttribute page hook home hook' home']

/-- A type on an extensible base that has got its definition is extensible in turn. -/
theorem defined {d' : Definition} (hlocked : d'.locked = true) (hd' : d'.Orderly) :
    ((w.opened (Draft.openingOn w.scene page base d hook home)).scene.setDefinition
      w.scene.definitions.length d').Extensible ⟨w.scene.pageTypes.length, page⟩ d' := by
  let o : Opening := Draft.openingOn w.scene page base d hook home
  have hc : w.scene.Continues ((w.opened o).scene.setDefinition w.scene.definitions.length d') :=
    w.opened_continues o d'
  have hself : (w.opened o).scene.pageType? ⟨w.scene.pageTypes.length, page⟩ = some o.type :=
    World.opened_pageType? (o := o) rfl
  have hfinished : ((w.opened o).scene.setDefinition w.scene.definitions.length d').Finished
      ⟨w.scene.pageTypes.length, page⟩ w.scene.definitions.length d' :=
    ⟨⟨o.type, hself, rfl, rfl⟩, Scene.setDefinition_getElem? (Opening.definition w o) d', hlocked⟩
  have hline : ((w.opened o).scene.setDefinition w.scene.definitions.length d').lineage
      ⟨w.scene.pageTypes.length, page⟩ = ⟨w.scene.pageTypes.length, page⟩ :: w.scene.lineage base := by
    show (((w.opened o).scene.pageType? ⟨w.scene.pageTypes.length, page⟩).map (·.lineage)).getD [] = _
    rw [hself]
    rfl
  have hnew : (⟨w.scene.pageTypes.length, page⟩ : ClassRef) ∉ w.scene.lineage base := by
    intro hmem
    obtain ⟨t, ht⟩ := Option.isSome_iff_exists.mp (h.isSome _ hmem)
    have hlt : w.scene.pageTypes.length < w.scene.pageTypes.length := (List.getElem?_eq_some_iff.mp ht).1
    omega
  refine ⟨⟨_, hline⟩, ?_, ?_, hfinished.definition?, ?_, h.opened_overrides page hook home, hd'⟩
  · rw [hline]
    exact List.nodup_cons.mpr ⟨hnew, h.once⟩
  · intro cls hcls
    rw [hline] at hcls
    rcases List.mem_cons.mp hcls with rfl | hcls
    · exact ⟨_, _, hfinished⟩
    · obtain ⟨n, d₀, hd₀⟩ := h.finished cls hcls
      exact ⟨n, d₀, hc.finished hd₀⟩
  · have hsame := h.opened_member? page hook home Prog.settingUpMember
    rw [h.setUp] at hsame
    have hnone : ((w.opened o).scene.member? ⟨w.scene.pageTypes.length, page⟩ Prog.settingUpMember).isSome = false :=
      hsame.trans (by decide)
    exact Option.not_isSome_iff_eq_none.mp (by rw [Bool.not_eq_true]; exact hnone)

end

end Scene.Extensible

end PageObjects
