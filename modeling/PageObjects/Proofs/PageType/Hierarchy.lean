import PageObjects.Proofs.PageType.Extending
import PageObjects.Proofs.PageType.Labels

/-!
# Hierarchies of page types

A page type that has been defined builds on types that have been defined, back to the
root.  Its lineage has the lineages of all these types within it, so whatever is an
attribute of one of them is an attribute of the type.  The element that a type expects
is looked for when its hook has come to its end: in its table, and among its attributes.
Both are there for good, for the type and for all that build on it, even for types that a
base sets up by its own means, which are not checked themselves.

Main definitions:

- `Scene.Honours`: a type has what a definition expects.
- `Scene.Sound`: a type of which all definitions along the lineage are honoured.
- `Prog.openType`: what is done with a type up to the end of its hook.
- `World.HasDefined`: the types that have been defined in a world.

Main results:

- Theorem `PageType.mem_linearization`: what is in the order of a type.
- Theorem `Scene.Sound.ofBases`: a type on sound types is sound if its own definition is
  honoured.
- Theorem `Prog.definePageType_added`: what a type that was defined is like.
- Theorem `World.HasDefined.sound`: all types that have been defined are sound.
-/

namespace PageObjects

namespace PageType

variable {α : Type} [DecidableEq α]

/-- What is in one of the orders is in the merged order. -/
theorem mem_of_mergeWithin {n : Nat} {orders : List (List α)} {merged : List α}
    (h : mergeWithin n orders = some merged) {o : List α} (ho : o ∈ orders) {x : α} (hx : x ∈ o) : x ∈ merged := by
  have hleft : ∀ {orders : List (List α)} {o : List α}, o ∈ orders → x ∈ o → ¬ orders.all List.isEmpty = true := by
    intro orders o ho hx hall
    rw [List.isEmpty_iff.mp (List.all_eq_true.mp hall o ho)] at hx
    cases hx
  induction n generalizing orders merged o with
  | zero =>
    rw [mergeWithin, if_neg (hleft ho hx)] at h
    cases h
  | succ n ih =>
    rw [mergeWithin, if_neg (hleft ho hx)] at h
    cases hhead : nextHead? orders with
    | none =>
      rw [hhead] at h
      cases h
    | some y =>
      rw [hhead] at h
      obtain ⟨rest, hrest, rfl⟩ := Option.map_eq_some_iff.mp h
      by_cases hxy : x = y
      · exact List.mem_cons.mpr (.inl hxy)
      · -- only the head is taken from an order, so the order still has what is asked for
        have hstays : x ∈ (if o.head? = some y then o.tail else o) := by
          split
          · rename_i hy
            cases o with
            | nil => cases hx
            | cons z o =>
              cases hy
              exact (List.mem_cons.mp hx).resolve_left hxy
          · exact hx
        exact List.mem_cons_of_mem _ (ih hrest (List.mem_map_of_mem ho) hstays)

/-- The order of a type starts with the type; what comes after it is what is in the orders
of its bases, or is a base. -/
theorem mem_linearization {self : α} {bases order : List α} {orders : List (List α)}
    (h : linearization self bases orders = some order) :
    ∃ rest, order = self :: rest ∧ ∀ x, x ∈ rest ↔ ∃ o ∈ orders ++ [bases], x ∈ o := by
  rw [linearization] at h
  split at h
  · obtain ⟨rest, hrest, rfl⟩ := Option.map_eq_some_iff.mp h
    refine ⟨rest, rfl, fun x => ⟨mem_mergeWithin hrest, ?_⟩⟩
    rintro ⟨o, ho, hx⟩
    exact mem_of_mergeWithin hrest ho hx
  · cases h

end PageType

/-! ## What is expected -/

/-- What is missing of an element that is expected by a text. -/
theorem Definition.missing?_of_expected {d : Definition} {e : ElementExpectation} {name : String}
    (he : d.expectedElement = some e) (hname : e.name.word? = some name) (fullName : String) (has : String → Bool) :
    d.missing? fullName has =
      if (d.slot? [.text name]).isSome || has name then none
      else some { fault := .unresolvable fullName e.name.wordLabel.text } := by
  simp only [missing?, he, Value.identity_eq_text_iff.mpr hname, hname, Option.getD_some]

/-- A binding stands under a text exactly if anything does. -/
theorem Definition.WellFormed.isSome_get? {d : Definition} (hd : d.WellFormed) (k : Key) :
    (d.get? k).isSome = (d.slot? k).isSome := by
  cases hs : d.slot? k with
  | none => rw [get?, hs]; rfl
  | some slot =>
    obtain ⟨b, rfl, -⟩ := hd.binding_of_slot? hs
    rw [get?, hs]
    rfl

namespace Scene

variable {s s' : Scene} {cls c : ClassRef} {d : Definition}

/-- A type has what a definition expects: what is expected by a text is bound in the
definition, or an attribute of the type. -/
def Honours (s : Scene) (cls : ClassRef) (d : Definition) : Prop :=
  ∀ e name, d.expectedElement = some e → e.name.word? = some name →
    (d.get? [.text name]).isSome = true ∨ s.hasAttribute cls name = true

/-- The attributes of a type are attributes of all types that have its lineage within theirs. -/
theorem hasAttribute_mono (h : s.lineage c ⊆ s.lineage cls) {name : String} (hc : s.hasAttribute c name = true) :
    s.hasAttribute cls name = true := by
  simp only [hasAttribute, member?, List.isSome_findSome?, Bool.or_eq_true, List.any_eq_true] at hc ⊢
  rcases hc with (⟨x, hx, hown⟩ | hroot) | htype
  · exact .inl (.inl ⟨x, h hx, hown⟩)
  · exact .inl (.inr hroot)
  · exact .inr htype

theorem Honours.mono (hc : s.Honours c d) (h : s.lineage c ⊆ s.lineage cls) : s.Honours cls d :=
  fun e name he hname => (hc e name he hname).imp_right (hasAttribute_mono h)

/-- A page type that is there with its lineage, which has the lineages of all its types
within it, and of which all definitions are finished and honoured. -/
structure Sound (s : Scene) (cls : ClassRef) : Prop where
  self : cls ∈ s.lineage cls
  isSome : ∀ c ∈ s.lineage cls, (s.pageType? c).isSome
  within : ∀ c ∈ s.lineage cls, s.lineage c ⊆ s.lineage cls
  honest : ∀ c ∈ s.lineage cls, ∀ n, (s.pageType? c).bind (·.definition) = some n →
    ∃ d, s.Finished c n d ∧ s.Honours c d

namespace Sound

/-- A sound type honours the definition that it goes by, its own or an inherited one. -/
theorem honours (h : s.Sound cls) (hd : s.definition? cls = some d) : s.Honours cls d := by
  obtain ⟨n, hn, hdn⟩ := Option.bind_eq_some_iff.mp hd
  obtain ⟨c, hc, hcn⟩ := List.exists_of_findSome?_eq_some hn
  obtain ⟨d', hfinished, hhonours⟩ := h.honest c hc n hcn
  obtain rfl : d = d' := Option.some.inj (hdn.symm.trans hfinished.definition)
  exact hhonours.mono (h.within c hc)

/-- A type that was sound still is. -/
theorem continues (h : s.Sound cls) (hc : s.Continues s') : s'.Sound cls := by
  have hline : ∀ c ∈ s.lineage cls, s'.lineage c = s.lineage c := fun c hcc => hc.lineage (h.isSome c hcc)
  have hself : s'.lineage cls = s.lineage cls := hline cls h.self
  have htype : ∀ c ∈ s.lineage cls, s'.pageType? c = s.pageType? c := by
    intro c hcc
    obtain ⟨t, ht⟩ := Option.isSome_iff_exists.mp (h.isSome c hcc)
    rw [ht, hc.pageType? ht]
  refine ⟨by rw [hself]; exact h.self, ?_, ?_, ?_⟩
  · intro c hcc
    rw [hself] at hcc
    rw [htype c hcc]
    exact h.isSome c hcc
  · intro c hcc
    rw [hself] at hcc
    rw [hself, hline c hcc]
    exact h.within c hcc
  · intro c hcc n hn
    rw [hself] at hcc
    rw [htype c hcc] at hn
    obtain ⟨d, hfinished, hhonours⟩ := h.honest c hcc n hn
    refine ⟨d, hc.finished hfinished, fun e name he hname => (hhonours e name he hname).imp_right fun hhas => ?_⟩
    have hmember : s'.member? c name = s.member? c name :=
      hc.member? (h.isSome c hcc) (fun x hx => h.isSome x (h.within c hcc hx)) name
    rw [hasAttribute, hmember]
    exact hhas

/-- A type on sound types is sound if its own definition, if it has one, is finished and
honoured. -/
theorem ofBases {bases : List ClassRef} {t : PageType} (hbases : ∀ base ∈ bases, s.Sound base)
    (ht : s.pageType? cls = some t) (horder : PageType.linearization cls bases (bases.map s.lineage) = some t.lineage)
    (hown : ∀ n, t.definition = some n → ∃ d, s.Finished cls n d ∧ s.Honours cls d) : s.Sound cls := by
  obtain ⟨rest, hrest, hmem⟩ := PageType.mem_linearization horder
  have hline : s.lineage cls = cls :: rest := by
    rw [lineage, ht, ← hrest]
    rfl
  -- all types above the new one are in the lineage of a base
  have habove : ∀ c ∈ rest, ∃ base ∈ bases, c ∈ s.lineage base := by
    intro c hc
    obtain ⟨o, ho, hco⟩ := (hmem c).mp hc
    rcases List.mem_append.mp ho with ho | ho
    · obtain ⟨base, hbase, rfl⟩ := List.mem_map.mp ho
      exact ⟨base, hbase, hco⟩
    · obtain rfl := List.mem_singleton.mp ho
      exact ⟨c, hco, (hbases c hco).self⟩
  have hwithin : ∀ base ∈ bases, s.lineage base ⊆ rest := fun base hbase x hx =>
    (hmem x).mpr ⟨_, List.mem_append_left _ (List.mem_map_of_mem hbase), hx⟩
  refine ⟨by rw [hline]; exact List.mem_cons_self, ?_, ?_, ?_⟩
  · intro c hc
    rw [hline] at hc
    rcases List.mem_cons.mp hc with rfl | hc
    · rw [ht]
      rfl
    · obtain ⟨base, hbase, hc⟩ := habove c hc
      exact (hbases base hbase).isSome c hc
  · intro c hc x hx
    rw [hline] at hc ⊢
    rcases List.mem_cons.mp hc with rfl | hc
    · exact hline ▸ hx
    · obtain ⟨base, hbase, hc⟩ := habove c hc
      exact List.mem_cons_of_mem _ (hwithin base hbase ((hbases base hbase).within c hc hx))
  · intro c hc n hn
    rw [hline] at hc
    rcases List.mem_cons.mp hc with rfl | hc
    · rw [ht] at hn
      exact hown n hn
    · obtain ⟨base, hbase, hc⟩ := habove c hc
      exact (hbases base hbase).honest c hc n hn

end Sound

/-- The root is sound from the beginning: it expects nothing. -/
theorem root_sound (setting : Setting) : setting.world.scene.Sound rootType where
  self := List.mem_singleton_self _
  isSome c hc := by
    obtain rfl := List.mem_singleton.mp hc
    rfl
  within c hc := by
    obtain rfl := List.mem_singleton.mp hc
    exact fun _ hx => hx
  honest c hc n hn := by
    obtain rfl := List.mem_singleton.mp hc
    cases hn
    exact ⟨_, setting.root_finished, fun _ _ he => nomatch he⟩

end Scene

/-! ## Statements that define types -/

/-- The type that a draft stands for, as it is before it has a definition, or why it stands
for none. -/
def Draft.newType (draft : Draft) (s : Scene) : Except Fault (ClassRef × PageType) := do
  let name ← Prog.typeName draft.name
  let fullName ← draft.fullName name
  let cls : ClassRef := ⟨s.pageTypes.length, name⟩
  match Prog.newLineage s cls draft.allBases with
  | some lineage =>
    .ok (cls,
      { name, fullName, bases := draft.allBases, lineage, members := draft.allMembers cls, hook := draft.hook })
  | none => .error .wrongType

/-- The new type comes next, and has its order from its bases. -/
theorem Draft.newType_eq_ok {draft : Draft} {s : Scene} {cls : ClassRef} {t : PageType}
    (h : draft.newType s = .ok (cls, t)) :
    cls.id = s.pageTypes.length ∧ Prog.newLineage s cls draft.allBases = some t.lineage ∧ t.definition = none := by
  simp only [newType, bind, Except.bind] at h
  split at h
  · cases h
  · split at h
    · cases h
    · split at h
      · rename_i lineage hlineage
        cases h
        exact ⟨rfl, hlineage, rfl⟩
      · cases h

/-- A draft builds on something, if only on the root. -/
theorem Draft.exists_mem_allBases (draft : Draft) : ∃ base, base ∈ draft.allBases := by
  rw [allBases]
  split
  · exact ⟨rootType, List.mem_singleton_self _⟩
  · rename_i hbases
    exact List.exists_mem_of_ne_nil _ (by simpa using hbases)

namespace Prog

variable {caller : Caller} {called : Called} {rounds : Nat} {w w' : World} {cls : ClassRef} {n : Nat} {d : Definition}
  {t : PageType} {draft : Draft} {declare : ClassRef → Prog (List Raised)} {caught caught' : List Raised}

/-- Set up a page type, by the member of a base if there is one. -/
def setUp (t : PageType) (self : ClassRef) (declare : ClassRef → Prog (List Raised)) : Prog (List Raised) := do
  match ← view fun s => s.inherited? t.lineage settingUpMember with
  | some setter => setUpBy setter t self
  | none => setUpType t self declare

/-- What is done with a type up to the end of its hook. -/
def openType (t : PageType) (self : ClassRef) (declare : ClassRef → Prog (List Raised)) : Prog (List Raised) := do
  let parent ← parentOf t.members t.lineage
  let definition ← op (.derive parent (.ofText t.fullName))
  let members := t.members.filter fun m => m.1 != Draft.definitionMember
  op (.addPageType { t with members, definition := some definition })
  runOwnHook self members declare

/-- A type with a definition of its own is opened, and closed after its hook. -/
theorem run_setUpType_openType (w : World) :
    run caller rounds (setUpType t cls declare) w =
      run caller rounds ((openType t cls declare).bind (closeType cls)) w := by
  simp only [setUpType, openType, bind_eq, bind_assoc]
  rfl

/-- To define a type is to set up the type that the draft stands for. -/
theorem run_definePageType_newType (w : World) :
    run caller rounds (definePageType draft declare) w =
      andThen (run caller rounds (ofFault (draft.newType w.scene)) w) fun new w =>
        andThen (run caller rounds (setUp new.2 new.1 declare) w) fun caught w => (.ok (new.1, caught), w) := by
  have hbases : (if draft.bases.isEmpty then [rootType] else draft.bases) = draft.allBases := rfl
  simp only [definePageType, hbases, Draft.newType, Bind.bind, Except.bind]
  cases typeName draft.name with
  | error fault => rfl
  | ok name =>
    rw [run_ofFault_ok_bind, run_view_bind]
    dsimp only
    cases draft.fullName name with
    | error fault => rfl
    | ok fullName =>
      rw [run_ofFault_ok_bind, run_view_bind]
      dsimp only
      cases newLineage w.scene ⟨w.scene.pageTypes.length, name⟩ draft.allBases with
      | none => rfl
      | some lineage =>
        rw [run_ofOption_some_bind, run_view_bind, run_ofFault_ok, andThen_ok, setUp, bind_eq, run_view_bind]
        cases w.scene.inherited? lineage settingUpMember with
        | none => exact run_bind _ _ w
        | some setter => exact run_bind _ _ w

/-- A type that was defined is the type that the draft stands for, and was set up. -/
theorem definePageType_ok (h : run caller rounds (definePageType draft declare) w = (.ok (cls, caught), w')) :
    ∃ t, draft.newType w.scene = .ok (cls, t) ∧ run caller rounds (setUp t cls declare) w = (.ok caught, w') := by
  rw [run_definePageType_newType] at h
  cases hnew : draft.newType w.scene with
  | error fault =>
    rw [hnew] at h
    cases h
  | ok new =>
    obtain ⟨cls', t⟩ := new
    rw [hnew, run_ofFault_ok, andThen_ok] at h
    rcases hset : run caller rounds (setUp t cls' declare) w with ⟨_ | caught', w₁⟩
    · rw [hset] at h
      cases h
    · rw [hset] at h
      cases h
      exact ⟨t, rfl, hset⟩

/-! ## The end of a hook -/

/-- After its hook a type has the definition that was made for it. -/
theorem openType_added (hcaller : caller.Does called) (hid : cls.id = w.scene.pageTypes.length)
    (h : run caller rounds (openType t cls declare) w = (.ok caught, w')) :
    ∃ members n, w'.scene.pageType? cls = some { t with members, definition := some n } := by
  simp only [openType, bind_eq] at h
  obtain ⟨parent, _, hparent, h⟩ := run_bind_ok h
  obtain rfl := parentOf_ok hparent
  obtain ⟨n, w₁, hderive, h⟩ := run_bind_ok h
  obtain ⟨_, w₂, hadd, h⟩ := run_bind_ok h
  obtain ⟨deeds, rfl⟩ := run_after hcaller _ h
  have hid₁ : cls.id = w₁.scene.pageTypes.length := by
    cases hderive
    exact hid
  refine ⟨t.members.filter fun m => m.1 != Draft.definitionMember, n, World.after_pageType ?_ deeds⟩
  cases hadd
  exact Scene.addPageType_pageType? hid₁ _

/-- A type that passes the check honours its definition. -/
theorem checkExpectation_honours {u : Unit} (hcls : w.scene.definitionOf? cls = some n)
    (hn : w.scene.definitions[n]? = some d) (hd : d.WellFormed)
    (h : run caller rounds (checkExpectation cls) w = (.ok u, w')) : w.scene.Honours cls d := by
  intro e name he hname
  have horderly : d.Orderly := ⟨hd, fun e' he' => by cases he.symm.trans he'; rw [hname]; rfl⟩
  rw [run_checkExpectation hcls hn horderly, Definition.missing?_of_expected he hname, ← hd.isSome_get?] at h
  split at h
  · rename_i hhas
    exact (Bool.or_eq_true _ _).mp hhas
  · cases h

/-- A type that has been closed is finished and honours its definition, if this is well formed. -/
theorem closeType_honours (hown : w.scene.Owns cls n)
    (hwell : ∀ d, w'.scene.definitions[n]? = some d → d.WellFormed)
    (h : run caller rounds (closeType cls caught) w = (.ok caught', w')) :
    ∃ d, w'.scene.Finished cls n d ∧ w'.scene.Honours cls d := by
  simp only [closeType, bind_eq] at h
  obtain ⟨_, _, hcheck, h⟩ := run_bind_ok h
  obtain rfl := checkExpectation_world hcheck
  obtain ⟨_, _, hlock, h⟩ := run_bind_ok h
  cases h
  obtain ⟨m, d, hm, hd, hscene⟩ := lockType_scene hlock
  obtain rfl : m = n := Option.some.inj (hm.symm.trans hown.definitionOf?)
  have hlocked : w'.scene.definitions[m]? = some d.lock := by
    rw [hscene]
    exact Scene.setDefinition_getElem? hd d.lock
  -- nothing but the lock has changed since the check
  have hhonours : w.scene.Honours cls d :=
    checkExpectation_honours hm hd ((hwell _ hlocked).congr rfl rfl) hcheck
  refine ⟨d.lock, ⟨?_, hlocked, rfl⟩, ?_⟩
  · rw [hscene]
    exact hown
  · rw [hscene]
    exact hhonours

/-- A type that was defined has the order that its bases give it, and if it has a definition
of its own, this is finished and honoured. -/
theorem definePageType_added (hcaller : caller.Does called)
    (hwell : ∀ (n : Nat) (d : Definition), w'.scene.definitions[n]? = some d → d.WellFormed)
    (h : run caller rounds (definePageType draft declare) w = (.ok (cls, caught), w')) :
    ∃ t, w'.scene.pageType? cls = some t ∧ newLineage w.scene cls draft.allBases = some t.lineage ∧
      ∀ n, t.definition = some n → ∃ d, w'.scene.Finished cls n d ∧ w'.scene.Honours cls d := by
  obtain ⟨t, hnew, hset⟩ := definePageType_ok h
  obtain ⟨hid, hlineage, hnone⟩ := Draft.newType_eq_ok hnew
  rw [setUp, bind_eq, run_view_bind] at hset
  split at hset
  · -- a member of a base has set the type up, so it has no definition of its own
    simp only [setUpBy, bind_eq, run_op_bind] at hset
    obtain ⟨deeds, rfl⟩ := run_after hcaller _ hset
    refine ⟨t, World.after_pageType (Scene.addPageType_pageType? hid t) deeds, hlineage, fun n hn => ?_⟩
    rw [hnone] at hn
    cases hn
  · rw [run_setUpType_openType] at hset
    obtain ⟨caught', w₁, hopen, hclose⟩ := run_bind_ok hset
    obtain ⟨members, n, ht⟩ := openType_added hcaller hid hopen
    have hown : w₁.scene.Owns cls n := ⟨_, ht, newLineage_head? hlineage, rfl⟩
    obtain ⟨d, hfinished, hhonours⟩ := closeType_honours hown (hwell n) hclose
    obtain ⟨-, m, d', -, -, hscene⟩ := closeType_scene hclose
    refine ⟨{ t with members, definition := some n }, ?_, hlineage, ?_⟩
    · rw [hscene]
      exact ht
    · rintro m' ⟨⟩
      exact ⟨d, hfinished, hhonours⟩

end Prog

/-! ## Types that have been defined -/

/-- The page types that have been defined in a world: the root from the beginning, and a
type on such types once the statement that defines it has come to its end, whatever its
hook does and whatever is done besides, as long as no table is written to from outside. -/
inductive World.HasDefined : World → ClassRef → Prop where
  | root (setting : Setting) : HasDefined setting.world rootType
  | meanwhile {w : World} {cls : ClassRef} {deeds : List Deed} : (∀ n, Spares n deeds) → HasDefined w cls →
      HasDefined (w.after deeds) cls
  | define {w w' : World} {cls : ClassRef} {caller : Caller} {called : Called} {rounds : Nat} {draft : Draft}
      {declare : ClassRef → Prog (List Raised)} {caught : List Raised} : caller.Does called →
      (∀ base ∈ draft.allBases, HasDefined w base) →
      Prog.run caller rounds (Prog.definePageType draft declare) w = (.ok (cls, caught), w') →
      (∀ n, Spares n ((Prog.definePageType draft declare).deeds caller called rounds w)) → HasDefined w' cls

namespace World

variable {w : World} {cls : ClassRef}

/-- What can come to be can go on. -/
theorem Reached.after (h : w.Reached) {deeds : List Deed} (hspares : ∀ n, Spares n deeds) :
    (w.after deeds).Reached := by
  obtain ⟨setting, before, hbefore, rfl⟩ := h
  refine ⟨setting, before ++ deeds, fun n x hx => ?_, (after_append _ _ _).symm⟩
  rcases List.mem_append.mp hx with hx | hx
  · exact hbefore n x hx
  · exact hspares n x hx

/-- So can a run that writes to no table from outside. -/
theorem Reached.run (h : w.Reached) {caller : Caller} {called : Called} (hcaller : caller.Does called) {rounds : Nat}
    {α : Type} {p : Prog α} (hspares : ∀ n, Spares n (p.deeds caller called rounds w)) :
    (p.run caller rounds w).2.Reached := by
  rw [Prog.run_world hcaller]
  exact h.after hspares

/-- All types that have been defined are sound, in a world that can come to be. -/
theorem HasDefined.sound (h : w.HasDefined cls) : w.Reached ∧ w.scene.Sound cls := by
  induction h with
  | root setting => exact ⟨⟨setting, [], fun _ _ hx => absurd hx List.not_mem_nil, rfl⟩, Scene.root_sound setting⟩
  | @meanwhile w cls deeds hspares _ ih =>
    obtain ⟨hreached, hsound⟩ := ih
    exact ⟨hreached.after hspares, hsound.continues (w.after_continues hspares)⟩
  | @define w w' cls caller called rounds draft declare caught hcaller _ hrun hspares ih =>
    obtain ⟨base, hbase⟩ := draft.exists_mem_allBases
    have hworld : w' = w.after ((Prog.definePageType draft declare).deeds caller called rounds w) := by
      rw [← Prog.run_world hcaller, hrun]
    have hreached : w'.Reached := hworld ▸ (ih base hbase).1.after hspares
    have hcontinues : w.scene.Continues w'.scene := hworld ▸ w.after_continues hspares
    obtain ⟨t, ht, horder, hown⟩ := Prog.definePageType_added hcaller (fun n d hn => hreached.wellFormed hn) hrun
    -- the lineages of the bases are as they were, so the order of the type can be read off afterwards
    have hlineages : draft.allBases.map w'.scene.lineage = draft.allBases.map w.scene.lineage :=
      List.map_congr_left fun base hbase =>
        hcontinues.lineage ((ih base hbase).2.isSome base (ih base hbase).2.self)
    refine ⟨hreached, .ofBases (fun base hbase => (ih base hbase).2.continues hcontinues) ht ?_ hown⟩
    rw [hlineages]
    exact horder

end World

end PageObjects
