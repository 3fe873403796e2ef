import PageObjects.Proofs.PageType.Finished
import PageObjects.Proofs.PageType.Stating

/-!
# How a type comes to be

The statement that defines a page type has three parts.  First the type is added,
with an open copy of the definition of the next type of its lineage.  Then its hook
is run.  At last the type is locked.  If the hook consists of statements, nothing
else in the scene is changed.

Main definitions:

- `Opening`: a type as it is before its hook is run.
- `Draft.opening?`: the opening of a draft.
- `Blueprint`: a draft with the statements of its hook.

Main results:

- Theorem `Prog.run_definePageType`: a type is opened, runs its hook, and is closed.
- Theorem `Blueprint.Opens.define_scene`: the scene after a blueprint was defined.
- Theorem `Blueprint.Opens.define_ok`: when a blueprint is defined.
- Theorem `Blueprint.Opens.define_finished`: the definition that it ends up with.
-/

namespace PageObjects

/-- A type as it is before its hook is run: its reference, the type that is added, and
the open copy that it starts from. -/
structure Opening where
  cls : ClassRef
  type : PageType
  start : Definition

namespace Draft

/-- The types that a draft builds on. -/
def allBases (draft : Draft) : List ClassRef := if draft.bases.isEmpty then [rootType] else draft.bases

/-- The opening of a draft, if it has a name, an order, and a definition to start from. -/
def opening? (draft : Draft) (s : Scene) : Option Opening := do
  let name ← (Prog.typeName draft.name).toOption
  let fullName ← (draft.fullName name).toOption
  let cls : ClassRef := ⟨s.pageTypes.length, name⟩
  let lineage ← Prog.newLineage s cls draft.allBases
  let parent ← (lineage[1]?).bind s.definition?
  let members := (draft.allMembers cls).filter fun m => m.1 != definitionMember
  some
    { cls, start := parent.derive (.ofText fullName)
      type := { name, fullName, bases := draft.allBases, lineage, members, hook := draft.hook
                definition := some s.definitions.length } }

/-- What an opening of a draft consists of. -/
structure Opened (draft : Draft) (s : Scene) (o : Opening) : Prop where
  name : Prog.typeName draft.name = .ok o.type.name
  fullName : draft.fullName o.type.name = .ok o.type.fullName
  cls : o.cls = ⟨s.pageTypes.length, o.type.name⟩
  lineage : Prog.newLineage s o.cls draft.allBases = some o.type.lineage
  start : ∃ parent origin, o.type.lineage[1]? = some parent ∧ s.definition? parent = some origin ∧
    o.start = origin.derive (.ofText o.type.fullName)
  type : o.type =
    { o.type with
      bases := draft.allBases, members := (draft.allMembers o.cls).filter fun m => m.1 != definitionMember
      hook := draft.hook, definition := some s.definitions.length }

/-- A draft opens exactly as it is said. -/
theorem opening?_eq_some_iff {draft : Draft} {s : Scene} {o : Opening} :
    draft.opening? s = some o ↔ draft.Opened s o := by
  constructor
  · intro h
    simp only [opening?, Option.bind_eq_bind, Option.bind_eq_some_iff] at h
    obtain ⟨name, hname, fullName, hfull, lineage, hlineage, origin, ⟨parent, hparent, horigin⟩, ho⟩ := h
    cases ho
    have hok : Prog.typeName draft.name = .ok name := by
      cases hr : Prog.typeName draft.name <;> simp_all [Except.toOption]
    have hokFull : draft.fullName name = .ok fullName := by
      cases hr : draft.fullName name <;> simp_all [Except.toOption]
    exact ⟨hok, hokFull, rfl, hlineage, ⟨parent, origin, hparent, horigin, rfl⟩, rfl⟩
  · rintro ⟨hname, hfull, hcls, hlineage, ⟨parent, origin, hparent, horigin, hstart⟩, htype⟩
    obtain ⟨cls, type, start⟩ := o
    simp only at hname hfull hcls hlineage hparent hstart htype
    subst hcls hstart
    simp only [opening?, hname, Except.toOption, hfull, hlineage, hparent, Option.bind_eq_bind, Option.bind_some,
      horigin]
    rw [htype]

/-- Members under another name are found among what is left. -/
theorem lookup_filter_ne {name n : String} (h : name ≠ n) (members : List (String × Value)) :
    (members.filter fun m => m.1 != n).lookup name = members.lookup name := by
  induction members with
  | nil => rfl
  | cons m rest ih =>
    obtain ⟨k, v⟩ := m
    by_cases hk : k = n
    · subst hk
      simp [List.lookup_cons, ih, beq_eq_false_iff_ne.mpr h]
    · simp [hk, List.lookup_cons, ih]

/-- The members that are added to a draft are its hook and its notes. -/
theorem lookup_allMembers (draft : Draft) (cls : ClassRef) (name : String)
    (hname : name ∉ [fullNameMember, "__doc__", "__module__"]) :
    (draft.allMembers cls).lookup name =
      if draft.hook.isSome ∧ name = hookMember then some (.hook cls) else draft.members.lookup name := by
  simp only [List.mem_cons, List.not_mem_nil, or_false, not_or] at hname
  obtain ⟨hfull, hdoc, hmodule⟩ := hname
  have hdefault : ∀ (n : String) (v : Value) (ms : List (String × Value)), name ≠ n →
      (withDefault n v ms).lookup name = ms.lookup name := by
    intro n v ms hn
    unfold withDefault
    split
    · rfl
    · have hlast : [(n, v)].lookup name = none := by simp [List.lookup_cons, beq_eq_false_iff_ne.mpr hn]
      rw [List.lookup_append, hlast, Option.or_none]
  rw [allMembers, hdefault _ _ _ hdoc, hdefault _ _ _ hmodule]
  by_cases hhook : draft.hook.isSome = true
  · rw [if_pos hhook, Assoc.lookup_put, lookup_filter_ne hfull]
    simp [hhook]
  · rw [if_neg hhook, lookup_filter_ne hfull]
    simp [hhook]

end Draft

/-- The world in which the hook of a new type is run. -/
def World.opened (w : World) (o : Opening) : World :=
  { w with scene := (w.scene.addDefinition o.start).2.addPageType o.type }

/-- The new type is found in the opened world. -/
theorem World.opened_pageType? {w : World} {o : Opening} (hid : o.cls.id = w.scene.pageTypes.length) :
    (w.opened o).scene.pageType? o.cls = some o.type := by
  show (w.scene.pageTypes ++ [o.type])[o.cls.id]? = some o.type
  rw [hid]
  exact List.getElem?_concat_length

/-- A type that is opened, and gets a definition, leaves what is finished as it is. -/
theorem World.opened_finished {w : World} {cls : ClassRef} {n : Nat} {d : Definition} (h : w.scene.Finished cls n d)
    (o : Opening) (d' : Definition) :
    ((w.opened o).scene.setDefinition w.scene.definitions.length d').Finished cls n d := by
  obtain ⟨t, ht, hown⟩ := h.own
  have hid : cls.id < w.scene.pageTypes.length := (List.getElem?_eq_some_iff.mp ht).1
  have hlt : n < w.scene.definitions.length := (List.getElem?_eq_some_iff.mp h.definition).1
  have hne : ¬ w.scene.definitions.length = n := by omega
  refine ⟨⟨t, (List.getElem?_append_left hid).trans ht, hown⟩, ?_, h.locked⟩
  rw [Scene.setDefinition]
  simp only [List.getElem?_set, hne, if_false]
  exact (List.getElem?_append_left hlt).trans h.definition

namespace Prog

variable {caller : Caller} {rounds : Nat} {w w' : World} {cls : ClassRef}

/-- To check what a type expects leaves the world as it is, if all is well. -/
theorem checkExpectation_world {u : Unit} (h : run caller rounds (checkExpectation cls) w = (.ok u, w')) :
    w = w' := by
  simp only [checkExpectation, bind_eq, pure_eq] at h
  rw [run_view_bind] at h
  split at h
  · cases h
    rfl
  · obtain ⟨slot, w₁, hslot, h⟩ := run_bind_ok h
    have hw₁ : w = w₁ := by
      simp only [expectedSlot] at hslot
      split at hslot
      · cases hslot
        rfl
      · cases hslot
    subst hw₁
    split at h
    · cases h
      rfl
    · obtain ⟨name, w₂, hname, h⟩ := run_bind_ok h
      obtain ⟨-, rfl⟩ := run_ofOption_ok hname
      rw [run_view_bind] at h
      split at h
      · cases h
        rfl
      · rw [run_view_bind] at h
        obtain ⟨_, _, -, h⟩ := run_bind_ok h
        cases h

/-- A type that expects nothing, or what it has bound, passes the check. -/
theorem checkExpectation_ok {d : Definition} (hd : w.scene.definition? cls = some d)
    (hexpected : ∀ e, d.expectedElement = some e → e.name.hashable = true ∧ (d.get? e.name.identity).isSome) :
    run caller rounds (checkExpectation cls) w = (.ok (), w) := by
  rw [checkExpectation, bind_eq, run_view_bind, hd, Option.bind_some]
  cases he : d.expectedElement with
  | none => rfl
  | some e =>
    obtain ⟨hhash, hbound⟩ := hexpected e he
    obtain ⟨b, hb⟩ := Option.isSome_iff_exists.mp hbound
    obtain ⟨slot, hslot, hsb⟩ := Option.bind_eq_some_iff.mp hb
    have habsent : slot.isAbsent = false := by
      cases slot with
      | binding c => rfl
      | stray v => cases hsb
    have hfound : run caller rounds (expectedSlot cls e.name) w = (.ok (some slot), w) := by
      rw [expectedSlot, if_pos hhash, bind_eq, run_view_bind, hd, Option.bind_some, hslot]
      simp [habsent]
    simp only [bind_eq]
    rw [run_bind, hfound]
    rfl

/-- A type whose table is in order can be locked. -/
theorem lockType_ok {n : Nat} {d : Definition} (hn : w.scene.definitionOf? cls = some n)
    (hd : w.scene.definitions[n]? = some d) (howned : ∀ e ∈ d.table, Definition.Owned e) :
    (run caller rounds (lockType cls) w).1 = .ok () := by
  have hlocked : ((Op.lock n).run w).2 = { w with scene := w.scene.setDefinition n d.lock } := by
    simp [Op.run, World.update, hd, World.setScene]
  have hafter : (w.scene.setDefinition n d.lock).definition? cls = some d.lock := by
    rw [Scene.definition?, show (w.scene.setDefinition n d.lock).definitionOf? cls = some n from hn]
    exact Scene.setDefinition_getElem? hd d.lock
  have hnames : ∀ kind, ∃ names, Definition.namesIn kind d.lock.table = .ok names := fun kind =>
    ⟨_, Definition.namesIn_eq kind howned⟩
  obtain ⟨elements, helements⟩ := hnames .element
  obtain ⟨actions, hactions⟩ := hnames .action
  simp only [lockType, definitionNumber, definitionOf, bind_eq]
  rw [run_bind, run_view_bind, hn, run_ofOption_some, andThen_ok, run_op_bind, hlocked, run_bind, run_view_bind,
    hafter, run_ofOption_some, andThen_ok, Definition.elementNames, helements, run_ofFault_ok_bind,
    Definition.actionNames, hactions, run_ofFault_ok_bind, run_view_bind,
    run_log_of_plain (typeDefined_plain _ _ _)]

/-- What is done with a type after its hook has run. -/
def closeType (cls : ClassRef) (caught : List Raised) : Prog (List Raised) := do
  checkExpectation cls
  lockType cls
  pure caught

/-- What is set up with a definition of its own is opened, runs its hook, and is closed. -/
theorem run_setUpType {t : PageType} (declare : ClassRef → Prog (List Raised)) {parent : ClassRef}
    {origin : Definition} (hown : t.members.lookup Draft.definitionMember = none)
    (hparent : t.lineage[1]? = some parent) (horigin : w.scene.definition? parent = some origin) :
    run caller rounds (setUpType t cls declare) w =
      run caller rounds
        ((runOwnHook cls (t.members.filter fun m => m.1 != Draft.definitionMember) declare).bind (closeType cls))
        (w.opened
          { cls, start := origin.derive (.ofText t.fullName)
            type := { t with
              members := t.members.filter fun m => m.1 != Draft.definitionMember
              definition := some w.scene.definitions.length } }) := by
  obtain ⟨n, hn, hd⟩ := Option.bind_eq_some_iff.mp horigin
  have hstart : run caller rounds (parentOf t.members t.lineage) w = (.ok n, w) := by
    rw [parentOf, hown]
    simp only [bind_eq]
    rw [run_view_bind, hparent, Option.bind_some, hn]
    rfl
  have hderive : (Op.derive n (.ofText t.fullName)).run w =
      (w.scene.definitions.length, { w with
        scene := (w.scene.addDefinition (origin.derive (.ofText t.fullName))).2 }) := by
    simp [Op.run, hd, World.withScene, Scene.addDefinition]
  simp only [setUpType, bind_eq]
  rw [run_bind, hstart, andThen_ok, run_op_bind, hderive, run_op_bind]
  rfl

/-- A page type is opened, runs its hook, and is closed. -/
theorem run_definePageType {draft : Draft} (declare : ClassRef → Prog (List Raised)) {o : Opening}
    (ho : draft.opening? w.scene = some o) (hown : draft.members.lookup Draft.definitionMember = none)
    (hset : w.scene.inherited? o.type.lineage settingUpMember = none) :
    run caller rounds (definePageType draft declare) w =
      andThen (run caller rounds ((runOwnHook o.cls o.type.members declare).bind (closeType o.cls)) (w.opened o))
        fun caught w' => (.ok (o.cls, caught), w') := by
  have hopened := Draft.opening?_eq_some_iff.mp ho
  obtain ⟨parent, origin, hparent, horigin, hstart⟩ := hopened.start
  have hbases : (if draft.bases.isEmpty then [rootType] else draft.bases) = draft.allBases := rfl
  have hmembers := draft.lookup_allMembers o.cls Draft.definitionMember (by decide)
  rw [if_neg (fun h => absurd h.2 (by decide)), hown] at hmembers
  rw [definePageType, bind_eq, hopened.name, run_ofFault_ok_bind, bind_eq, run_view_bind, bind_eq, hopened.fullName,
    run_ofFault_ok_bind, bind_eq, run_view_bind, bind_eq, hbases, ← hopened.cls, hopened.lineage,
    run_ofOption_some_bind, bind_eq, run_view_bind, hset]
  simp only [bind_eq, pure_eq]
  let t : PageType :=
    { name := o.type.name, fullName := o.type.fullName, bases := draft.allBases, lineage := o.type.lineage
      members := draft.allMembers o.cls, hook := draft.hook }
  have ho' : o =
      { cls := o.cls, start := origin.derive (.ofText t.fullName)
        type := { t with
          members := t.members.filter fun m => m.1 != Draft.definitionMember
          definition := some w.scene.definitions.length } } := by
    rw [← hstart, ← hopened.type]
  have hleft : t.members.filter (fun m => m.1 != Draft.definitionMember) = o.type.members := by rw [hopened.type]
  rw [run_bind, run_setUpType (t := t) declare hmembers hparent horigin, ← ho', hleft]
  rfl

/-- A type that has been closed is locked. -/
theorem closeType_scene {caught caught' : List Raised}
    (h : run caller rounds (closeType cls caught) w = (.ok caught', w')) :
    caught' = caught ∧ ∃ n d, w.scene.definitionOf? cls = some n ∧ w.scene.definitions[n]? = some d ∧
      w'.scene = w.scene.setDefinition n d.lock := by
  simp only [closeType, bind_eq] at h
  obtain ⟨_, _, hcheck, h⟩ := run_bind_ok h
  obtain rfl := checkExpectation_world hcheck
  obtain ⟨_, _, hlock, h⟩ := run_bind_ok h
  cases h
  exact ⟨rfl, lockType_scene hlock⟩

/-- The hook that a draft has is run for the type itself. -/
theorem runOwnHook_draft {draft : Draft} {declare : ClassRef → Prog (List Raised)} (w : World) :
    run caller rounds (runOwnHook cls
        ((draft.allMembers cls).filter fun m => m.1 != Draft.definitionMember) declare) w =
      if draft.hook.isSome then run caller rounds (declare cls) w
      else
        run caller rounds (runOwnHook cls
          (draft.members.filter fun m => m.1 != Draft.definitionMember) declare) w := by
  have hlookup := draft.lookup_allMembers cls Draft.hookMember (by decide)
  rw [runOwnHook, runOwnHook, Draft.lookup_filter_ne (by decide), Draft.lookup_filter_ne (by decide), hlookup]
  by_cases hhook : draft.hook.isSome = true
  · rw [if_pos ⟨hhook, rfl⟩, if_pos hhook]
    have hself : isHookOf cls (.hook cls) = true := by simp [isHookOf]
    simp only [hself, if_true]
  · rw [if_neg (fun h => hhook h.1), if_neg hhook]

end Prog

/-! ## Blueprints -/

/-- A draft with the statements of its hook, of which guarded ones may fail. -/
structure Blueprint where
  draft : Draft
  statements : List (Bool × Statement)

namespace Opening

variable {draft : Draft} {w : World} {o : Opening}

/-- The type of an opening goes by the definition that is made for it. -/
theorem owns (ho : draft.opening? w.scene = some o) : (w.opened o).scene.Owns o.cls w.scene.definitions.length := by
  have hopened := Draft.opening?_eq_some_iff.mp ho
  refine ⟨o.type, World.opened_pageType? (by rw [hopened.cls]), Prog.newLineage_head? hopened.lineage, ?_⟩
  rw [hopened.type]

/-- That definition is the open copy. -/
theorem definition (w : World) (o : Opening) :
    (w.opened o).scene.definitions[w.scene.definitions.length]? = some o.start :=
  List.getElem?_concat_length

end Opening

namespace Blueprint

variable {caller : Caller} {rounds : Nat} {w w' : World} {b : Blueprint} {o : Opening}

/-- The statement that a blueprint stands for. -/
def define (b : Blueprint) : Prog (ClassRef × List Raised) :=
  Prog.definePageType b.draft fun cls => Prog.runStatements cls b.statements

/-- A blueprint opens in a world as the root has it: it starts from the definition of
the next type of its lineage, no base sets up its types by other means, no member that
declares something is taken over, and its statements are those of its hook. -/
structure Opens (b : Blueprint) (w : World) (o : Opening) : Prop where
  opening : b.draft.opening? w.scene = some o
  start : b.draft.members.lookup Draft.definitionMember = none
  setUp : w.scene.inherited? o.type.lineage Prog.settingUpMember = none
  members : (w.opened o).scene.overrides o.cls Statement.members = false
  hook : b.draft.hook.isSome ∨ b.statements = [] ∧ b.draft.members.lookup Draft.hookMember = none
  proper : ∀ x ∈ b.statements, x.2.Proper

/-- A blueprint starts from an open copy of the definition of the next type of its lineage. -/
theorem Opens.start_eq (hb : b.Opens w o) {base : ClassRef} {d : Definition} (hbase : o.type.lineage[1]? = some base)
    (hd : w.scene.definition? base = some d) : ∃ label, o.start = d.derive label := by
  obtain ⟨parent, origin, hparent, horigin, hstart⟩ := (Draft.opening?_eq_some_iff.mp hb.opening).start
  obtain rfl : parent = base := Option.some.inj (hparent.symm.trans hbase)
  obtain rfl : origin = d := Option.some.inj (horigin.symm.trans hd)
  exact ⟨_, hstart⟩

/-- What the statements of a blueprint tell the definition that it starts from. -/
def told (b : Blueprint) (w : World) (o : Opening) : Definition × Bool :=
  Statement.allTold w.scene.settings.elementTimeout ((w.opened o).scene.facts o.cls) o.start b.statements

/-- The hook of a blueprint runs its statements. -/
theorem Opens.run_hook (h : b.Opens w o) (w' : World) :
    Prog.run caller rounds
        (Prog.runOwnHook o.cls o.type.members fun cls => Prog.runStatements cls b.statements) w' =
      Prog.run caller rounds (Prog.runStatements o.cls b.statements) w' := by
  have hmembers : o.type.members =
      (b.draft.allMembers o.cls).filter fun m => m.1 != Draft.definitionMember := by
    rw [(Draft.opening?_eq_some_iff.mp h.opening).type]
  rw [hmembers, Prog.runOwnHook_draft]
  split
  · rfl
  · rename_i hhook
    rcases h.hook with hsome | ⟨hnil, hnone⟩
    · exact absurd hsome hhook
    · rw [Prog.runOwnHook, Draft.lookup_filter_ne (by decide), hnone, hnil]
      rfl

/-- To define a blueprint is to run its statements in the opened world, and to close the type. -/
theorem Opens.run_define (caller : Caller) (rounds : Nat) (hb : b.Opens w o) :
    ∃ answer j, answer.toBool = (b.told w o).2 ∧
      Prog.run caller rounds b.define w =
        Prog.andThen (answer, { scene := (w.opened o).scene.setDefinition w.scene.definitions.length (b.told w o).1,
                                journal := j })
          fun caught => Prog.run caller rounds ((Prog.closeType o.cls caught).bind fun caught => .done (o.cls, caught)) := by
  have htells : Prog.Tells caller rounds (Prog.runStatements o.cls b.statements) (w.opened o) _ (b.told w o) :=
    Prog.runStatements_tells (Opening.owns hb.opening).definitionOf? (Opening.definition w o) hb.members hb.proper
  obtain ⟨answer, j, hrun, htaken⟩ := htells
  refine ⟨answer, j, htaken, ?_⟩
  rw [define, Prog.run_definePageType _ hb.opening hb.start hb.setUp, Prog.run_bind, hb.run_hook, hrun]
  cases answer with
  | error fault => rfl
  | ok caught =>
    simp only [Prog.andThen_ok]
    rw [Prog.run_bind]
    rfl

/-- The scene after a blueprint was defined: the type has been added, with the locked
definition that its statements made. -/
theorem Opens.define_scene {cls : ClassRef} {caught : List Raised} (hb : b.Opens w o)
    (h : Prog.run caller rounds b.define w = (.ok (cls, caught), w')) :
    cls = o.cls ∧ (b.told w o).2 = true ∧
      w'.scene = (w.opened o).scene.setDefinition w.scene.definitions.length (b.told w o).1.lock := by
  obtain ⟨answer, j, htaken, hrun⟩ := hb.run_define caller rounds
  rw [hrun] at h
  cases answer with
  | error fault => cases h
  | ok caught' =>
    rw [Prog.andThen_ok] at h
    obtain ⟨_, _, hclose, h⟩ := Prog.run_bind_ok h
    cases h
    obtain ⟨-, n, d, hn, hd, hscene⟩ := Prog.closeType_scene hclose
    have hown := Opening.owns hb.opening
    obtain rfl : _ = n := Option.some.inj (hown.definitionOf?.symm.trans hn)
    rw [Scene.setDefinition_getElem? (Opening.definition w o)] at hd
    obtain rfl := Option.some.inj hd
    refine ⟨rfl, htaken.symm, ?_⟩
    rw [hscene, Scene.setDefinition_setDefinition]

/-- A blueprint is defined if its hook comes to its end, and the type expects nothing,
or what it has bound. -/
theorem Opens.define_ok (caller : Caller) (rounds : Nat) (hb : b.Opens w o) (htold : (b.told w o).2 = true)
    (howned : ∀ e ∈ (b.told w o).1.table, Definition.Owned e)
    (hexpected : ∀ e, (b.told w o).1.expectedElement = some e →
      e.name.hashable = true ∧ ((b.told w o).1.get? e.name.identity).isSome) :
    ∃ caught w', Prog.run caller rounds b.define w = (.ok (o.cls, caught), w') := by
  obtain ⟨answer, j, htaken, hrun⟩ := hb.run_define caller rounds
  rw [htold] at htaken
  cases answer with
  | error fault => cases htaken
  | ok caught =>
    have hd := Scene.setDefinition_getElem? (Opening.definition w o) (b.told w o).1
    have hown := (Opening.owns hb.opening).definitionOf?
    let told : World :=
      { scene := (w.opened o).scene.setDefinition w.scene.definitions.length (b.told w o).1, journal := j }
    have hcheck : Prog.run caller rounds (Prog.checkExpectation o.cls) told = (.ok (), told) :=
      Prog.checkExpectation_ok (Option.bind_eq_some_iff.mpr ⟨_, hown, hd⟩) hexpected
    have hlock : (Prog.run caller rounds (Prog.lockType o.cls) told).1 = .ok () := Prog.lockType_ok hown hd howned
    refine ⟨caught, _, Prod.ext ?_ rfl⟩
    rw [hrun, Prog.andThen_ok, Prog.closeType]
    simp only [Prog.bind_eq]
    rw [Prog.run_bind, Prog.run_bind, hcheck, Prog.andThen_ok, Prog.run_bind]
    rcases hr : Prog.run caller rounds (Prog.lockType o.cls) _ with ⟨_ | _, _⟩
    · rw [hr] at hlock
      cases hlock
    · rfl

/-- A blueprint that expects nothing is defined if its hook comes to its end. -/
theorem Opens.defined (caller : Caller) (rounds : Nat) (hb : b.Opens w o) {d : Definition}
    (htold : b.told w o = (d, true)) (howned : ∀ e ∈ d.table, Definition.Owned e)
    (hexpected : d.expectedElement = none) :
    ∃ caught j, Prog.run caller rounds b.define w =
      (.ok (o.cls, caught),
        { scene := (w.opened o).scene.setDefinition w.scene.definitions.length d.lock, journal := j }) := by
  have hnothing : ∀ e, d.expectedElement = some e → e.name.hashable = true ∧ (d.get? e.name.identity).isSome := by
    intro e he
    rw [hexpected] at he
    cases he
  obtain ⟨caught, ⟨scene, j⟩, hrun⟩ := hb.define_ok caller rounds (by rw [htold]) (by rw [htold]; exact howned)
    (by rw [htold]; exact hnothing)
  obtain ⟨-, -, hscene⟩ := hb.define_scene hrun
  rw [htold] at hscene
  obtain rfl : scene = _ := hscene
  exact ⟨caught, j, hrun⟩

/-- A blueprint that was defined is finished, with what its statements made. -/
theorem Opens.define_finished {cls : ClassRef} {caught : List Raised} (hb : b.Opens w o)
    (h : Prog.run caller rounds b.define w = (.ok (cls, caught), w')) :
    w'.scene.Finished cls w.scene.definitions.length (b.told w o).1.lock := by
  obtain ⟨rfl, -, hscene⟩ := hb.define_scene h
  refine ⟨?_, ?_, rfl⟩
  · rw [hscene]
    exact Opening.owns hb.opening
  · rw [hscene]
    exact Scene.setDefinition_getElem? (Opening.definition w o) _

/-- To define a blueprint leaves the settings as they are. -/
theorem Opens.define_settings {cls : ClassRef} {caught : List Raised} (hb : b.Opens w o)
    (h : Prog.run caller rounds b.define w = (.ok (cls, caught), w')) :
    w'.scene.settings = w.scene.settings := by
  obtain ⟨-, -, hscene⟩ := hb.define_scene h
  rw [hscene]
  rfl

/-- To define a blueprint leaves what is finished as it is. -/
theorem Opens.define_keeps {cls c : ClassRef} {caught : List Raised} {n : Nat} {d : Definition} (hb : b.Opens w o)
    (h : Prog.run caller rounds b.define w = (.ok (cls, caught), w')) (hc : w.scene.Finished c n d) :
    w'.scene.Finished c n d := by
  obtain ⟨-, -, hscene⟩ := hb.define_scene h
  rw [hscene]
  exact World.opened_finished hc o _

end Blueprint

end PageObjects
