import PageObjects.Proofs.Dispatch.Order
import PageObjects.Proofs.PageType.Hierarchy

/-!
# Expected elements

A page waits for the element that its type expects by looking its name up again and
again.  The type was checked once, when it was defined, and what was found then is still
there when a page of the type, or of a type that builds on it, looks: so the name is never
handed to the driver, and is never missing.  The page finds what it keeps under the name
itself, an attribute of its type, or a binding of the definition.  A type without the
element that it expects is not defined.

Main definitions:

- `Scene.Finds`: what a page finds under a name without its driver.
- `Prog.accessed`: the control that what is found stands for.

Main results:

- Theorem `Scene.Honours.finds`: a page finds what its type honours.
- Theorem `Prog.definePageType_unresolvable`: a type without what it expects is refused.
- Theorem `expectedElement_found`: expected elements are found, and those that cannot be
  found are refused.
-/

namespace PageObjects

namespace Scene

variable {s : Scene} {id : Nat} {cls : ClassRef} {d : Definition} {name : String}

/-- What a page finds under a name without its driver: what it keeps itself, or else an
attribute of its type, or else a binding of a definition. -/
inductive Finds (s : Scene) (id : Nat) (cls : ClassRef) (d : Definition) (name : String) : Value → Prop where
  | kept {v : Value} : s.field? id name = some v → Finds s id cls d name v
  | ofType {v : Value} : s.field? id name = none → s.classAttribute? id cls name = some v → Finds s id cls d name v
  | bound {b : Binding} : s.field? id name = none → s.classAttribute? id cls name = none →
      d.get? [.text name] = some b → Finds s id cls d name (.bound name b.kind b.payload (.page id cls))

/-- Where the lineage of a page's type and the root have no attribute, the page has none from
its type. -/
theorem classAttribute?_eq_none_iff :
    s.classAttribute? id cls name = none ↔ s.member? cls name = none ∧ PageType.isRootName name = false := by
  simp [classAttribute?]

/-- A page finds what its type expects, unless types have an attribute of that name that
pages do not have. -/
theorem Honours.finds (h : s.Honours cls d) {e : ElementExpectation} (he : d.expectedElement = some e)
    (hname : e.name.word? = some name) (hshared : PageType.typeOnlyNames.contains name = false) (id : Nat) :
    ∃ v, s.Finds id cls d name v := by
  cases hfield : s.field? id name with
  | some v => exact ⟨v, .kept hfield⟩
  | none =>
    cases hattribute : s.classAttribute? id cls name with
    | some v => exact ⟨v, .ofType hfield hattribute⟩
    | none =>
      obtain ⟨hmember, hroot⟩ := classAttribute?_eq_none_iff.mp hattribute
      have hlacks : s.hasAttribute cls name = false := by simp only [hasAttribute, hmember, hroot, hshared]; rfl
      have hbound := (h e name he hname).resolve_right (by rw [hlacks]; exact Bool.false_ne_true)
      obtain ⟨b, hb⟩ := Option.isSome_iff_exists.mp hbound
      exact ⟨_, .bound hfield hattribute hb⟩

end Scene

namespace Prog

variable {caller : Caller} {rounds : Nat} {w w' : World} {id : Nat} {cls : ClassRef} {d : Definition} {name : String}
  {v : Value} {t : PageType} {draft : Draft} {declare : ClassRef → Prog (List Raised)} {caught : List Raised}

/-- The control that something stands for: what a function gives, or the value itself. -/
def accessed (target : Value) : Prog Value := do
  if ← view fun s => s.callable target then callValue target [] [] else pure target

/-- What a page finds is its attribute, and nothing is done to find it. -/
theorem run_attributeOf_finds (hd : w.scene.definition? cls = some d) (howned : ∀ e ∈ d.table, Definition.Owned e)
    (hguarded : PageType.isGuarded name = false) (hplain : w.scene.overrides cls [everyName, furtherName] = false)
    (hfound : w.scene.Finds id cls d name v) :
    run caller rounds (attributeOf name (.page id cls)) w = (.ok v, w) := by
  have hevery : w.scene.member? cls everyName = none := Scene.member?_of_overrides hplain List.mem_cons_self
  have hpart : w.scene.pagePart? id cls name = none := Scene.pagePart?_of_not_isGuarded hguarded
  have hnear : ∀ v, (w.scene.field? id name).or (w.scene.classAttribute? id cls name) = some v →
      run caller rounds (attributeOf name (.page id cls)) w = (.ok v, w) := by
    intro v hv
    have hfirst : Verdict.first (w.scene.nearVerdicts id cls name) = some (.value v) := by
      cases hfield : w.scene.field? id name with
      | some v' =>
        rw [hfield, Option.some_or] at hv
        cases hv
        simp [Verdict.first, Scene.nearVerdicts, hpart, hfield]
      | none =>
        rw [hfield, Option.none_or] at hv
        simp [Verdict.first, Scene.nearVerdicts, hpart, hfield, hv]
    exact run_attributeOf_near hevery hfirst
  cases hfound with
  | kept hfield => exact hnear v (by rw [hfield]; rfl)
  | ofType hfield hattribute => exact hnear v (by rw [hfield, hattribute]; rfl)
  | bound hfield hattribute hb =>
    obtain ⟨hslot, hname⟩ := Definition.slot?_of_get? howned hb
    obtain ⟨hmember, hroot⟩ := Scene.classAttribute?_eq_none_iff.mp hattribute
    exact (run_attributeOf_page_iff (Option.bind_eq_some_iff.mpr ⟨d, hd, hslot⟩) hname hfield hplain).mpr
      ⟨hguarded, hmember, hroot⟩

/-- What a page waits for is the control that its attribute stands for. -/
theorem run_resolveAccessor_of_attribute
    (h : run caller rounds (attributeOf name (.page id cls)) w = (.ok v, w)) :
    run caller rounds (resolveAccessor (.page id cls) name) w = run caller rounds (accessed v) w := by
  rw [resolveAccessor, bind_eq, run_bind, h, andThen_ok]
  rfl

/-- A page that has nothing else in the place of the member that resolves names looks for
what it waits for in the same way. -/
theorem run_poll_of_resolve {control : Prog Value} (hresolves : w.scene.overrides cls ["_resolve_accessor", everyName] = false)
    (hfield : w.scene.field? id "_resolve_accessor" = none)
    (h : run caller rounds (resolveAccessor (.page id cls) name) w = run caller rounds control w) :
    run caller rounds (poll (.page id cls) cls name) w = run caller rounds (control.bind displayed) w := by
  have hreplaces : run caller rounds (replaces (.page id cls) cls "_resolve_accessor") w = (.ok false, w) := by
    simp [replaces, hresolves, instanceOf?, hfield]
  rw [poll, bind_eq, run_bind, stage, bind_eq, run_bind, hreplaces, andThen_ok, if_neg Bool.false_ne_true, h, run_bind]

/-- A type that expects what it does not have when its hook has come to its end is refused,
and its definition is not locked. -/
theorem definePageType_unresolvable {e : ElementExpectation} (hnew : draft.newType w.scene = .ok (cls, t))
    (hset : w.scene.inherited? t.lineage settingUpMember = none)
    (hopen : run caller rounds (openType t cls declare) w = (.ok caught, w')) (hreached : w'.Reached)
    (hd : w'.scene.definition? cls = some d) (he : d.expectedElement = some e) (hname : e.name.word? = some name)
    (hunbound : d.get? [.text name] = none) (hlacks : w'.scene.hasAttribute cls name = false) :
    run caller rounds (definePageType draft declare) w =
      (.error { fault := .unresolvable (w'.scene.fullName cls) e.name.wordLabel.text }, w') := by
  obtain ⟨n, hcls, hn⟩ := Option.bind_eq_some_iff.mp hd
  have hwell := hreached.wellFormed hn
  have horderly : d.Orderly := ⟨hwell, fun e' he' => by cases he.symm.trans he'; rw [hname]; rfl⟩
  have hcheck : run caller rounds (checkExpectation cls) w' =
      (.error { fault := .unresolvable (w'.scene.fullName cls) e.name.wordLabel.text }, w') := by
    rw [run_checkExpectation hcls hn horderly, Definition.missing?_of_expected he hname, ← hwell.isSome_get?,
      hunbound, hlacks]
    rfl
  have hclose : run caller rounds (closeType cls caught) w' =
      (.error { fault := .unresolvable (w'.scene.fullName cls) e.name.wordLabel.text }, w') := by
    rw [closeType, bind_eq, run_bind, hcheck]
    rfl
  have hsetUp : run caller rounds (setUp t cls declare) w = run caller rounds (closeType cls caught) w' := by
    rw [setUp, bind_eq, run_view_bind, hset, run_setUpType_openType, run_bind, hopen, andThen_ok]
  rw [run_definePageType_newType, hnew, run_ofFault_ok, andThen_ok, hsetUp, hclose]
  rfl

end Prog

/-! ## Expected elements -/

/-- **Expected elements are found**: the definition that a type goes by, its own or an
inherited one, binds what it expects by a text, or the type has an attribute of that name,
whatever has been done since the type was defined.  So unless the name has the guarded
shape or only types have an attribute of that name, every page of the type finds something
under the name without going to its driver, if the type looks names up as the root does,
and this is what the page waits for.  And a type of which the hook leaves something
expected that is neither bound nor an attribute is refused with a fault of its definition. -/
theorem expectedElement_found :
    (∀ {w : World} {cls : ClassRef} {d : Definition} {e : ElementExpectation} {name : String}, w.HasDefined cls →
      w.scene.definition? cls = some d → d.expectedElement = some e → e.name.word? = some name →
      ((d.get? [.text name]).isSome = true ∨ w.scene.hasAttribute cls name = true) ∧
      (PageType.isGuarded name = false → PageType.typeOnlyNames.contains name = false →
        w.scene.overrides cls [everyName, furtherName] = false →
        ∀ id, ∃ v, w.scene.Finds id cls d name v ∧ ∀ (caller : Caller) (rounds : Nat),
          Prog.run caller rounds (Prog.attributeOf name (.page id cls)) w = (.ok v, w) ∧
          Prog.run caller rounds (Prog.resolveAccessor (.page id cls) name) w =
            Prog.run caller rounds (Prog.accessed v) w ∧
          (w.scene.member? cls "_resolve_accessor" = none → w.scene.field? id "_resolve_accessor" = none →
            Prog.run caller rounds (Prog.poll (.page id cls) cls name) w =
              Prog.run caller rounds ((Prog.accessed v).bind Prog.displayed) w))) ∧
    ∀ {w w' : World} {caller : Caller} {rounds : Nat} {draft : Draft} {declare : ClassRef → Prog (List Raised)}
      {cls : ClassRef} {t : PageType} {caught : List Raised} {d : Definition} {e : ElementExpectation} {name : String},
      draft.newType w.scene = .ok (cls, t) → w.scene.inherited? t.lineage Prog.settingUpMember = none →
      Prog.run caller rounds (Prog.openType t cls declare) w = (.ok caught, w') → w'.Reached →
      w'.scene.definition? cls = some d → d.expectedElement = some e → e.name.word? = some name →
      d.get? [.text name] = none → w'.scene.hasAttribute cls name = false →
      ∃ r, Prog.run caller rounds (Prog.definePageType draft declare) w = (.error r, w') ∧ r.kind = .definition ∧
        r.fault = .unresolvable (w'.scene.fullName cls) e.name.wordLabel.text := by
  constructor
  · intro w cls d e name hcls hd he hname
    obtain ⟨hreached, hsound⟩ := hcls.sound
    have hhonours := hsound.honours hd
    refine ⟨hhonours e name he hname, fun hguarded hshared hplain id => ?_⟩
    obtain ⟨v, hfound⟩ := hhonours.finds he hname hshared id
    refine ⟨v, hfound, fun caller rounds => ?_⟩
    obtain ⟨n, -, hn⟩ := Option.bind_eq_some_iff.mp hd
    have hattribute : Prog.run caller rounds (Prog.attributeOf name (.page id cls)) w = (.ok v, w) :=
      Prog.run_attributeOf_finds hd (hreached.wellFormed hn).owned hguarded hplain hfound
    have hresolve := Prog.run_resolveAccessor_of_attribute hattribute
    refine ⟨hattribute, hresolve, fun hresolves hfield => Prog.run_poll_of_resolve ?_ hfield hresolve⟩
    simp [Scene.overrides, hresolves, Scene.member?_of_overrides hplain List.mem_cons_self]
  · intro w w' caller rounds draft declare cls t caught d e name hnew hset hopen hreached hd he hname hunbound hlacks
    exact ⟨_, Prog.definePageType_unresolvable hnew hset hopen hreached hd he hname hunbound hlacks, rfl, rfl⟩

/-! ## Types that expect something -/

/-- A world with a driver, and a function that answers with a number. -/
def expectingStart : World :=
  ({ drivers := [("d", {})] } : Setting).world.after [.op (.addFunction (.request (.const (.int 7))))]

/-- What is done to make a page that keeps the driver. -/
def drivenPage : List Deed := [.op (.addInstance { fields := [(PageType.reservedField, .driver "d")] })]

/-- Deeds of which none writes to a table leave all tables alone. -/
theorem spares_of_all {deeds : List Deed} (h : deeds.all (fun x => x.tableWritten?.isNone) = true) (n : Nat) :
    Spares n deeds := by
  intro x hx hwritten
  have hnone := List.all_eq_true.mp h x hx
  rw [hwritten] at hnone
  cases hnone

theorem expectingStart_defined : expectingStart.HasDefined rootType := .meanwhile (spares_of_all rfl) (.root _)

namespace Blueprint

/-- A type with members that states something, and expects an element in the end. -/
def expecting (members : List (String × Value)) (statements : List Statement) (expected : String) : Blueprint where
  draft := { name := .text "Page", bases := [], members, hook := some (.onType []) }
  statements := statements.map (false, ·) ++ [(false, .expectElement (.text expected) none)]

theorem typeName_expecting (members : List (String × Value)) (statements : List Statement) (expected : String) :
    Prog.typeName (expecting members statements expected).draft.name = .ok "Page" := by
  show Prog.typeName (.text "Page") = .ok "Page"
  cbv

/-- A type that builds on it, and states nothing. -/
def expectingChild : Blueprint where
  draft := { name := .text "Child", bases := [⟨1, "Page"⟩] }
  statements := []

/-- The type that a blueprint stands for, if it builds on certain types. -/
def typeOn (b : Blueprint) (cls : ClassRef) (above : List ClassRef) : PageType :=
  { name := cls.name, fullName := cls.name, bases := b.draft.allBases, lineage := cls :: above
    members := b.draft.allMembers cls, hook := b.draft.hook }

/-- The world after this type was set up. -/
def setUpOn (b : Blueprint) (cls : ClassRef) (above : List ClassRef) (w : World) : World :=
  (Prog.run (callAt 1 1) 1 (Prog.setUp (b.typeOn cls above) cls fun cls => Prog.runStatements cls b.statements) w).2

/-- A blueprint that was defined, and has written to no table, has defined its type. -/
theorem hasDefined {b : Blueprint} {w w' : World} {cls : ClassRef}
    (hbases : ∀ base ∈ b.draft.allBases, w.HasDefined base)
    (hrun : Prog.run (callAt 1 1) 1 b.define w = (.ok (cls, []), w'))
    (hspares : (b.define.deeds (callAt 1 1) (callDeeds 1 1) 1 w).all (fun x => x.tableWritten?.isNone) = true) :
    w'.HasDefined cls :=
  .define (callAt_does 1 1) hbases hrun (spares_of_all hspares)

/-- A type that binds what it expects. -/
def boxed : Blueprint := expecting [] [.binding "element" (.text "box") (.function 0)] "box"

/-- The world after it. -/
def boxedWorld : World := boxed.setUpOn ⟨1, "Page"⟩ [rootType] expectingStart

/-- The world after a type that builds on it, with a page of that type. -/
def boxedChildWorld : World :=
  (expectingChild.setUpOn ⟨2, "Child"⟩ [⟨1, "Page"⟩, rootType] boxedWorld).after drivenPage

theorem boxedChildWorld_defined : boxedChildWorld.HasDefined ⟨2, "Child"⟩ := by
  have hpage : Prog.typeName boxed.draft.name = .ok "Page" := typeName_expecting _ _ _
  have hchild : Prog.typeName expectingChild.draft.name = .ok "Child" := by cbv
  have hboxed : boxedWorld.HasDefined ⟨1, "Page"⟩ := by
    refine hasDefined (b := boxed) (w := expectingStart) (fun base hbase => ?_) ?_ ?_
    · exact List.mem_singleton.mp hbase ▸ expectingStart_defined
    · rw [define, Prog.definePageType, hpage]
      rfl
    · rw [define, Prog.definePageType, hpage]
      rfl
  refine .meanwhile (spares_of_all rfl) (hasDefined (b := expectingChild) (w := boxedWorld)
    (fun base hbase => ?_) ?_ ?_)
  · exact List.mem_singleton.mp hbase ▸ hboxed
  · rw [define, Prog.definePageType, hchild]
    rfl
  · rw [define, Prog.definePageType, hchild]
    rfl

/-- A type that expects what it does not have. -/
def unboxed : Blueprint := expecting [] [] "box"

/-- The world when its hook has come to its end. -/
def unboxedWorld : World :=
  (Prog.run (callAt 1 1) 1 (Prog.openType (unboxed.typeOn ⟨1, "Page"⟩ [rootType]) ⟨1, "Page"⟩ fun cls =>
    Prog.runStatements cls unboxed.statements) expectingStart).2

end Blueprint

open Blueprint in
/-- A page finds what a base of its type binds and expects, and a type that does not bind
what it expects is refused. -/
theorem boxedChildWorld_found :
    (∀ caller rounds, Prog.run caller rounds (Prog.attributeOf "box" (.page 0 ⟨2, "Child"⟩)) boxedChildWorld =
      (.ok (.bound "box" .element (.function 0) (.page 0 ⟨2, "Child"⟩)), boxedChildWorld)) ∧
    ∃ r, Prog.run (callAt 1 1) 1 unboxed.define expectingStart = (.error r, unboxedWorld) ∧ r.kind = .definition ∧
      r.fault = .unresolvable "Page" "box" := by
  constructor
  · intro caller rounds
    obtain ⟨-, hfinds⟩ := expectedElement_found.1 boxedChildWorld_defined rfl rfl rfl
    obtain ⟨v, hfound, hruns⟩ := hfinds (by decide +kernel) (by decide) rfl 0
    obtain rfl : v = .bound "box" .element (.function 0) (.page 0 ⟨2, "Child"⟩) := by
      cases hfound with
      | kept h => cases h
      | ofType _ h => cases h
      | bound _ _ h =>
        cases h
        rfl
    exact (hruns caller rounds).1
  · have hname : Prog.typeName unboxed.draft.name = .ok "Page" := typeName_expecting _ _ _
    have hreached : unboxedWorld.Reached :=
      World.Reached.run expectingStart_defined.sound.1 (callAt_does 1 1) (spares_of_all rfl)
    have hnew : unboxed.draft.newType expectingStart.scene =
        .ok (⟨1, "Page"⟩, unboxed.typeOn ⟨1, "Page"⟩ [rootType]) := by
      rw [Draft.newType, hname]
      rfl
    have hopen : Prog.run (callAt 1 1) 1 (Prog.openType (unboxed.typeOn ⟨1, "Page"⟩ [rootType]) ⟨1, "Page"⟩ fun cls =>
        Prog.runStatements cls unboxed.statements) expectingStart = (.ok [], unboxedWorld) := rfl
    exact expectedElement_found.2 hnew rfl hopen hreached rfl rfl rfl rfl rfl

namespace Blueprint

/-- A type with an attribute under the name under which pages keep their drivers. -/
def overlaid : Blueprint := expecting [(PageType.reservedField, .method "browser" 0)] [] PageType.reservedField

/-- A type that answers for names that are not found. -/
def answering : Blueprint :=
  expecting [(furtherName, .method furtherName 0)] [.binding "element" (.text "box") (.function 0)] "box"

/-- The world after such a type, with a page. -/
def standingWorld (b : Blueprint) : World := (b.setUpOn ⟨1, "Page"⟩ [rootType] expectingStart).after drivenPage

theorem standingWorld_defined {b : Blueprint} (hbases : b.draft.allBases = [rootType])
    (hrun : Prog.run (callAt 1 1) 1 b.define expectingStart =
      (.ok (⟨1, "Page"⟩, []), b.setUpOn ⟨1, "Page"⟩ [rootType] expectingStart))
    (hspares : (b.define.deeds (callAt 1 1) (callDeeds 1 1) 1 expectingStart).all
      (fun x => x.tableWritten?.isNone) = true) : b.standingWorld.HasDefined ⟨1, "Page"⟩ := by
  refine .meanwhile (spares_of_all rfl) (hasDefined (fun base hbase => ?_) hrun hspares)
  rw [hbases] at hbase
  exact List.mem_singleton.mp hbase ▸ expectingStart_defined

end Blueprint

/-- A type has been defined and expects an element, but a page of the type finds something
under the name that is neither an attribute of the type nor a binding. -/
structure World.Overlooks (w : World) (cls : ClassRef) (name : String) (found : Value) : Prop where
  defined : w.HasDefined cls
  expected : ((w.scene.definition? cls).bind (·.expectedElement)).map (·.name) = some (.text name)
  plain : PageType.isGuarded name = false ∧ PageType.typeOnlyNames.contains name = false
  finds : (Prog.attributeOf name (.page 0 cls)).runUsual w = (.ok found, w)
  noAttribute : w.scene.classAttribute? 0 cls name ≠ some found
  noBinding : ∀ b : Binding, found ≠ .bound name b.kind b.payload (.page 0 cls)

open Blueprint in
/-- The first of both pages finds the driver that it keeps under the name, and the second
one what its type answers. -/
theorem standingWorld_overlooks :
    overlaid.standingWorld.Overlooks ⟨1, "Page"⟩ PageType.reservedField (.driver "d") ∧
      answering.standingWorld.Overlooks ⟨1, "Page"⟩ "box" (.int 7) := by
  have hoverlaid : Prog.typeName overlaid.draft.name = .ok "Page" := typeName_expecting _ _ _
  have hanswering : Prog.typeName answering.draft.name = .ok "Page" := typeName_expecting _ _ _
  constructor
  · refine ⟨standingWorld_defined rfl ?_ ?_, rfl, ⟨by decide +kernel, by decide⟩, rfl, ?_, ?_⟩
    · rw [define, Prog.definePageType, hoverlaid]
      rfl
    · rw [define, Prog.definePageType, hoverlaid]
      rfl
    · intro h
      cases h
    · intro b h
      cases h
  · refine ⟨standingWorld_defined rfl ?_ ?_, rfl, ⟨by decide +kernel, by decide⟩, rfl, ?_, ?_⟩
    · rw [define, Prog.definePageType, hanswering]
      rfl
    · rw [define, Prog.definePageType, hanswering]
      rfl
    · intro h
      cases h
    · intro b h
      cases h

end PageObjects
