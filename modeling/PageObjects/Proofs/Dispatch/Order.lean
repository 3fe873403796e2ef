import PageObjects.Proofs.Dispatch.Reach

/-!
# The order in which a page looks a name up

A name comes to the first thing that applies: what the page keeps, an attribute of its
type, a refusal of guarded names, what the definition of its type has under the name, a
refusal if the page keeps no driver, and at last the same name on the driver.  A type
that answers for names which are not found does so in place of the last four.  What stands
in a definition and is no binding is asked to bind itself to the page.

Main definitions:

- `Scene.nearVerdicts`, `Scene.farVerdicts`: the places where a page looks, in order,
  and what each of them says.
- `Scene.SamePage`: scenes that agree about a page, apart from its driver.
- `Prog.LooksUp`: the whole of a look-up.

Main results:

- Theorem `Scene.resolve_near`, `Scene.fallback_far`: a page comes to the first verdict.
- Theorem `Prog.run_attributeAt_succ`: how often a name may be handed on does not matter
  unless it is handed on too often.
- Theorem `Prog.page_looksUp`: the look-up of any name on any page.
-/

namespace PageObjects

/-! ## Places -/

/-- What is found under a name: a value, a fault, or something that is to bind itself to the
page. -/
inductive Found where
  | value (v : Value)
  | fault (fault : Fault)
  | binder (thing : Value)

/-- What a place says under a name: nothing, so that the look-up goes on, or what is found. -/
abbrev Verdict := Option Found

/-- Values that hand names on which they do not have themselves. -/
def Value.handsOn : Value → Bool
  | .page .. | .control .. => true
  | _ => false

/-- Whether what is found is to bind itself, and may hand the name of its binding member on. -/
def Found.handsOn : Found → Bool
  | .binder thing => thing.handsOn
  | _ => false

/-- The first verdict that says something. -/
def Verdict.first (vs : List Verdict) : Verdict := vs.findSome? id

/-- What a definition has under a name, for a page: a binding is bound to the page, under
its own name, which has to be a text; what is no binding, and not the absent value, is to bind
itself to the page. -/
def Slot.verdict (page : Value) : Slot → Verdict
  | .binding b =>
    some (match b.name.word? with
      | some n => .value (.bound n b.kind b.payload page)
      | none => .fault .wrongType)
  | .stray v => if v.isNone then none else some (.binder v)

namespace Scene

section Places

variable (s : Scene) (id : Nat) (cls : ClassRef) (name : String)

/-- The attribute that the lineage of a page's type has, or else the root of all page
types, as the page gets it. -/
def classAttribute? : Option Value :=
  ((s.member? cls name).map fun v => s.ofPage v (.page id cls) cls).or
    (if PageType.isRootName name then some (s.rootAttribute (.page id cls) cls name) else none)

/-- The places where a page looks first: the page itself and its type. -/
def nearVerdicts : List Verdict :=
  [(s.pagePart? id cls name).map .value, (s.field? id name).map .value, (s.classAttribute? id cls name).map .value]

/-- The places where a page looks then: guarded names are refused, bindings are bound, and
everything is refused if there is no driver. -/
def farVerdicts : List Verdict :=
  [if PageType.isGuarded name then some (.fault .noSuchName) else none,
   (s.slot? cls name).bind (Slot.verdict (.page id cls)),
   if (s.field? id PageType.reservedField).isNone then some (.fault .noSuchName) else none]

/-- The places where a page would look in the simple order: if an object kept its type like
any field, definitions had bindings only, and no type answered for names itself. -/
def simpleVerdicts : List Verdict :=
  [(s.field? id name).map .value, (s.classAttribute? id cls name).map .value,
   if PageType.isGuarded name then some (.fault .noSuchName) else none,
   ((s.slot? cls name).bind Slot.binding?).bind fun b => Slot.verdict (.page id cls) (.binding b),
   if (s.field? id PageType.reservedField).isNone then some (.fault .noSuchName) else none]

/-- Scenes that agree about a page: its types, their definitions, and what the page keeps
apart from its driver. -/
structure SamePage (s' : Scene) : Prop where
  pageTypes : s'.pageTypes = s.pageTypes
  definitions : s'.definitions = s.definitions
  field? : ∀ n, n ≠ PageType.reservedField → s'.field? id n = s.field? id n

end Places

variable {s s' : Scene} {id : Nat} {cls : ClassRef} {name : String}

/-- What is found comes to this, for a page. -/
def ofFound (page : Value) : Found → Resolution
  | .value v => .found v
  | .fault fault => .refused fault
  | .binder thing => .tied thing page

/-- A page that has nothing near under a name, and whose type does not answer for it,
comes to what is far. -/
theorem resolve_of_near_none (hnear : Verdict.first (s.nearVerdicts id cls name) = none) :
    s.resolve (.page id cls) id cls name =
      match s.member? cls furtherName with
      | some getter => .asked (s.ofPage getter (.page id cls) cls)
      | none => s.fallback (.page id cls) id cls name := by
  simp only [Verdict.first, nearVerdicts, classAttribute?, List.findSome?_eq_none_iff, List.mem_cons,
    List.not_mem_nil, or_false, id_eq, forall_eq_or_imp, forall_eq, Option.map_eq_none_iff, Option.or_eq_none_iff,
    ite_eq_right_iff, reduceCtorEq, imp_false, Bool.not_eq_true] at hnear
  obtain ⟨hpart, hfield, hmember, hroot⟩ := hnear
  cases hfurther : s.member? cls furtherName with
  | none => simp only [resolve, hpart, hfield, hmember, hroot, hfurther, Bool.false_eq_true, if_false]
  | some getter => simp only [resolve, hpart, hfield, hmember, hroot, hfurther, Bool.false_eq_true, if_false]

/-- A page comes to the first verdict that is near. -/
theorem resolve_near {found : Found}
    (hnear : Verdict.first (s.nearVerdicts id cls name) = some found) :
    s.resolve (.page id cls) id cls name = ofFound (.page id cls) found := by
  simp only [Verdict.first, nearVerdicts, classAttribute?, List.findSome?_cons, id_eq] at hnear
  unfold resolve
  cases hpart : s.pagePart? id cls name with
  | some part =>
    simp only [hpart, Option.map_some, Option.some.injEq] at hnear
    subst hnear
    rfl
  | none =>
    cases hfield : s.field? id name with
    | some v =>
      simp only [hpart, hfield, Option.map_some, Option.map_none, Option.some.injEq] at hnear
      subst hnear
      rfl
    | none =>
      cases hmember : s.member? cls name with
      | some v =>
        simp only [hpart, hfield, hmember, Option.map_some, Option.map_none, Option.some_or, Option.some.injEq] at hnear
        subst hnear
        rfl
      | none =>
        by_cases hroot : PageType.isRootName name = true
        · simp only [hpart, hfield, hmember, hroot, if_true, Option.map_none, Option.none_or, Option.map_some,
            Option.some.injEq] at hnear
          subst hnear
          simp only [hroot, if_true]
          rfl
        · simp only [hpart, hfield, hmember, if_neg hroot, Option.map_none, Option.none_or, List.findSome?_nil,
            reduceCtorEq] at hnear

/-- What is found near is a value. -/
theorem value_of_near {found : Found} (hnear : Verdict.first (s.nearVerdicts id cls name) = some found) :
    ∃ v, found = .value v := by
  obtain ⟨verdict, hmem, rfl⟩ := List.exists_of_findSome?_eq_some hnear
  simp only [nearVerdicts, List.mem_cons, List.not_mem_nil, or_false] at hmem
  rcases hmem with h | h | h <;>
    · obtain ⟨v, -, rfl⟩ := Option.map_eq_some_iff.mp h.symm
      exact ⟨v, rfl⟩

/-- What is not found near comes to the first verdict that is far, or else to the driver. -/
theorem fallback_far :
    s.fallback (.page id cls) id cls name =
      match Verdict.first (s.farVerdicts id cls name) with
      | some found => ofFound (.page id cls) found
      | none => s.handedOn id := by
  simp only [Verdict.first, farVerdicts, List.findSome?_cons, List.findSome?_nil, id_eq, fallback, handedOn]
  by_cases hguarded : PageType.isGuarded name = true
  · simp only [hguarded, if_true]
    rfl
  · simp only [if_neg hguarded]
    cases s.slot? cls name with
    | none =>
      cases s.field? id PageType.reservedField <;> rfl
    | some slot =>
      cases slot with
      | binding b =>
        simp only [Option.bind_some, Slot.verdict]
        cases b.name.word? <;> rfl
      | stray v =>
        simp only [Option.bind_some, Slot.verdict]
        by_cases hv : v.isNone = true
        · simp only [hv, if_true]
          cases s.field? id PageType.reservedField <;> rfl
        · simp only [if_neg hv]
          rfl

/-- A page on which nothing near or far applies keeps a driver. -/
theorem browser_of_far_none (hfar : Verdict.first (s.farVerdicts id cls name) = none) :
    ∃ browser, s.field? id PageType.reservedField = some browser ∧ s.handedOn id = .forwarded browser := by
  cases hfield : s.field? id PageType.reservedField with
  | some browser => exact ⟨browser, rfl, by simp only [handedOn, hfield]⟩
  | none =>
    have hlast : (some (.fault .noSuchName) : Verdict) = none := by
      refine List.findSome?_eq_none_iff.mp hfar _ ?_
      simp only [farVerdicts, hfield, Option.isNone_none, if_true, List.mem_cons, true_or, or_true]
    cases hlast

/-- Scenes that agree about a page give its near places the same verdicts, unless it is
asked for its driver. -/
theorem SamePage.nearVerdicts (h : s.SamePage id s') (hname : name ≠ PageType.reservedField) :
    s'.nearVerdicts id cls name = s.nearVerdicts id cls name := by
  have hmember : s'.member? cls name = s.member? cls name := by
    simp only [member?, lineage, ownMembers, pageType?, h.pageTypes]
  have hroot : s'.rootAttribute = s.rootAttribute := by
    funext owner cls name
    simp only [rootAttribute, definitionOf?, lineage, pageType?, h.pageTypes]
  have hget : s'.ofPage = s.ofPage := by
    funext v page cls
    simp only [ofPage, hook?, pageType?, h.pageTypes]
  simp only [Scene.nearVerdicts, classAttribute?, pagePart?, hmember, hroot, hget, h.field? name hname]

/-- Scenes that agree about a page have the same under a name in the definition of its type. -/
theorem SamePage.slot? (h : s.SamePage id s') : s'.slot? cls name = s.slot? cls name := by
  simp only [Scene.slot?, definition?, definitionOf?, lineage, pageType?, h.pageTypes, h.definitions]

/-- Scenes that agree about a page agree about what its type takes over. -/
theorem SamePage.member? (h : s.SamePage id s') : s'.member? cls name = s.member? cls name := by
  simp only [Scene.member?, lineage, ownMembers, pageType?, h.pageTypes]

end Scene

/-! ## Looking up -/

namespace Prog

variable {caller : Caller} {rounds : Nat} {α : Type}

/-- Programs that run alike, unless the first one ends because a name was handed on too
often. -/
def RunsAs (caller : Caller) (rounds : Nat) (p q : Prog α) : Prop :=
  ∀ w, (run caller rounds p w).1 ≠ .error { fault := .tooDeep } → run caller rounds q w = run caller rounds p w

/-- What fails at the start fails. -/
theorem run_bind_fault {β : Type} {p : Prog β} {r : Raised} {w : World} (h : (run caller rounds p w).1 = .error r)
    (k : β → Prog α) : (run caller rounds (p.bind k) w).1 = .error r := by
  rw [run_bind_eq]
  rcases hrun : run caller rounds p w with ⟨r' | b, w'⟩
  · rw [hrun] at h
    cases h
    rfl
  · rw [hrun] at h
    cases h

namespace RunsAs

theorem refl (p : Prog α) : RunsAs caller rounds p p := fun _ _ => rfl

/-- Programs run alike if they start alike and go on alike. -/
theorem bind {β : Type} {p q : Prog β} {k l : β → Prog α} (hp : RunsAs caller rounds p q)
    (h : ∀ b, RunsAs caller rounds (k b) (l b)) : RunsAs caller rounds (p.bind k) (q.bind l) := by
  intro w hdeep
  have hfirst := hp w fun hfault => hdeep (run_bind_fault hfault k)
  simp only [run_bind_eq] at hdeep ⊢
  rw [hfirst]
  rcases hrun : run caller rounds p w with ⟨_ | b, w'⟩
  · rfl
  · rw [hrun] at hdeep
    exact h b w' hdeep

/-- Programs run alike if they go on alike after the same start. -/
theorem bind_right {β : Type} (p : Prog β) {k l : β → Prog α} (h : ∀ b, RunsAs caller rounds (k b) (l b)) :
    RunsAs caller rounds (p.bind k) (p.bind l) := (refl p).bind h

end RunsAs

/-- What a resolution comes to depends only on what it is handed on to, and on how what binds itself is asked. -/
theorem settle_runsAs {handOn handOn' binder binder' : Value → Prog Value}
    (hhanded : ∀ v, RunsAs caller rounds (handOn v) (handOn' v))
    (hbinder : ∀ v, RunsAs caller rounds (binder v) (binder' v)) (name : String) (r : Resolution) :
    RunsAs caller rounds (settle handOn binder name r) (settle handOn' binder' name r) := by
  cases r with
  | found v => exact .refl _
  | asked getter => exact .refl _
  | tied thing page => exact (hbinder thing).bind fun _ => .refl _
  | forwarded target => exact hhanded target
  | refused fault => exact .refl _

section Handing

variable {next next' : String → Value → Prog Value} (h : ∀ name v, RunsAs caller rounds (next name v) (next' name v))

include h

/-- What a resolution of a page comes to depends on what its name is handed on to only. -/
theorem settlePage_runsAs (cls : ClassRef) (name : String) (r : Resolution) :
    RunsAs caller rounds (settlePage next cls name r) (settlePage next' cls name r) :=
  settle_runsAs (fun target => .bind_right _ fun _ => .bind_right _ fun _ => h name target) (h bindingMember) name r

/-- The attribute of a page depends on what its name is handed on to only. -/
theorem pageAttribute_runsAs (page : Value) (id : Nat) (cls : ClassRef) (name : String) :
    RunsAs caller rounds (pageAttribute next page id cls name) (pageAttribute next' page id cls name) := by
  have hfurther : RunsAs caller rounds (furtherAttribute next page id cls name)
      (furtherAttribute next' page id cls name) := by
    refine .bind_right _ fun further => ?_
    cases further with
    | some getter => exact .refl _
    | none => exact .bind_right _ fun r => settlePage_runsAs h cls name r
  refine .bind_right _ fun every => ?_
  cases every with
  | none => exact .bind_right _ fun r => settlePage_runsAs h cls name r
  | some getter =>
    refine .bind_right _ fun getter => .bind_right _ fun answer => ?_
    cases answer with
    | ok v => exact .refl _
    | error r =>
      simp only
      split
      · exact hfurther
      · exact .refl _

end Handing

/-- How often a name may be handed on does not matter, unless it is handed on too often. -/
theorem run_attributeAt_succ (depth : Nat) (name : String) (v : Value) :
    RunsAs caller rounds (attributeAt depth name v) (attributeAt (depth + 1) name v) := by
  induction depth generalizing name v with
  | zero =>
    intro w hdeep
    exact absurd rfl hdeep
  | succ depth ih =>
    cases v with
    | page id cls => exact pageAttribute_runsAs ih (.page id cls) id cls name
    | control id kind => exact .bind_right _ fun r => settle_runsAs (ih name) (fun _ => .refl _) name r
    | _ => exact .refl _

/-- Values that hand no name on are asked at once. -/
theorem attributeAt_of_handsOn {v : Value} (h : v.handsOn = false) (depth depth' : Nat) (name : String) :
    attributeAt (depth + 1) name v = attributeAt (depth' + 1) name v := by
  cases v with
  | page id cls => cases h
  | control id kind => cases h
  | _ => rfl

/-- The attribute of a value is the same one name handed on before, unless that is once too often. -/
theorem run_attributeAt_handed {name : String} {v : Value} {w : World}
    (hdeep : v.handsOn = true → (run caller rounds (attributeAt handingLimit name v) w).1 ≠ .error { fault := .tooDeep }) :
    run caller rounds (attributeOf name v) w = run caller rounds (attributeAt handingLimit name v) w := by
  cases hhands : v.handsOn with
  | true => exact run_attributeAt_succ handingLimit name v w (hdeep hhands)
  | false =>
    rw [attributeOf, attributeAt_of_handsOn hhands handingLimit 998]
    rfl

/-- How a look-up ends that has found something.  What is to bind itself is asked for its binding member,
which is called with the page. -/
def concluded (page : Value) : Found → Prog Value
  | .value v => .done v
  | .fault fault => raise fault
  | .binder thing => callMember thing bindingMember [page]

/-- The look-up of a name on a page, in a world in which the type of the page is not
asked for every name. -/
structure LooksUp (caller : Caller) (rounds : Nat) (w : World) (id : Nat) (cls : ClassRef) (name : String) :
    Prop where
  /-- What applies first is near: the page and its type. -/
  near : ∀ found, Verdict.first (w.scene.nearVerdicts id cls name) = some found →
    run caller rounds (attributeOf name (.page id cls)) w = run caller rounds (concluded (.page id cls) found) w
  /-- Where nothing near applies, a type may answer for names that are not found. -/
  asked : Verdict.first (w.scene.nearVerdicts id cls name) = none → ∀ getter,
    w.scene.member? cls furtherName = some getter →
    run caller rounds (attributeOf name (.page id cls)) w =
      run caller rounds (callValue (w.scene.ofPage getter (.page id cls) cls) [.text name] []) w
  /-- Where it does not, what applies first is far.  What is to bind itself, and hands names on, must not
  do so too often. -/
  far : Verdict.first (w.scene.nearVerdicts id cls name) = none → w.scene.member? cls furtherName = none →
    ∀ found, Verdict.first (w.scene.farVerdicts id cls name) = some found →
    (found.handsOn = true → (run caller rounds (attributeOf name (.page id cls)) w).1 ≠ .error { fault := .tooDeep }) →
    run caller rounds (attributeOf name (.page id cls)) w = run caller rounds (concluded (.page id cls) found) w
  /-- Where nothing applies, the page stands for its driver: what goes on with the
  attribute, such as a call of it, goes on with that of the driver.  A driver that hands
  names on itself must not do so too often. -/
  handed : Verdict.first (w.scene.nearVerdicts id cls name) = none → w.scene.member? cls furtherName = none →
    Verdict.first (w.scene.farVerdicts id cls name) = none →
    ∃ browser, w.scene.field? id PageType.reservedField = some browser ∧
      ((browser.handsOn = true →
          (run caller rounds (attributeOf name (.page id cls)) w).1 ≠ .error { fault := .tooDeep }) →
        ∀ {β : Type} (k : Value → Prog β),
          run caller rounds ((attributeOf name (.page id cls)).bind k) w =
            run caller rounds ((attributeOf name browser).bind k) (w.write (forwarding (w.scene.fullName cls) name)))
  /-- Attributes of the type, and bindings, are the same whatever driver there is, and
  nothing is done to find them. -/
  apart : name ≠ PageType.reservedField →
    ((w.scene.classAttribute? id cls name).isSome = true ∨
      w.scene.member? cls furtherName = none ∧ ∃ b, w.scene.slot? cls name = some (.binding b)) →
    ∃ answer, ∀ s, w.scene.SamePage id s →
      run caller rounds (attributeOf name (.page id cls)) { w with scene := s } = (answer, { w with scene := s })

section Pages

variable {w : World} {id : Nat} {cls : ClassRef} {name : String}

/-- A page of which the type is not asked for every name goes by what the name comes to. -/
theorem run_attributeOf_page (hevery : w.scene.member? cls everyName = none) :
    run caller rounds (attributeOf name (.page id cls)) w =
      run caller rounds (settlePage (attributeAt handingLimit) cls name (w.scene.resolve (.page id cls) id cls name)) w := by
  rw [attributeOf, attributeAt_page, pageAttribute, bind_eq, run_view_bind, hevery]
  rfl

/-- What the name comes to by what is found. -/
theorem run_attributeOf_found (hevery : w.scene.member? cls everyName = none) {found : Found}
    (hresolve : w.scene.resolve (.page id cls) id cls name = Scene.ofFound (.page id cls) found)
    (hdeep : found.handsOn = true →
      (run caller rounds (attributeOf name (.page id cls)) w).1 ≠ .error { fault := .tooDeep }) :
    run caller rounds (attributeOf name (.page id cls)) w = run caller rounds (concluded (.page id cls) found) w := by
  rw [run_attributeOf_page hevery, hresolve] at hdeep ⊢
  cases found with
  | value | fault => rfl
  | binder thing =>
    have hasked : run caller rounds (attributeOf bindingMember thing) w = _ :=
      run_attributeAt_handed fun hhands hfault => hdeep hhands (run_bind_fault hfault _)
    show run caller rounds ((attributeAt handingLimit bindingMember thing).bind _) w =
      run caller rounds ((attributeOf bindingMember thing).bind _) w
    rw [run_bind_eq, run_bind_eq, hasked]

/-- What is near is found. -/
theorem run_attributeOf_near (hevery : w.scene.member? cls everyName = none) {found : Found}
    (hnear : Verdict.first (w.scene.nearVerdicts id cls name) = some found) :
    run caller rounds (attributeOf name (.page id cls)) w = run caller rounds (concluded (.page id cls) found) w := by
  refine run_attributeOf_found hevery (Scene.resolve_near hnear) fun hhands => ?_
  obtain ⟨v, rfl⟩ := Scene.value_of_near hnear
  cases hhands

/-- What is far is found where nothing is near. -/
theorem run_attributeOf_far (hevery : w.scene.member? cls everyName = none)
    (hfurther : w.scene.member? cls furtherName = none)
    (hnear : Verdict.first (w.scene.nearVerdicts id cls name) = none) {found : Found}
    (hfar : Verdict.first (w.scene.farVerdicts id cls name) = some found)
    (hdeep : found.handsOn = true →
      (run caller rounds (attributeOf name (.page id cls)) w).1 ≠ .error { fault := .tooDeep }) :
    run caller rounds (attributeOf name (.page id cls)) w = run caller rounds (concluded (.page id cls) found) w := by
  refine run_attributeOf_found hevery ?_ hdeep
  rw [Scene.resolve_of_near_none hnear, hfurther]
  simp only [Scene.fallback_far, hfar]

/-- The note that a name is handed on shows texts only. -/
theorem forwarding_plain (pageName name : String) : (forwarding pageName name).context.Plain :=
  List.forall_mem_cons.mpr ⟨rfl, List.forall_mem_singleton.mpr rfl⟩

/-- Where nothing applies, the name is handed on, and a note is left. -/
theorem run_attributeOf_handed (hevery : w.scene.member? cls everyName = none)
    (hfurther : w.scene.member? cls furtherName = none)
    (hnear : Verdict.first (w.scene.nearVerdicts id cls name) = none)
    (hfar : Verdict.first (w.scene.farVerdicts id cls name) = none) {browser : Value}
    (hbrowser : w.scene.handedOn id = .forwarded browser) :
    run caller rounds (attributeOf name (.page id cls)) w =
      run caller rounds (attributeAt handingLimit name browser) (w.write (forwarding (w.scene.fullName cls) name)) := by
  have hresolve : w.scene.resolve (.page id cls) id cls name = .forwarded browser := by
    rw [Scene.resolve_of_near_none hnear, hfurther]
    simp only [Scene.fallback_far, hfar, hbrowser]
  rw [run_attributeOf_page hevery, hresolve]
  show run caller rounds (forward (attributeAt handingLimit) cls name browser) w = _
  rw [forward, bind_eq, run_view_bind, bind_eq, run_bind_eq, run_log_of_plain (forwarding_plain _ _), andThen_ok]

/-- The attributes of a page's type, and the bindings on it, depend on nothing but the page. -/
theorem run_attributeOf_apart (hevery : w.scene.member? cls everyName = none)
    (hname : name ≠ PageType.reservedField)
    (hfound : (w.scene.classAttribute? id cls name).isSome = true ∨
      w.scene.member? cls furtherName = none ∧ ∃ b, w.scene.slot? cls name = some (.binding b)) :
    ∃ answer, ∀ s, w.scene.SamePage id s →
      run caller rounds (attributeOf name (.page id cls)) { w with scene := s } = (answer, { w with scene := s }) := by
  have hevery' : ∀ s, w.scene.SamePage id s → s.member? cls everyName = none := fun s hs => hs.member?.trans hevery
  cases hnear : Verdict.first (w.scene.nearVerdicts id cls name) with
  | some found =>
    obtain ⟨v, rfl⟩ := Scene.value_of_near hnear
    refine ⟨.ok v, fun s hs => ?_⟩
    have hfirst : Verdict.first (s.nearVerdicts id cls name) = some (.value v) :=
      (congrArg Verdict.first (hs.nearVerdicts hname)).trans hnear
    exact run_attributeOf_near (w := { w with scene := s }) (hevery' s hs) hfirst
  | none =>
    -- nothing is near, so the name is that of a binding, which the page is found to have or is refused
    have hattribute : w.scene.classAttribute? id cls name = none := by
      have hlast := List.findSome?_eq_none_iff.mp hnear ((w.scene.classAttribute? id cls name).map .value) (by
        simp only [Scene.nearVerdicts, List.mem_cons, true_or, or_true])
      simpa using hlast
    rcases hfound with hfound | ⟨hfurther, b, hslot⟩
    · rw [hattribute] at hfound
      cases hfound
    · obtain ⟨r, found, hr, hhands, hfar⟩ : ∃ r found,
          (∀ w, run caller rounds (concluded (.page id cls) found) w = (r, w)) ∧ found.handsOn = false ∧
            ∀ s, w.scene.SamePage id s → Verdict.first (s.farVerdicts id cls name) = some found := by
        by_cases hguarded : PageType.isGuarded name = true
        · refine ⟨_, .fault .noSuchName, fun _ => rfl, rfl, fun s hs => ?_⟩
          simp only [Verdict.first, Scene.farVerdicts, hguarded, if_true, List.findSome?_cons, id_eq]
        · have hfirst : ∀ found, (Slot.binding b).verdict (.page id cls) = some found → ∀ s, w.scene.SamePage id s →
              Verdict.first (s.farVerdicts id cls name) = some found := by
            intro found hfound s hs
            simp only [Verdict.first, Scene.farVerdicts, if_neg hguarded, hs.slot?, hslot, Option.bind_some, hfound,
              List.findSome?_cons, id_eq]
          cases hword : b.name.word? with
          | none => exact ⟨_, .fault .wrongType, fun _ => rfl, rfl, hfirst _ (by rw [Slot.verdict, hword])⟩
          | some n => exact ⟨_, .value _, fun _ => rfl, rfl, hfirst _ (by rw [Slot.verdict, hword])⟩
      refine ⟨r, fun s hs => ?_⟩
      rw [← hr]
      refine run_attributeOf_far (w := { w with scene := s }) (hevery' s hs) (hs.member?.trans hfurther) ?_ (hfar s hs)
        fun hdeep => absurd hdeep (by rw [hhands]; exact Bool.false_ne_true)
      exact (congrArg Verdict.first (hs.nearVerdicts hname)).trans hnear

/-- The look-up of a name on a page of which the type is not asked for every name. -/
theorem page_looksUp (caller : Caller) (rounds : Nat) (w : World) (id : Nat) (cls : ClassRef) (name : String)
    (hevery : w.scene.member? cls everyName = none) : LooksUp caller rounds w id cls name where
  near found hnear := run_attributeOf_near hevery hnear
  asked hnear getter hfurther := by
    have hresolve : w.scene.resolve (.page id cls) id cls name =
        .asked (w.scene.ofPage getter (.page id cls) cls) := by
      rw [Scene.resolve_of_near_none hnear, hfurther]
    rw [run_attributeOf_page hevery, hresolve]
    rfl
  far hnear hfurther found hfar hdeep := run_attributeOf_far hevery hfurther hnear hfar hdeep
  handed hnear hfurther hfar := by
    obtain ⟨browser, hfield, hbrowser⟩ := Scene.browser_of_far_none hfar
    have hhanded : run caller rounds (attributeOf name (.page id cls)) w = _ :=
      run_attributeOf_handed hevery hfurther hnear hfar hbrowser
    refine ⟨browser, hfield, fun hdeep β k => ?_⟩
    rw [hhanded] at hdeep
    have hsame : run caller rounds (attributeOf name browser) (w.write (forwarding (w.scene.fullName cls) name)) =
        run caller rounds (attributeOf name (.page id cls)) w := by
      rw [hhanded]
      exact run_attributeAt_handed hdeep
    rw [run_bind_eq, run_bind_eq, hsame]
  apart hname hfound := run_attributeOf_apart hevery hname hfound

end Pages

/-! ## Pages that find names -/

/-- What is done to define a type of pages with certain attributes, as the next one. -/
def definingDeeds (cls : ClassRef) (members : List (String × Value)) (entries : List Definition.Entry) : List Deed :=
  .op (.derive 0 (.ofText cls.name)) ::
    .op (.addPageType
      { name := cls.name, fullName := cls.name, bases := [rootType], lineage := [cls, rootType], members
        definition := some cls.id }) ::
    (entries.map fun e => .op (.enter cls.id e)) ++ [.op (.lock cls.id)]

/-- A type of pages that answers for names which are not found. -/
def askedPage : ClassRef := ⟨1, "AskedPage"⟩

/-- A type of pages that answers for all names. -/
def everyPage : ClassRef := ⟨2, "EveryPage"⟩

/-- A type of pages with a binding, next to which other things are put. -/
def soughtPage : ClassRef := ⟨3, "SearchPage"⟩

/-- A record that binds itself to pages. -/
def tyingValue : Value := .object 4 (some ⟨0, "Tying"⟩)

/-- What is done to define the types and to make a page of each, and another one that keeps
a driver. -/
def soughtDeeds : List Deed :=
  .op (.addFunction (.request (.const (.int 7)))) ::
    definingDeeds askedPage [(furtherName, .method furtherName 0)] [] ++
    definingDeeds everyPage [(everyName, .method everyName 0)] [] ++
    definingDeeds soughtPage [] [.element (.ofText "search") (.function 0)] ++
    [.op (.writeTable 3 (.text "current_url") (.int 5)), .op (.writeTable 3 (.text "status") tyingValue),
     .op (.addRecordType { name := "Tying", plain := false, members := [(bindingMember, .method bindingMember 0)] }),
     .op (.addInstance {}), .op (.addInstance { fields := [("title", .int 1)] }),
     .op (.addInstance { fields := [("__class__", .int 5)] }),
     .op (.addInstance { fields := [(PageType.reservedField, .driver "browser")] }), .op (.addInstance {})]

/-- The world after that. -/
def soughtWorld : World := ({ drivers := [("browser", {})] } : Setting).world.after soughtDeeds

/-- A binding is found whatever driver there is, what binds itself answers, and a call of what
only the driver has is a call of the driver. -/
theorem soughtWorld_looksUp :
    soughtWorld.scene.member? soughtPage everyName = none ∧
    (∀ s, soughtWorld.scene.SamePage 3 s →
      run (callAt usualRounds usualDepth) usualRounds (attributeOf "search" (.page 3 soughtPage))
          { soughtWorld with scene := s } =
        (.ok (.bound "search" .element (.function 0) (.page 3 soughtPage)), { soughtWorld with scene := s })) ∧
    run (callAt usualRounds usualDepth) usualRounds (attributeOf "status" (.page 3 soughtPage)) soughtWorld =
      (.ok (.int 7), soughtWorld) ∧
    ∀ args named, run (callAt usualRounds usualDepth) usualRounds
        ((attributeOf "get" (.page 3 soughtPage)).bind fun f => callValue f args named) soughtWorld =
      run (callAt usualRounds usualDepth) usualRounds
        ((attributeOf "get" (.driver "browser")).bind fun f => callValue f args named)
        (soughtWorld.write (forwarding "SearchPage" "get")) := by
  have hevery : soughtWorld.scene.member? soughtPage everyName = none := rfl
  have hlooks : ∀ name, LooksUp (callAt usualRounds usualDepth) usualRounds soughtWorld 3 soughtPage name :=
    fun name => page_looksUp _ _ soughtWorld 3 soughtPage name hevery
  have hfar : ∀ name, PageType.isGuarded name = false →
      Verdict.first (soughtWorld.scene.farVerdicts 3 soughtPage name) =
        Verdict.first [(soughtWorld.scene.slot? soughtPage name).bind (Slot.verdict (.page 3 soughtPage))] := by
    intro name hguarded
    simp only [Scene.farVerdicts, hguarded, Bool.false_eq_true, if_false]
    rfl
  refine ⟨hevery, ?_, ?_, fun args named => ?_⟩
  · obtain ⟨answer, hanswer⟩ :=
      (hlooks "search").apart (by decide) (.inr ⟨rfl, ⟨.text "search", .element, .function 0⟩, rfl⟩)
    have hsame : soughtWorld.scene.SamePage 3 soughtWorld.scene := ⟨rfl, rfl, fun _ _ => rfl⟩
    have hfirst : Verdict.first (soughtWorld.scene.farVerdicts 3 soughtPage "search") =
        some (.value (.bound "search" .element (.function 0) (.page 3 soughtPage))) :=
      (hfar "search" (by decide +kernel)).trans rfl
    have hfound := (hlooks "search").far (by rfl) rfl _ hfirst (fun h => by cases h)
    obtain rfl : answer = _ := congrArg Prod.fst ((hanswer _ hsame).symm.trans hfound)
    exact hanswer
  · have hfirst : Verdict.first (soughtWorld.scene.farVerdicts 3 soughtPage "status") = some (.binder tyingValue) :=
      (hfar "status" (by decide +kernel)).trans rfl
    exact (hlooks "status").far (by rfl) rfl _ hfirst (fun h => by cases h)
  · have hnone : Verdict.first (soughtWorld.scene.farVerdicts 3 soughtPage "get") = none :=
      (hfar "get" (by decide +kernel)).trans rfl
    obtain ⟨browser, hfield, hcall⟩ := (hlooks "get").handed (by rfl) rfl hnone
    cases hfield
    exact hcall (fun h => by cases h) fun f => callValue f args named

/-- Four pages that do not go by the simple order: two of which the types answer for names
themselves, one that is told another type, and one whose definition has what neither is a
binding nor binds itself. -/
theorem soughtWorld_not_simple :
    (Verdict.first (soughtWorld.scene.simpleVerdicts 0 askedPage "title") = some (.fault .noSuchName) ∧
      (attributeOf "title" (.page 0 askedPage)).runUsual soughtWorld = (.ok (.int 7), soughtWorld)) ∧
    (Verdict.first (soughtWorld.scene.simpleVerdicts 1 everyPage "title") = some (.value (.int 1)) ∧
      (attributeOf "title" (.page 1 everyPage)).runUsual soughtWorld = (.ok (.int 7), soughtWorld)) ∧
    (Verdict.first (soughtWorld.scene.simpleVerdicts 2 soughtPage "__class__") = some (.value (.int 5)) ∧
      (attributeOf "__class__" (.page 2 soughtPage)).runUsual soughtWorld =
        (.ok (.pageType soughtPage), soughtWorld)) ∧
    Verdict.first (soughtWorld.scene.simpleVerdicts 3 soughtPage "current_url") = none ∧
      ((attributeOf "current_url" (.driver "browser")).runUsual soughtWorld).1 = .ok (.text "about:blank") ∧
      (attributeOf "current_url" (.page 3 soughtPage)).runUsual soughtWorld =
        (.error { fault := .noSuchName }, soughtWorld) := by
  have htitle : PageType.isGuarded "title" = false := by decide +kernel
  have hurl : PageType.isGuarded "current_url" = false := by decide +kernel
  refine ⟨⟨?_, rfl⟩, ⟨rfl, rfl⟩, ⟨rfl, rfl⟩, ?_, rfl, ?_⟩
  · simp only [Scene.simpleVerdicts, htitle, Bool.false_eq_true, if_false]
    rfl
  · simp only [Scene.simpleVerdicts, hurl, Bool.false_eq_true, if_false]
    rfl
  · have hevery : soughtWorld.scene.member? soughtPage everyName = none := rfl
    have hfar : Verdict.first (soughtWorld.scene.farVerdicts 3 soughtPage "current_url") =
        some (.binder (.int 5)) := by
      simp only [Scene.farVerdicts, hurl, Bool.false_eq_true, if_false]
      rfl
    exact run_attributeOf_far hevery rfl rfl hfar fun h => by cases h

end Prog
end PageObjects
