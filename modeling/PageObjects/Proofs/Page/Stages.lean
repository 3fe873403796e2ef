import PageObjects.Proofs.PageType.Late
import PageObjects.Proofs.Program.Lines
import PageObjects.Proofs.Program.Traces

/-!
# The stages of a construction

A page that is constructed keeps its driver and then goes through up to three stages:
to the address, if it is to be visited; waiting for the expected element and checking
the title, if its definition says so.  Each stage starts in the world that the one
before it has left, and the first one that fails ends the construction with its fault.
So nothing is done for a stage that comes after one that fails.

Main definitions:

- `Stage`, `Stage.program`, `Stage.due`: the stages, what they do, and which are due.
- `StageRuns`: stages that run one after the other, up to the first that fails.
- `Scene.withPage`: a scene with a new page that keeps a driver.

Main results:

- Theorem `Prog.run_stages`: the stages that are due run one after the other.
- Theorem `run_goTo_driver`: what going to an address does to a driver.
- Theorem `construct_runs_stages`: what the construction of a page does, if its flag is
  shown.
- Theorem `construct_heedsFlag`: flags and limits for which it does something else.
-/

namespace PageObjects

/-- Whether a value is a number, or a truth value, which counts as one. -/
def Value.isNumber : Value → Bool
  | .bool _ | .int _ | .float _ | .nan _ => true
  | _ => false

/-- A time is compared with a limit that is a number. -/
theorem Phase.reaches_of_isNumber (elapsed : Float) {limit : Value} (h : limit.isNumber = true) :
    ∃ slow, reaches elapsed limit = .ok slow := by
  cases limit with
  | bool | int | float | nan => exact ⟨_, rfl⟩
  | _ => cases h

/-! ## Stages -/

/-- The stages of a construction. -/
inductive Stage where
  | navigation
  | presence
  | title
deriving Repr, DecidableEq

namespace Stage

/-- The member of the root that a stage is. -/
def member : Stage → String
  | .navigation => "goto"
  | .presence => "wait_for_expected_element"
  | .title => "verify_expected_title"

/-- What the root does in a stage. -/
def usual (page : Value) (cls : ClassRef) : Stage → Prog Value
  | .navigation => Prog.goTo page cls
  | .presence => Prog.waitForExpected page cls
  | .title => Prog.verifyTitle page cls

/-- What a page does in a stage: what the root does, unless the page has something
else in the place of the member. -/
def program (page : Value) (cls : ClassRef) (st : Stage) : Prog Value :=
  Prog.stage page cls st.member [] (st.usual page cls)

/-- The stages in their order. -/
def inOrder : List Stage := [.navigation, .presence, .title]

/-- Whether a stage is due: the first if the page is to be visited, the others if the
definition expects something. -/
def isDue (visit : Bool) (d : Definition) : Stage → Bool
  | .navigation => visit
  | .presence => d.expectedElement.isSome
  | .title => d.expectedTitle.isSome

/-- The stages that are due, in their order. -/
def due (visit : Bool) (d : Definition) : List Stage := inOrder.filter (isDue visit d)

end Stage

/-- The stages that are due run one after the other: each starts where the one before
it ended, and the first one that fails is the last one that runs.  `ran` are those that
have run, `fault` is what the last one failed with, if it did. -/
inductive StageRuns (step : Stage → World → Result Value) :
    (due : List Stage) → World → (ran : List Stage) → (fault : Option Raised) → World → Prop where
  | finished (w : World) : StageRuns step [] w [] none w
  | returned {st : Stage} {due ran : List Stage} {fault : Option Raised} {v : Value} {w w₁ w' : World} :
      step st w = (.ok v, w₁) → StageRuns step due w₁ ran fault w' →
      StageRuns step (st :: due) w (st :: ran) fault w'
  | failed {st : Stage} {due : List Stage} {r : Raised} {w w' : World} :
      step st w = (.error r, w') → StageRuns step (st :: due) w [st] (some r) w'

namespace StageRuns

variable {step : Stage → World → Result Value} {due ran : List Stage} {fault : Option Raised} {w w' : World}

/-- The stages that have run are the first of those that are due. -/
theorem isPrefix (h : StageRuns step due w ran fault w') : ran <+: due := by
  induction h with
  | finished => exact List.prefix_rfl
  | returned _ _ ih => exact List.prefix_cons_inj _ |>.mpr ih
  | failed => exact ⟨_, rfl⟩

/-- If no stage fails, all that are due have run. -/
theorem eq_of_none (h : StageRuns step due w ran fault w') (hfault : fault = none) : ran = due := by
  induction h with
  | finished => rfl
  | returned _ _ ih => rw [ih hfault]
  | failed => cases hfault

/-- What each stage retains is retained. -/
theorem retains (h : StageRuns step due w ran fault w') (hstep : ∀ st (w : World), w.Retains (step st w).2) :
    w.Retains w' := by
  induction h with
  | finished w => exact World.retains_lasting.refl w
  | @returned st _ _ _ _ w _ _ hrun _ ih =>
    have hfirst : w.Retains (step st w).2 := hstep st w
    rw [hrun] at hfirst
    exact World.retains_lasting.trans hfirst ih
  | @failed st _ _ w _ hrun =>
    have hfirst : w.Retains (step st w).2 := hstep st w
    rw [hrun] at hfirst
    exact hfirst

/-- What is there after the first stage is retained. -/
theorem retains_first {st : Stage} (h : StageRuns step (st :: due) w ran fault w')
    (hstep : ∀ st (w : World), w.Retains (step st w).2) : (step st w).2.Retains w' := by
  cases h with
  | returned hrun hrest =>
    rw [hrun]
    exact hrest.retains hstep
  | failed hrun =>
    rw [hrun]
    exact World.retains_lasting.refl _

/-- If no stage is due, nothing is done. -/
theorem of_nil (h : StageRuns step [] w ran fault w') : fault = none ∧ w' = w := by
  cases h
  exact ⟨rfl, rfl⟩

/-- If the first stage fails, no other runs. -/
theorem of_first_fails {st : Stage} {r : Raised} {w₁ : World} (h : StageRuns step (st :: due) w ran fault w')
    (hfirst : step st w = (.error r, w₁)) : ran = [st] ∧ fault = some r ∧ w' = w₁ := by
  cases h with
  | returned hrun _ =>
    rw [hfirst] at hrun
    cases hrun
  | failed hrun =>
    rw [hfirst] at hrun
    cases hrun
    exact ⟨rfl, rfl, rfl⟩

end StageRuns

/-- An answer, or the fault if there is one. -/
def endingWith {α : Type} (a : α) : Option Raised → Except Raised α
  | some r => .error r
  | none => .ok a

/-! ## Runs of stages -/

namespace Scene

/-- A scene with a new page that keeps a driver. -/
def withPage (s : Scene) (browser : Value) : Scene :=
  (s.addInstance {}).2.setField s.instances.length PageType.reservedField browser

/-- The new page keeps its driver and nothing else. -/
theorem withPage_field? (s : Scene) (browser : Value) (name : String) :
    (s.withPage browser).field? s.instances.length name =
      if name == PageType.reservedField then some browser else none := by
  have hfields : (s.withPage browser).fieldsOf s.instances.length = [(PageType.reservedField, browser)] := by
    simp [withPage, fieldsOf, setField, setFields, addInstance, Assoc.put]
  rw [field?, hfields, List.lookup_cons]
  cases name == PageType.reservedField <;> rfl

end Scene

namespace Prog

variable {α : Type} {caller : Caller} {rounds : Nat} {w : World} {page : Value} {id : Nat} {cls : ClassRef}
  {d : Definition}

/-- A stage that nothing replaces does what it does for the root. -/
theorem run_stage_usual {name : String} (hcls : w.scene.overrides cls [name, everyName] = false)
    (hpage : w.scene.field? id name = none) (args : List Value) (usual : Prog Value) :
    run caller rounds (stage (.page id cls) cls name args usual) w = run caller rounds usual w := by
  have hreplaced : (w.scene.overrides cls [name, everyName] ||
      ((instanceOf? (.page id cls)).bind fun id => w.scene.field? id name).isSome) = false := by
    simp [hcls, instanceOf?, hpage]
  rw [stage, replaces, bind_eq, run_view_bind, hreplaced]
  rfl

/-- The stages of a list that are due run one after the other. -/
theorem run_inOrder (isDue : Stage → Bool) (sts : List Stage) (w : World) :
    ∃ ran fault w',
      StageRuns (fun st => run caller rounds (st.program page cls)) (sts.filter isDue) w ran fault w' ∧
      run caller rounds (sts.foldr (fun st rest => (whenNeeded (isDue st) (st.program page cls)).bind fun _ => rest)
        (.done ())) w = (endingWith () fault, w') := by
  induction sts generalizing w with
  | nil => exact ⟨[], none, w, .finished w, rfl⟩
  | cons st sts ih =>
    rw [List.foldr_cons, List.filter_cons]
    generalize sts.foldr (fun st rest => (whenNeeded (isDue st) (st.program page cls)).bind fun _ => rest)
      (.done ()) = rest at ih
    by_cases hdue : isDue st = true
    · have hrun : run caller rounds ((whenNeeded (isDue st) (st.program page cls)).bind fun _ => rest) w =
          andThen (run caller rounds (st.program page cls) w) fun _ => run caller rounds rest := by
        simp only [whenNeeded, hdue, if_true, bind_eq, bind_assoc]
        exact run_bind _ _ _
      rw [hrun, if_pos hdue]
      rcases hst : run caller rounds (st.program page cls) w with ⟨r | v, w₁⟩
      · exact ⟨[st], some r, w₁, .failed hst, rfl⟩
      · obtain ⟨ran, fault, w', hruns, hrest⟩ := ih w₁
        exact ⟨st :: ran, fault, w', .returned hst hruns, hrest⟩
    · have hskip : whenNeeded (isDue st) (st.program page cls) = .done () := by simp [whenNeeded, hdue]
      rw [hskip, if_neg hdue]
      exact ih w

/-- What is no thing counts as true or not without being asked. -/
theorem run_truth_of_plain {flag : Value} (h : instanceOf? flag = none) :
    run caller rounds (truth flag) w = (.ok (w.scene.truthy flag), w) := by
  cases flag with
  | page | object => cases h
  | _ => rfl

/-- The stages that are due run one after the other. -/
theorem run_stages {flag : Value} {toVisit : Bool} (htruth : run caller rounds (truth flag) w = (.ok toVisit, w)) :
    ∃ ran fault w',
      StageRuns (fun st => run caller rounds (st.program page cls)) (Stage.due toVisit d) w ran fault w' ∧
      run caller rounds (stages page cls d flag) w = (endingWith () fault, w') := by
  have hlast : ∀ p : Prog Unit, (p.bind fun _ => .done ()) = p := bind_done
  have hstages : run caller rounds (stages page cls d flag) w =
      run caller rounds (Stage.inOrder.foldr (fun st rest =>
        (whenNeeded (Stage.isDue toVisit d st) (st.program page cls)).bind fun _ => rest) (.done ())) w := by
    rw [stages, bind_eq, run_bind, htruth, andThen_ok]
    simp only [Stage.inOrder, List.foldr, hlast]
    rfl
  rw [hstages]
  exact run_inOrder _ _ w

/-! ## The phase -/

/-- The records of a construction show nothing but texts, apart from the flag. -/
theorem constructionPhase_speaks (pageName : Label) {flag : Value} (h : flag.isPlain = true) :
    (constructionPhase pageName flag).fullContext.Speaks caller w := by
  refine Log.Context.Plain.speaks ?_
  show Log.Context.Plain [("a", .text ("construct " ++ pageName.text)), ("page", pageName.logged), ("visit", flag)]
  simp only [Log.Context.Plain, List.forall_mem_cons, List.not_mem_nil, false_implies, implies_true, and_true]
  exact ⟨rfl, pageName.logged_plain, h⟩

/-- The context of a construction repeats nothing that the records set themselves. -/
theorem constructionPhase_admits (pageName : Label) (flag : Value) {further : List String}
    (h : ∀ n ∈ ["a", "page", "visit"], n ∉ Phase.fixedNames ++ further) :
    Phase.admits (constructionPhase pageName flag).fullContext further = true := by
  have hnames : (constructionPhase pageName flag).fullContext.map (·.1) = ["a", "page", "visit"] := rfl
  rw [Phase.admits, List.all_eq_true]
  intro e he
  have hname : e.1 ∈ ["a", "page", "visit"] := hnames ▸ List.mem_map_of_mem he
  simpa using h e.1 hname

/-- The body of a construction is run in the same scene if the text of the flag is found.  If it is found once
more at the end, the construction leaves the scene that its body leaves, and ends as its body does, as long as
the limit for slow phases is a number. -/
theorem run_timed_construction (pageName : Label) {flag : Value} (hslow : w.scene.settings.slowPhase.isNumber = true)
    (hopens : (constructionPhase pageName flag).fullContext.Speaks caller w) :
    ∃ journal, ∀ (body : Prog α) r w', run caller rounds body { w with journal } = (r, w') →
      (constructionPhase pageName flag).fullContext.Speaks caller w' →
      ∃ journal, run caller rounds (timed (constructionPhase pageName flag) body) w = (r, { w' with journal }) := by
  have hadmits : Phase.admits (constructionPhase pageName flag).fullContext [] = true :=
    constructionPhase_admits _ _ (by decide)
  obtain ⟨journal, haround⟩ := Phase.around_speaks (α := α) hadmits hopens
  refine ⟨journal, fun body r w' hbody hcloses => ?_⟩
  have hrun : run caller rounds (timed (constructionPhase pageName flag) body) w =
      (constructionPhase pageName flag).finish caller w.scene.settings.slowPhase w.scene.clock (r, w') := by
    rw [← hbody]
    exact (andThen_pure _).trans (haround (run caller rounds body))
  rw [hrun]
  cases r with
  | error r => exact Phase.finish_failed (constructionPhase_admits _ _ (by decide)) hcloses _ _ r
  | ok a =>
    obtain ⟨slow, hreaches⟩ := Phase.reaches_of_isNumber (w'.scene.clock - w.scene.clock) hslow
    exact Phase.finish_done hreaches hcloses a

/-! ## Making a page -/

/-- The members by which a type takes over how its pages are made and set up. -/
def constructionMembers : List String := [makingMember, setUpMember, settingName]

/-- A construction makes a page that keeps its driver, and goes through the stages. -/
theorem run_construct {args : List Value} {named : Named} {browser : Value} {visit : Option Value}
    (hplain : w.scene.overrides cls constructionMembers = false) (hd : w.scene.definition? cls = some d)
    (hargs : bindArguments [("browser", true), ("visit", false)] args named = some [some browser, visit]) :
    run caller rounds (construct cls args named) w =
      andThen (run caller rounds
        (timed (constructionPhase d.pageName (visit.getD (.bool false)))
          (stages (.page w.scene.instances.length cls) cls d (visit.getD (.bool false))))
        { w with scene := w.scene.withPage browser })
        fun _ w' => (.ok (.page w.scene.instances.length cls), w') := by
  have hmember : ∀ n ∈ constructionMembers, w.scene.member? cls n = none := fun n hn =>
    Scene.member?_of_overrides hplain hn
  have hnew : run caller rounds (construct cls args named) w = run caller rounds (newPage cls args named) w := by
    rw [construct, bind_eq, run_view_bind, hmember makingMember (by decide)]
  have hsetter : (w.scene.addInstance {}).2.member? cls settingName = none := hmember settingName (by decide)
  -- nothing takes the place of keeping the driver
  have hkeep : run caller rounds (setAttribute (.page w.scene.instances.length cls) PageType.reservedField browser)
      { w with scene := (w.scene.addInstance {}).2 } = (.ok (), { w with scene := w.scene.withPage browser }) := by
    rw [setAttribute, bind_eq, run_view_bind, Scene.typeMember?, hsetter]
    rfl
  have hdefinition : run caller rounds (definitionOf cls) { w with scene := w.scene.withPage browser } =
      (.ok d, { w with scene := w.scene.withPage browser }) := by
    rw [definitionOf, bind_eq, run_view_bind]
    exact congrArg (fun o => run caller rounds (ofOption .unset o) _) hd
  rw [hnew, newPage, bind_eq, run_view_bind, hmember setUpMember (by decide), bind_eq, run_op_bind]
  show run caller rounds ((setUpPageWith (.page w.scene.instances.length cls) cls args named).bind _)
    { w with scene := (w.scene.addInstance {}).2 } = _
  rw [run_bind, setUpPageWith, hargs]
  simp only [setUpPage, bind_eq, run_bind, hkeep, andThen_ok, hdefinition]
  rfl

/-! ## Going to the address -/

/-- What a page keeps as its driver is what it hands names to. -/
theorem run_browserOf {browser : Value} (hevery : w.scene.member? cls everyName = none)
    (hfield : w.scene.field? id PageType.reservedField = some browser) :
    run caller rounds (browserOf (.page id cls)) w = (.ok browser, w) := by
  rw [browserOf, attributeOf, attributeAt_page, pageAttribute, bind_eq, run_view_bind, hevery, bind_eq, run_view_bind,
    Scene.resolve_field (Scene.pagePart?_eq_none rfl) hfield]
  rfl

/-- Without an address, going to it is a fault, and nothing is done. -/
theorem run_goTo_noAddress (hd : w.scene.definition? cls = some d) (haddress : d.address.isNone = true) :
    run caller rounds (goTo page cls) w = (.error { fault := .noAddress d.pageName.text }, w) := by
  rw [goTo, bind_eq, definitionOf, bind_eq, bind_assoc, run_view_bind, hd, run_ofOption_some_bind, haddress]
  rfl

/-- Going to the address of a page asks its driver for the resolved address, once. -/
theorem run_goTo_driver {driver template base : String} (hd : w.scene.definition? cls = some d)
    (hevery : w.scene.member? cls everyName = none)
    (hfield : w.scene.field? id PageType.reservedField = some (.driver driver))
    (haddress : d.address.word? = some template) (hbase : w.scene.settings.baseAddress.word? = some base) :
    ∃ journal, run caller rounds (goTo (.page id cls) cls) w =
      ((w.scene.visit driver (.text (Text.resolveAddress base template))).1,
        { scene := (w.scene.visit driver (.text (Text.resolveAddress base template))).2, journal }) := by
  have hsome : d.address.isNone = false := by
    cases haddr : d.address with
    | none =>
      rw [haddr] at haddress
      cases haddress
    | _ => rfl
  have hfull : fullAddress w.scene.settings.baseAddress d.address = .ok (Text.resolveAddress base template) := by
    rw [fullAddress, haddress, hbase]
  have hplain : (navigating d.pageName (Text.resolveAddress base template)).context.Plain :=
    List.forall_mem_cons.mpr ⟨d.pageName.logged_plain, List.forall_mem_singleton.mpr rfl⟩
  refine ⟨(w.write (navigating d.pageName (Text.resolveAddress base template))).journal, ?_⟩
  rw [goTo, bind_eq, definitionOf, bind_eq, bind_assoc, run_view_bind, hd, run_ofOption_some_bind, hsome]
  simp only [Bool.false_eq_true, if_false]
  rw [bind_eq, run_view_bind, bind_eq, hfull, run_ofFault_ok_bind, bind_eq, run_bind, run_log_of_plain hplain, andThen_ok, bind_eq,
    run_bind, run_browserOf (w := w.write _) hevery hfield, andThen_ok]
  generalize hgo : w.scene.visit driver (.text (Text.resolveAddress base template)) = went
  have hop : (Op.visit driver (.text (Text.resolveAddress base template))).run
      (w.write (navigating d.pageName (Text.resolveAddress base template))) =
      (went.1, { w.write (navigating d.pageName (Text.resolveAddress base template)) with scene := went.2 }) := by
    rw [← hgo]
    rfl
  show run caller rounds (performing (.visit driver (.text (Text.resolveAddress base template))))
    (w.write (navigating d.pageName (Text.resolveAddress base template))) = _
  simp only [performing, run, hop]
  rcases went with ⟨_ | v, s⟩ <;> rfl

end Prog

/-! ## Constructions -/

/-- What the construction of a page does, whatever its driver and its definition are, and
whatever flag it is given that says whether it is true, and gives its text to the lines
that show it, without anything else being done, as all plain values do; the limit of a
phase is a number.  The new page keeps its driver; then the stages that are due run, in
their order and up to the first that fails, and nothing else happens in the scene.  There
is a page exactly if no stage fails; otherwise the fault is that of the stage that failed.

A stage that nothing replaces is that of the root.  To be visited, a page needs an
address: without one the construction fails and leaves no event; with one the first thing
that is noted is that the driver goes to the resolved address, and going there does
nothing else but to wait until the page is loaded. -/
theorem construct_runs_stages (rounds depth : Nat) (w : World) (cls : ClassRef) (args : List Value) (named : Named)
    {d : Definition} {browser : Value} {visit : Option Value} {toVisit : Bool}
    (hplain : w.scene.overrides cls Prog.constructionMembers = false)
    (hd : w.scene.definition? cls = some d)
    (hargs : bindArguments [("browser", true), ("visit", false)] args named = some [some browser, visit])
    (htruth : ∀ journal, (Prog.truth (visit.getD (.bool false))).run (callAt rounds depth) rounds
      { scene := w.scene.withPage browser, journal } = (.ok toVisit, { scene := w.scene.withPage browser, journal }))
    (hslow : w.scene.settings.slowPhase.isNumber = true)
    (hopens : (Prog.constructionPhase d.pageName (visit.getD (.bool false))).fullContext.Speaks (callAt rounds depth)
      { w with scene := w.scene.withPage browser }) :
    let page : Value := .page w.scene.instances.length cls
    let step (st : Stage) : World → Result Value := (st.program page cls).run (callAt rounds depth) rounds
    ∃ opened ran fault finish,
      opened.scene = w.scene.withPage browser ∧
      StageRuns step (Stage.due toVisit d) opened ran fault finish ∧
      ran <+: Stage.due toVisit d ∧ (fault = none → ran = Stage.due toVisit d) ∧
      (Stage.due toVisit d = [] → fault = none ∧ finish.scene = w.scene.withPage browser) ∧
      ((Prog.constructionPhase d.pageName (visit.getD (.bool false))).fullContext.Speaks (callAt rounds depth) finish →
        ∃ journal, callAt rounds (depth + 1) (.pageType cls) args named w =
          (endingWith page fault, { finish with journal })) ∧
      (∀ st w', w'.scene.overrides cls [st.member, everyName] = false →
        w'.scene.field? w.scene.instances.length st.member = none →
        step st w' = (st.usual page cls).run (callAt rounds depth) rounds w') ∧
      (toVisit = true → w.scene.overrides cls [Stage.navigation.member, everyName] = false →
        (d.address.isNone = true → ran = [.navigation] ∧ fault = some { fault := .noAddress d.pageName.text } ∧
          finish.scene = w.scene.withPage browser) ∧
        ∀ driver dr template base, browser = .driver driver → w.scene.drivers.lookup driver = some dr →
          d.address.word? = some template → w.scene.settings.baseAddress.word? = some base →
          ∃ r w₁, step .navigation opened = (r, w₁) ∧ w₁.Retains finish ∧
            w₁.scene.events = (if (w.scene.withPage browser).truthy dr.loading then [.sleep dr.loading] else []) ++
              .visit driver (.text (Text.resolveAddress base template)) :: w.scene.events) := by
  intro page step
  let start : World := { w with scene := w.scene.withPage browser }
  obtain ⟨journal, htimed⟩ := Prog.run_timed_construction (α := Unit) (w := start) d.pageName hslow hopens
  let opened : World := { start with journal }
  obtain ⟨ran, fault, finish, hruns, hstages⟩ : ∃ ran fault finish,
      StageRuns step (Stage.due toVisit d) opened ran fault finish ∧
        Prog.run (callAt rounds depth) rounds (Prog.stages page cls d (visit.getD (.bool false))) opened =
          (endingWith () fault, finish) := Prog.run_stages (htruth journal)
  have hretains : ∀ st (w' : World), w'.Retains (step st w').2 := fun st w' =>
    Prog.run_retains (callAt_retains rounds depth) (st.program page cls) w'
  have husual : ∀ st w', w'.scene.overrides cls [st.member, everyName] = false →
      w'.scene.field? w.scene.instances.length st.member = none →
      step st w' = (st.usual page cls).run (callAt rounds depth) rounds w' := fun st w' hcls hpage =>
    Prog.run_stage_usual hcls hpage [] _
  have hfield : ∀ name, opened.scene.field? w.scene.instances.length name =
      if name == PageType.reservedField then some browser else none := w.scene.withPage_field? browser
  have hnone : Stage.due toVisit d = [] → fault = none ∧ finish.scene = w.scene.withPage browser := by
    intro hdue
    rw [hdue] at hruns
    exact hruns.of_nil.imp_right fun h => congrArg World.scene h
  refine ⟨opened, ran, fault, finish, rfl, hruns, hruns.isPrefix, hruns.eq_of_none, hnone, ?_, husual, ?_⟩
  · intro hcloses
    obtain ⟨journal, htimed⟩ := htimed _ _ _ hstages hcloses
    refine ⟨journal, ?_⟩
    have henter : callAt rounds (depth + 1) (.pageType cls) args named w =
        Prog.run (callAt rounds depth) rounds (Prog.construct cls args named) w := rfl
    rw [henter, Prog.run_construct hplain hd hargs, htimed]
    cases fault <;> rfl
  · intro hvisit hgoto
    have hevery : w.scene.member? cls everyName = none :=
      Scene.member?_of_overrides hgoto (List.mem_cons_of_mem _ List.mem_cons_self)
    have hnavigation : step .navigation opened = (Prog.goTo page cls).run (callAt rounds depth) rounds opened :=
      husual .navigation opened hgoto (hfield _)
    -- the first stage that is due is to go to the address
    obtain ⟨later, hdue⟩ : ∃ later, Stage.due toVisit d = .navigation :: later := by
      rw [hvisit]
      exact ⟨_, rfl⟩
    rw [hdue] at hruns
    refine ⟨?_, ?_⟩
    · intro haddress
      rw [Prog.run_goTo_noAddress (w := opened) hd haddress] at hnavigation
      obtain ⟨hran, hfault, rfl⟩ := hruns.of_first_fails hnavigation
      exact ⟨hran, hfault, rfl⟩
    · rintro driver dr template base rfl hdriver haddress hbase
      let url : Value := .text (Text.resolveAddress base template)
      obtain ⟨journal, hgo⟩ : ∃ journal, (Prog.goTo page cls).run (callAt rounds depth) rounds opened =
          ((opened.scene.visit driver url).1, { scene := (opened.scene.visit driver url).2, journal }) :=
        Prog.run_goTo_driver hd hevery (hfield _) haddress hbase
      rw [hgo] at hnavigation
      have hevents := Scene.visit_events (s := opened.scene) hdriver url
      have hfirst : (step .navigation opened).2.Retains finish := hruns.retains_first hretains
      rw [hnavigation] at hfirst
      exact ⟨_, _, hnavigation, hfirst, hevents⟩

/-! ## A page that is visited -/

/-- The type of a page with an address and a title. -/
def searchPage : ClassRef := ⟨1, "SearchPage"⟩

/-- What is done to define it. -/
def searchPageDeeds : List Deed :=
  [.op (.derive 0 (.ofText searchPage.name)),
   .op (.addPageType
    { name := searchPage.name, fullName := searchPage.name, bases := [rootType]
      lineage := [searchPage, rootType], definition := some 1 }),
   .op (.enter 1 (.address (.text "\x7bbase_url\x7d/search"))), .op (.enter 1 (.expectTitle (.text "Search"))),
   .op (.lock 1)]

/-- The world after that, with a driver that takes a second to load. -/
def searchPageWorld : World :=
  ({ drivers := [("browser", { title := .text "Home", loading := .int 1 })] } : Setting).world.after searchPageDeeds

/-- The first thing that is noted when the page is constructed and visited is that the
driver goes to the resolved address. -/
theorem searchPage_visited :
    Stage.due true ((searchPageWorld.scene.definition? searchPage).getD { pageName := .ofText "" }) =
      [.navigation, .title] ∧
    ∃ fault finish, callAt usualRounds 300 (.pageType searchPage) [.driver "browser", .bool true] [] searchPageWorld =
        (endingWith (.page 0 searchPage) fault, finish) ∧
      [.sleep (.int 1), .visit "browser" (.text "http://localhost:8000/search")] <:+ finish.scene.events := by
  refine ⟨rfl, ?_⟩
  obtain ⟨opened, ran, fault, finish, -, -, -, -, -, hcall, -, hvisit⟩ :=
    construct_runs_stages usualRounds 299 searchPageWorld searchPage [.driver "browser", .bool true] [] rfl rfl rfl
      (fun _ => Prog.run_truth_of_plain rfl) rfl (Prog.constructionPhase_speaks _ rfl)
  obtain ⟨journal, hcall⟩ := hcall (Prog.constructionPhase_speaks _ rfl)
  obtain ⟨r, w₁, -, hretains, hevents⟩ := (hvisit rfl rfl).2 "browser" _ _ _ rfl rfl rfl rfl
  refine ⟨fault, _, hcall, ?_⟩
  rw [World.Retains, hevents] at hretains
  exact hretains

/-! ## Flags that do more than to say whether they are true -/

/-- A type of pages that have nothing to go through. -/
def barePage : ClassRef := ⟨2, "BarePage"⟩

/-- A flag that counts as true, but fails to give its text. -/
def speechlessFlag : Value := .object 0 (some ⟨0, "Speechless"⟩)

/-- A flag that counts as false, but makes the driver go elsewhere to find that out. -/
def strayingFlag : Value := .object 1 (some ⟨1, "Straying"⟩)

/-- What is done to define the types of the flags and to make them. -/
def flagsDeeds : List Deed :=
  [.op (.derive 0 (.ofText barePage.name)),
   .op (.addPageType
    { name := barePage.name, fullName := barePage.name, bases := [rootType], lineage := [barePage, rootType]
      definition := some 2 }),
   .op (.lock 2), .op (.assign "browser" (.driver "browser")),
   .op (.addFunction (.request (.raise .runtime (some "boom")))),
   .op (.addFunction (.sequence
    [.call (.text "get") (.request (.held "browser")) [.request (.const (.text "/elsewhere"))] [],
     .request (.const (.bool false))])),
   .op (.addRecordType { name := "Speechless", plain := false, members := [(textMember, .method textMember 0)] }),
   .op (.addRecordType { name := "Straying", plain := false, members := [("__bool__", .method "__bool__" 1)] }),
   .op (.addInstance {}), .op (.addInstance {})]

/-- The world after that. -/
def flagsWorld (settings : Settings) (policy : Log.Policy) : World :=
  ({ settings, drivers := [("browser", { title := .text "Home" })] } : Setting).world.after
    (searchPageDeeds ++ flagsDeeds ++ [.op (.setPolicy policy)])

/-- What the construction of a page does in that world. -/
def constructed (settings : Settings) (policy : Log.Policy) (cls : ClassRef) (flag : Value) : Result Value :=
  callAt usualRounds 300 (.pageType cls) [.driver "browser", flag] [] (flagsWorld settings policy)

/-- The driver that goes to an address. -/
def visited? : Event → Option String
  | .visit driver _ => some driver
  | _ => none

/-- The kind of the fault that a construction fails with, if it fails. -/
def faultKind? (result : Result Value) : Option FaultKind :=
  match result.1 with
  | .ok _ => none
  | .error r => some r.kind

/-- A page is not visited, though its flag is true and it has an address, if the flag fails
to give its text: the construction fails with that fault before any stage begins.  The
driver of a page without stages is touched, if its flag does so, and the construction of
such a page fails, if the time that it takes cannot be compared with the limit. -/
theorem construct_heedsFlag :
    (((Prog.truth speechlessFlag).run (callAt usualRounds 300) usualRounds (flagsWorld {} {})).1 = .ok true ∧
      faultKind? (constructed {} {} searchPage speechlessFlag) = some .runtime ∧
      (constructed {} {} searchPage speechlessFlag).2.scene.events = []) ∧
    (((Prog.truth strayingFlag).run (callAt usualRounds 300) usualRounds (flagsWorld {} {})).1 = .ok false ∧
      Stage.due false (((flagsWorld {} {}).scene.definition? barePage).getD { pageName := .ofText "" }) = [] ∧
      (constructed {} { includeContext := false } barePage strayingFlag).2.scene.events.map visited? =
        [some "browser"]) ∧
    faultKind? (constructed { slowPhase := .text "soon" } {} barePage (.bool false)) = some .type := by
  refine ⟨⟨rfl, ?_, ?_⟩, ⟨rfl, rfl, ?_⟩, ?_⟩ <;> decide +kernel

end PageObjects
