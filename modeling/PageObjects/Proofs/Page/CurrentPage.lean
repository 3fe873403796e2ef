import PageObjects.Proofs.Log.Constructions
import PageObjects.Proofs.Program.Acts
import PageObjects.Proofs.Scene.Fields

/-!
# The current page

Sessions and records remember the page that was constructed through them last.  Pages may
be constructed through an instance while another page is, in its locators and actions, and
in the block that it is handed to; constructions may fail, and so may blocks.  At every
moment of a run the current page is the one whose construction through the instance was
the last to succeed.

Main definitions:

- `Scene.Remembers`: instances that remember pages, and whose types leave it to them how
  attributes are set and looked up.
- `keptPages`: the pages that are kept for an instance, in order.
- `Undisturbed`: nothing else is assigned to the current page.

Main results:

- Theorem `Act.remembered`: how an act changes the current page.
- Theorem `remembered_afterActs`: the current page is the one that was kept last.
- Theorem `OnCall.fails` and `OnCall.succeeds`: what a call keeps, and what it answers.
- Theorem `currentPage_lastConstructed`: the current page at every moment of a run.
-/

namespace PageObjects

open Prog (currentPage)

/-! ## The page that is remembered -/

/-- Instances that remember pages: sessions, and records that are no plain ones.  Their
types do not define how attributes are set or looked up. -/
structure Scene.Remembers (s : Scene) (id : Nat) (type : Option ClassRef) : Prop where
  there : id < s.instances.length
  paging : ∀ cls, type = some cls → ∃ t, s.recordType? cls = some t ∧ t.plain = false ∧
    t.members.lookup settingName = none ∧ t.members.lookup everyName = none

/-- The page that an instance remembers: what it keeps, or what its type has. -/
def Scene.remembered (s : Scene) (id : Nat) (type : Option ClassRef) : Value :=
  ((s.field? id currentPage).or
    ((s.typeMember? (.object id type) currentPage).map (·.boundTo (.object id type)))).getD .none

/-- The pages that are kept for an instance, in order. -/
def keptPages (id : Nat) (acts : List Act) : List Value := acts.filterMap (Act.kept? id)

@[simp] theorem keptPages_append (id : Nat) (acts acts' : List Act) :
    keptPages id (acts ++ acts') = keptPages id acts ++ keptPages id acts' := List.filterMap_append

theorem keptPages_cons (id : Nat) (a : Act) (acts : List Act) :
    keptPages id (a :: acts) = (a.kept? id).toList ++ keptPages id acts := by
  simp only [keptPages, List.filterMap_cons]
  cases a.kept? id <;> rfl

section Remembering

variable {s : Scene} {w w' : World} {id : Nat} {type : Option ClassRef}

/-- A record type is all that matters to what it has for its records. -/
theorem Scene.recordMember?_eq {cls : ClassRef} {t : RecordType} (h : s.recordType? cls = some t) (name : String) :
    s.recordMember? cls name = t.members.lookup name := by
  rw [recordMember?, h]
  rfl

/-- The type of an instance that remembers pages does not define how attributes are set. -/
theorem Scene.Remembers.setting (h : s.Remembers id type) : s.typeMember? (.object id type) settingName = none := by
  cases type with
  | none => rfl
  | some cls =>
    obtain ⟨t, ht, -, hsetting, -⟩ := h.paging cls rfl
    exact (Scene.recordMember?_eq ht _).trans hsetting

/-- Nor how they are looked up. -/
theorem Scene.Remembers.every (h : s.Remembers id type) : s.typeMember? (.object id type) everyName = none := by
  cases type with
  | none => rfl
  | some cls =>
    obtain ⟨t, ht, -, -, hevery⟩ := h.paging cls rfl
    exact (Scene.recordMember?_eq ht _).trans hevery

/-- Instances that remember pages go on to do so. -/
theorem Scene.Remembers.remains (h : w.scene.Remembers id type) (hw : w.Remains w') :
    w'.scene.Remembers id type where
  there := Nat.lt_of_lt_of_le h.there hw.instances
  paging cls hcls := by
    obtain ⟨t, ht, hrest⟩ := h.paging cls hcls
    exact ⟨t, hw.recordType? ht, hrest⟩

/-- The type of an instance has what it had. -/
theorem Scene.Remembers.typeMember? (h : w.scene.Remembers id type) (hw : w.Remains w') (name : String) :
    w'.scene.typeMember? (.object id type) name = w.scene.typeMember? (.object id type) name := by
  cases type with
  | none => rfl
  | some cls =>
    obtain ⟨t, ht, -⟩ := h.paging cls rfl
    exact (Scene.recordMember?_eq (hw.recordType? ht) name).trans (Scene.recordMember?_eq ht name).symm

/-- What instances have that remember pages. -/
theorem Scene.Remembers.sharedMember? (h : s.Remembers id type) {name : String} {v : Value}
    (hname : name ≠ "defaults") (hoption : optionMember? (.object id type) name = none)
    (hpaging : pagingMember? (.object id type) name = some v) :
    Scene.sharedMember? ((type.bind s.recordType?).map (·.plain)) (.object id type) name = some v := by
  cases type with
  | none => simp [Scene.sharedMember?, hpaging]
  | some cls =>
    obtain ⟨t, ht, hplain, -⟩ := h.paging cls rfl
    simp [Scene.sharedMember?, ht, hplain, hname, hoption, hpaging]

/-- What an instance comes to under a name that instances have which remember pages: what it
or its type has under that name, or else that. -/
theorem Scene.Remembers.resolveInstance (h : s.Remembers id type) {name : String} {v : Value}
    (hpart : ∀ t, thingPart? id t name = none) (hname : name ≠ "defaults")
    (hoption : optionMember? (.object id type) name = none)
    (hpaging : pagingMember? (.object id type) name = some v) :
    s.resolveInstance (.object id type) id type name =
      .found (((s.field? id name).or
        ((s.typeMember? (.object id type) name).map (·.boundTo (.object id type)))).getD v) := by
  simp only [Scene.resolveInstance, hpart, h.sharedMember? hname hoption hpaging, ite_self]
  cases (s.field? id name).or
    ((s.typeMember? (.object id type) name).map (·.boundTo (.object id type))) <;> rfl

/-- To look up what an instance comes to that remembers pages is to look at the scene. -/
theorem Scene.Remembers.attributeOf_bind (h : w.scene.Remembers id type) {name : String} {v : Value}
    (hresolved : w.scene.resolveInstance (.object id type) id type name = .found v) {α : Type}
    (k : Value → Prog α) (caller : Caller) (called : CallActs) (rounds : Nat) :
    ((Prog.attributeOf name (.object id type)).bind k).run caller rounds w = (k v).run caller rounds w ∧
      ∀ i, keptPages i (((Prog.attributeOf name (.object id type)).bind k).acts caller called rounds w) =
        keptPages i ((k v).acts caller called rounds w) := by
  have hprogram : (Prog.attributeOf name (.object id type)).bind k =
      (Prog.instanceAttribute (.object id type) id type name).bind k := rfl
  rw [hprogram, Prog.instanceAttribute]
  constructor
  · simp only [Prog.bind_eq, Prog.view, Prog.op, Prog.bind, Prog.run, Op.run, h.every, hresolved, Prog.settle]
  · intro i
    simp only [Prog.bind_eq, Prog.view, Prog.op, Prog.bind, Prog.acts, Op.run, h.every, hresolved, Prog.settle]
    rfl

/-- The current page of an instance is the one that it remembers. -/
theorem Scene.Remembers.run_currentPage (h : w.scene.Remembers id type) (caller : Caller) (rounds : Nat) :
    (Prog.attributeOf currentPage (.object id type)).run caller rounds w =
      (.ok (w.scene.remembered id type), w) := by
  have hresolved : w.scene.resolveInstance (.object id type) id type currentPage =
      .found (w.scene.remembered id type) := h.resolveInstance (fun _ => rfl) (by decide) rfl rfl
  have hrun := (h.attributeOf_bind hresolved .done caller (fun _ _ _ _ => []) rounds).1
  rwa [Prog.bind_done] at hrun

end Remembering

/-! ## Keeping pages -/

/-- Nothing is assigned to the current page of an instance but the pages that are kept. -/
def Undisturbed (id : Nat) (w : World) (acts : List Act) : Prop :=
  ∀ before d after, acts = before ++ .plain d :: after → ¬ d.Assigns id currentPage (w.afterActs before)

section Keeping

variable {w : World} {id : Nat} {type : Option ClassRef}

@[simp] theorem World.afterActs_cons (w : World) (a : Act) (acts : List Act) :
    w.afterActs (a :: acts) = (a.deed.perform w).afterActs acts := rfl

@[simp] theorem World.afterActs_append (w : World) (acts acts' : List Act) :
    w.afterActs (acts ++ acts') = (w.afterActs acts).afterActs acts' := by
  simp [World.afterActs]

/-- What is undisturbed is so from its first act on. -/
theorem Undisturbed.cons {a : Act} {acts : List Act} (h : Undisturbed id w (a :: acts)) :
    (∀ d, a = .plain d → ¬ d.Assigns id currentPage w) ∧ Undisturbed id (a.deed.perform w) acts := by
  constructor
  · rintro d rfl
    exact h [] d acts rfl
  · rintro before d after rfl
    exact h (a :: before) d after rfl

/-- What is undisturbed is so up to any act. -/
theorem Undisturbed.prefix {acts acts' : List Act} (h : Undisturbed id w (acts ++ acts')) : Undisturbed id w acts := by
  rintro before d after rfl
  exact h before d (after ++ acts') (by simp)

/-- An act changes the current page only by keeping a page. -/
theorem Act.remembered (a : Act) (h : w.scene.Remembers id type)
    (hplain : ∀ d, a = .plain d → ¬ d.Assigns id currentPage w) :
    (a.deed.perform w).scene.remembered id type = (a.kept? id).getD (w.scene.remembered id type) := by
  have htype := h.typeMember? (a.deed.perform_remains w) currentPage
  cases a with
  | plain d =>
    have hfield := d.perform_field w h.there (hplain d rfl)
    simp only [Scene.remembered, Act.deed, Act.kept?, Option.getD_none] at htype ⊢
    rw [hfield, htype]
  | kept i page =>
    have hfield : (w.scene.setField i currentPage page).field? id currentPage =
        if i = id then some page else w.scene.field? id currentPage := by
      simp [Scene.field?_setField, h.there]
    have hworld : ((Act.kept i page).deed.perform w).scene = w.scene.setField i currentPage page := rfl
    rw [hworld] at htype ⊢
    rw [Scene.remembered, hfield, htype]
    by_cases hi : i = id
    · simp [Act.kept?, hi]
    · simp [Act.kept?, hi, Scene.remembered]

/-- The current page is the one that was kept last. -/
theorem remembered_afterActs {acts : List Act} (h : w.scene.Remembers id type) (hacts : Undisturbed id w acts) :
    (w.afterActs acts).scene.remembered id type =
      (keptPages id acts).getLast?.getD (w.scene.remembered id type) := by
  induction acts generalizing w with
  | nil => rfl
  | cons a acts ih =>
    obtain ⟨hplain, hrest⟩ := hacts.cons
    rw [World.afterActs_cons, ih (h.remains (a.deed.perform_remains w)) hrest, a.remembered h hplain, keptPages_cons]
    cases a.kept? id with
    | none => rfl
    | some page =>
      rw [Option.toList_some, List.singleton_append, List.getLast?_cons]
      cases (keptPages id acts).getLast? <;> rfl

end Keeping

/-! ## Calls that construct pages -/

namespace OnCall

variable {c : OnCall} {f : Value} {args : List Value} {named : Named} {rounds depth : Nat} {w w' : World}

/-- A construction that fails is all that a call does, and its fault is that of the call. -/
theorem fails (hcall : onCall? f args named = some c) {r : Raised}
    (h : c.constructing.run (callAt rounds depth) rounds w = (.error r, w')) :
    callAt rounds (depth + 1) f args named w = (.error r, w') ∧
      callActs rounds (depth + 1) f args named w =
        c.constructing.acts (callAt rounds depth) (callActs rounds depth) rounds w := by
  constructor
  · simp only [callAt, enter_of_onCall hcall, program, Prog.run_bind_eq, h]
    rfl
  · simp only [callActs, hcall, acts, h, actsThen, List.append_nil]

/-- A page that has been constructed is kept before the block gets it, and the call
answers with it if it answers. -/
theorem succeeds (hcall : onCall? f args named = some c) {page : Value} {id : Nat} {type : Option ClassRef}
    (howner : c.owner = .object id type)
    (h : c.constructing.run (callAt rounds depth) rounds w = (.ok page, w'))
    (hid : w'.scene.Remembers id type) :
    keptPages id (callActs rounds (depth + 1) f args named w) =
      keptPages id (c.constructing.acts (callAt rounds depth) (callActs rounds depth) rounds w) ++ page ::
        keptPages id ((c.handing page).acts (callAt rounds depth) (callActs rounds depth) rounds
          (w'.afterActs [.kept id page])) ∧
    callAt rounds (depth + 1) f args named w =
      (c.handing page).run (callAt rounds depth) rounds (w'.afterActs [.kept id page]) := by
  have hkeep : (c.keeping page).run (callAt rounds depth) rounds w' = (.ok (), w'.afterActs [.kept id page]) := by
    simp only [keeping, Prog.setAttribute, howner, Prog.bind_eq, Prog.run_view_bind, hid.setting]
    rfl
  have hinstance : Prog.instanceOf? (.object id type) = some id := rfl
  constructor
  · simp only [callActs, hcall, acts, h, actsThen, hkeep, keepingActs, howner, hid.setting, hinstance,
      keptPages_append, keptPages_cons, Act.kept?, if_true]
    rfl
  · simp only [callAt, enter_of_onCall hcall, program, Prog.run_bind_eq, h, hkeep, Prog.andThen_ok]

/-- A block that gets a page has no say in what the call answers with. -/
theorem handing_answers {page v : Value} {caller : Caller}
    (h : (c.handing page).run caller rounds w = (.ok v, w')) : v = page := by
  unfold handing at h
  split at h
  · cases h
    rfl
  · obtain ⟨answer, w₁, -, hdone⟩ := Prog.run_bind_ok h
    cases hdone
    rfl

end OnCall

section Calls

variable {rounds depth : Nat} {w : World} {id : Nat} {type : Option ClassRef}

/-- Under both of its names an instance has the member that constructs pages, unless it or
its type has something else there. -/
theorem Scene.Remembers.run_on (h : w.scene.Remembers id type) {name : String} (hname : name = "on" ∨ name = "on_page")
    (hown : w.scene.field? id name = none) (htype : w.scene.typeMember? (.object id type) name = none)
    (caller : Caller) :
    (Prog.attributeOf name (.object id type)).run caller rounds w = (.ok (.member (.object id type) "on"), w) := by
  have hresolved : w.scene.resolveInstance (.object id type) id type name =
      .found (.member (.object id type) "on") := by
    rcases hname with rfl | rfl
    · rw [h.resolveInstance (fun _ => rfl) (by decide) rfl rfl, hown, htype]
      rfl
    · rw [h.resolveInstance (fun _ => rfl) (by decide) rfl rfl, hown, htype]
      rfl
  have hrun := (h.attributeOf_bind hresolved .done caller (fun _ _ _ _ => []) rounds).1
  rwa [Prog.bind_done] at hrun

/-- To visit a page is to construct it with the flag that makes it go to its address. -/
theorem Scene.Remembers.call_visit (h : w.scene.Remembers id type) (hown : w.scene.field? id "on" = none)
    (htype : w.scene.typeMember? (.object id type) "on" = none) {args : List Value} {named : Named} {cls : Value}
    {block : Option Value}
    (hargs : bindArguments [("page_class", true), ("block", false)] args named = some [some cls, block]) :
    callAt rounds (depth + 2) (.member (.object id type) "visit") args named w =
        callAt rounds (depth + 1) (.member (.object id type) "on") [cls]
          [("visit", .bool true), ("block", Prog.given block)] w ∧
      keptPages id (callActs rounds (depth + 2) (.member (.object id type) "visit") args named w) =
        keptPages id (callActs rounds (depth + 1) (.member (.object id type) "on") [cls]
          [("visit", .bool true), ("block", Prog.given block)] w) := by
  have hresolved : w.scene.resolveInstance (.object id type) id type "on" =
      .found (.member (.object id type) "on") := by
    rw [h.resolveInstance (fun _ => rfl) (by decide) rfl rfl, hown, htype]
    rfl
  have henter : Prog.enter (.member (.object id type) "visit") args named =
      (Prog.attributeOf "on" (.object id type)).bind fun f =>
        Prog.callValue f [cls] [("visit", .bool true), ("block", Prog.given block)] := by
    show Prog.callInstanceMember (.object id type) type "visit" args named = _
    simp only [Prog.callInstanceMember, hargs]
    rfl
  have hcall : onCall? (.member (.object id type) "visit") args named = none := by
    simp [onCall?]
  obtain ⟨hrun, hacts⟩ := h.attributeOf_bind hresolved
    (fun f => Prog.callValue f [cls] [("visit", .bool true), ("block", Prog.given block)])
    (callAt rounds (depth + 1)) (callActs rounds (depth + 1)) rounds
  constructor
  · rw [callAt, henter, hrun]
    exact Prog.andThen_pure _
  · rw [callActs, hcall, henter]
    simp only [hacts]
    simp only [Prog.callValue, Prog.directOp?, Prog.call, Prog.acts, keptPages_append]
    have hnone : ∀ r : Result Value, actsThen r (fun _ _ => []) = [] := by
      rintro ⟨_ | _, _⟩ <;> rfl
    rw [hnone]
    exact List.append_nil _

/-- A run leaves an instance there that remembers pages. -/
theorem Scene.Remembers.run (h : w.scene.Remembers id type) {α : Type} (p : Prog α) :
    (p.run (callAt rounds depth) rounds w).2.scene.Remembers id type := by
  rw [p.run_world (callAt_world rounds depth)]
  exact h.remains (w.after_remains _)

end Calls

/-- At every moment of a run, the current page of an instance is the page whose construction
through the instance was the last to succeed, or what it was, if there has been none.  A
construction that fails keeps no page; one that succeeds keeps its page before the block
gets it, and if the call answers, it is with that page.  The member that constructs pages
has two names, and to visit a page is to call it. -/
theorem currentPage_lastConstructed :
    (∀ (steps : List Step) (w : World) (id : Nat) (type : Option ClassRef) (before during after : List Act),
      scriptActs steps w = before ++ during ++ after → (w.afterActs before).scene.Remembers id type →
      Undisturbed id (w.afterActs before) during →
      ∃ initial, ∀ passed rest, during = passed ++ rest → ∀ caller rounds,
        (Prog.attributeOf currentPage (.object id type)).run caller rounds (w.afterActs (before ++ passed)) =
          (.ok ((keptPages id passed).getLast?.getD initial), w.afterActs (before ++ passed))) ∧
    (∀ (rounds depth : Nat) (f : Value) (args : List Value) (named : Named) (c : OnCall) (w : World) (id : Nat)
      (type : Option ClassRef), onCall? f args named = some c → c.owner = .object id type →
      w.scene.Remembers id type →
      (∀ r w', c.constructing.run (callAt rounds depth) rounds w = (.error r, w') →
        callAt rounds (depth + 1) f args named w = (.error r, w') ∧
          keptPages id (callActs rounds (depth + 1) f args named w) =
            keptPages id (c.constructing.acts (callAt rounds depth) (callActs rounds depth) rounds w)) ∧
      ∀ page w', c.constructing.run (callAt rounds depth) rounds w = (.ok page, w') →
        keptPages id (callActs rounds (depth + 1) f args named w) =
          keptPages id (c.constructing.acts (callAt rounds depth) (callActs rounds depth) rounds w) ++ page ::
            keptPages id ((c.handing page).acts (callAt rounds depth) (callActs rounds depth) rounds
              (w'.afterActs [.kept id page])) ∧
        callAt rounds (depth + 1) f args named w =
          (c.handing page).run (callAt rounds depth) rounds (w'.afterActs [.kept id page]) ∧
        ∀ v w'', callAt rounds (depth + 1) f args named w = (.ok v, w'') → v = page) ∧
    ∀ (rounds depth : Nat) (w : World) (id : Nat) (type : Option ClassRef), w.scene.Remembers id type →
      (∀ name, name = "on" ∨ name = "on_page" → w.scene.field? id name = none →
        w.scene.typeMember? (.object id type) name = none →
        (Prog.attributeOf name (.object id type)).run (callAt rounds depth) rounds w =
          (.ok (.member (.object id type) "on"), w)) ∧
      ∀ args named cls block,
        bindArguments [("page_class", true), ("block", false)] args named = some [some cls, block] →
        w.scene.field? id "on" = none → w.scene.typeMember? (.object id type) "on" = none →
        callAt rounds (depth + 2) (.member (.object id type) "visit") args named w =
            callAt rounds (depth + 1) (.member (.object id type) "on") [cls]
              [("visit", .bool true), ("block", Prog.given block)] w ∧
          keptPages id (callActs rounds (depth + 2) (.member (.object id type) "visit") args named w) =
            keptPages id (callActs rounds (depth + 1) (.member (.object id type) "on") [cls]
              [("visit", .bool true), ("block", Prog.given block)] w) ∧
          onCall? (.member (.object id type) "on") [cls] [("visit", .bool true), ("block", Prog.given block)] =
            some ⟨.object id type, cls, .bool true, Prog.given block⟩ := by
  refine ⟨?_, ?_, ?_⟩
  · intro steps w id type before during after _ hid hundisturbed
    refine ⟨(w.afterActs before).scene.remembered id type, ?_⟩
    rintro passed rest rfl caller rounds
    have hpassed : Undisturbed id (w.afterActs before) passed := hundisturbed.prefix
    have hremembers : (w.afterActs (before ++ passed)).scene.Remembers id type := by
      rw [World.afterActs_append]
      exact hid.remains ((w.afterActs before).after_remains _)
    rw [hremembers.run_currentPage, World.afterActs_append, remembered_afterActs hid hpassed]
  · intro rounds depth f args named c w id type hcall howner hid
    constructor
    · intro r w' hfails
      obtain ⟨hrun, hacts⟩ := OnCall.fails hcall hfails
      exact ⟨hrun, by rw [hacts]⟩
    · intro page w' hsucceeds
      have hid' : w'.scene.Remembers id type := by
        have hrun : (c.constructing.run (callAt rounds depth) rounds w).2.scene.Remembers id type :=
          hid.run c.constructing
        rwa [hsucceeds] at hrun
      obtain ⟨hkept, hrun⟩ := OnCall.succeeds hcall howner hsucceeds hid'
      refine ⟨hkept, hrun, ?_⟩
      intro v w'' hanswer
      rw [hrun] at hanswer
      exact OnCall.handing_answers hanswer
  · intro rounds depth w id type hid
    constructor
    · intro name hname hown htype
      exact hid.run_on hname hown htype _
    · intro args named cls block hargs hown htype
      exact ⟨(hid.call_visit hown htype hargs).1, (hid.call_visit hown htype hargs).2, rfl⟩

/-! ## Runs -/

section Runs

open Prog

/-- What is done to define types of pages and to make a session. -/
def sessionDeeds : List Deed :=
  definingDeeds plainPage [] [] ++ definingDeeds homePage [] [.address (.text "/")] ++
    [.op (.addInstance { fields := [(PageType.reservedField, .driver "browser")] }),
     .op (.assign "Page" (.pageType plainPage)), .op (.assign "HomePage" (.pageType homePage)),
     .op (.assign "session" (.object 0 none)), .op (.setPolicy { includeContext := false })]

/-- The world after that. -/
def sessionWorld : World := ({ drivers := [("browser", {})] } : Setting).world.after sessionDeeds

/-- A step that constructs a page through the session. -/
def constructingOn (member type : String) (named : List (String × Expr)) : Step :=
  { expr := .call (.text member) (.request (.held "session")) [.request (.held type)] named }

/-- Steps that construct a page and hand it to a block that constructs another one, and then
fail to visit a page that has no address. -/
def constructingInBlock : List Step :=
  [constructingOn "on" "Page" [("block", .function (constructingOn "on_page" "HomePage" []).expr)],
   constructingOn "visit" "Page" []]

/-- Whether an act may assign to a field of an instance without keeping a page. -/
def Act.mayAssign : Act → Bool
  | .plain (.op (.setField _ field _)) => field == currentPage
  | .plain (.op (.adjust _ field _)) => field == currentPage
  | .plain (.op (.setFields ..)) => true
  | _ => false

/-- Where no act may assign, nothing is disturbed. -/
theorem undisturbed_of_all {id : Nat} {w : World} {acts : List Act}
    (h : (acts.all fun a => !a.mayAssign) = true) : Undisturbed id w acts := by
  rintro before d after rfl hassigns
  have hd := List.all_eq_true.mp h (.plain d) (by simp)
  cases d with
  | op o =>
    cases o with
    | setField i field v =>
      obtain ⟨-, rfl⟩ := hassigns
      simp [Act.mayAssign] at hd
    | adjust target field v =>
      obtain ⟨-, rfl⟩ := hassigns
      simp [Act.mayAssign] at hd
    | setFields i fields => simp [Act.mayAssign] at hd
    | _ => exact hassigns
  | record | renew => exact hassigns

/-- In the end the current page is the one that the block has constructed. -/
theorem sessionWorld_currentPage :
    scriptActs constructingInBlock sessionWorld = [] ++ scriptActs constructingInBlock sessionWorld ++ [] ∧
      (sessionWorld.afterActs []).scene.Remembers 0 none ∧
      Undisturbed 0 (sessionWorld.afterActs []) (scriptActs constructingInBlock sessionWorld) ∧
      (attributeOf currentPage (.object 0 none)).run (callAt 1 1) 1 (worldAfter constructingInBlock sessionWorld) =
        (.ok (.page 2 homePage), worldAfter constructingInBlock sessionWorld) := by
  have hacts : scriptActs constructingInBlock sessionWorld =
      [] ++ scriptActs constructingInBlock sessionWorld ++ [] := by simp
  have hremembers : (sessionWorld.afterActs []).scene.Remembers 0 none :=
    ⟨by decide +kernel, fun _ hcls => nomatch hcls⟩
  have hundisturbed : Undisturbed 0 (sessionWorld.afterActs []) (scriptActs constructingInBlock sessionWorld) :=
    undisturbed_of_all (by decide +kernel)
  have hkept : (keptPages 0 (scriptActs constructingInBlock sessionWorld)).getLast? = some (.page 2 homePage) := by rfl
  obtain ⟨initial, hmoments⟩ := currentPage_lastConstructed.1 _ _ _ _ _ _ _ hacts hremembers hundisturbed
  have hend := hmoments _ [] (List.append_nil _).symm (callAt 1 1) 1
  rw [hkept, List.nil_append, ← scriptActs_world] at hend
  exact ⟨hacts, hremembers, hundisturbed, hend⟩

/-- A type of records that do nothing when an attribute is to be set. -/
def silentRecord : ClassRef := ⟨0, "Silent"⟩

/-- The world with a record of that type in the place of the session. -/
def silentWorld : World :=
  ({ drivers := [("browser", {})] } : Setting).world.after <| definingDeeds plainPage [] [] ++
    [.op (.addFunction (.request (.const .none))),
     .op (.addRecordType
       { name := "Silent", plain := false, members := [(PageType.reservedField, .none), (settingName, .method settingName 0)] }),
     .op (.addInstance {}), .op (.assign "Page" (.pageType plainPage)),
     .op (.assign "session" (.object 0 (some silentRecord))), .op (.setPolicy { includeContext := false })]

/-- The record of that type. -/
def silentOwner : Value := .object 0 (some silentRecord)

/-- What comes of constructing a page through it. -/
def silentCall : Result Value := callAt 1 10 (.member silentOwner "on") [.pageType plainPage] [] silentWorld

/-- A record whose type defines how attributes are set may forget the page that has been
constructed through it, although nothing else is assigned to its current page. -/
theorem silentWorld_forgets :
    silentCall.1 = .ok (.page 1 plainPage) ∧
      ((callActs 1 10 (.member silentOwner "on") [.pageType plainPage] [] silentWorld).all fun a => !a.mayAssign) =
        true ∧
      ((attributeOf currentPage silentOwner).run (callAt 1 10) 1 silentCall.2).1 = .ok .none := by
  refine ⟨?_, ?_, ?_⟩
  · rfl
  · decide +kernel
  · rfl

end Runs

end PageObjects
