import PageObjects.Proofs.Catalog.Pages
import PageObjects.Proofs.Control.Suiting
import PageObjects.Proofs.Dispatch.Order
import PageObjects.Proofs.PageType.Labels

/-!
# What generated accessors search with

Links, buttons and the entries of catalogs generate accessors.  An accessor does not hold
the driver of a page: it calls the searching member on the page, which is looked up as any
name is.  If neither the page nor its type nor the table of its definition has that name,
the driver of the page is asked once, and what it finds is used as it was declared.  But a
binding under that name, such as one generated by a label, takes the place of the driver,
and then no accessor of the page works any more.

Main definitions:

- `Catalog.Accessor.use`: what is done with what is found.
- `Generated`: what labels and the entries of catalogs generate.
- `World.searched`, `World.used`: a search with a driver, and the use of an element.
- `Catalog.Accessor.Gives`: what an accessor gives for an element.
- `Catalog.Accessor.Asks`: the search of an accessor with a driver, and what comes of it.
- `Scene.Unhidden`: pages on which nothing but a binding hides the driver's search.

Main results:

- Theorem `Catalog.Accessor.run_use`: what the use of an element comes to.
- Theorem `Generated.run_call`: a generated accessor searches on the page.
- Theorem `generated_asksDriver`: what generated accessors search with.
-/

namespace PageObjects

open Prog

/-- The member that searches. -/
def searchingName : String := "find_element"

/-- To search is to call that member. -/
theorem findElement_eq (page strategy target : Value) :
    findElement page strategy target =
      (attributeOf searchingName page).bind fun f => callValue f [strategy, target] [] := rfl

/-! ## What is generated -/

namespace Catalog.Accessor

/-- How to search. -/
def strategy : Accessor → String
  | locate strategy _ _ | property strategy _ _ => strategy

/-- What to search for. -/
def target : Accessor → String
  | locate _ target _ | property _ target _ => target

/-- What is done with what is found. -/
def use : Accessor → Value → Prog Value
  | locate _ _ finish, found => useFound finish found
  | property _ _ name, found => callMember found "get_attribute" [name]

/-- What a search is called with. -/
def arguments (a : Accessor) : List Value := [.text a.strategy, .text a.target]

end Catalog.Accessor

open Catalog (Accessor)

/-- What is generated, with how it searches: the element and the action of a link or a
button, and the elements and values of the entry of a catalog. -/
inductive Generated : BindingKind → Value → Accessor → Prop where
  | labelled (c : Labelling) :
      Generated .element c.pair.locator (.locate c.pair.strategy c.pair.target .element)
  | clicking (c : Labelling) :
      Generated .action c.pair.body (.locate c.pair.strategy c.pair.target .click)
  | element {s : Scene} {name spec payload : Value} {strategy target : String} {fields : Value.Entries}
      {finish : Finish} : Catalog.LocatorIs s spec strategy target fields →
      Catalog.KindIs (Value.field "kind" fields) finish →
      Catalog.Entry.element s name spec = .ok (.binding "element" name payload) →
      Generated .element payload (.locate strategy target finish)
  | value {s : Scene} {name spec payload : Value} {strategy target : String} {fields : Value.Entries} :
      Catalog.LocatorIs s spec strategy target fields →
      Catalog.Entry.value s name spec = .ok (.binding "value" name payload) →
      Generated .element payload
        (Catalog.valueAccessor strategy target ((Value.field? "attribute" fields).getD (.text "text")))

/-! ## Searching with a driver -/

namespace World

/-- What a search with a driver comes to, and the world after it. -/
def searched (w : World) (driver strategy target : String) : Result Value :=
  (Op.search driver (.text strategy) (.text target)).run w

/-- What the use of an element comes to, and the world after it. -/
def used (w : World) (n : String) (e : Element) (u : ElementUse) : Result Value :=
  ((e.use w.scene.cells u).1,
    { w with scene := { w.scene.note (.element n u) with
        elements := Assoc.put n (e.use w.scene.cells u).2 w.scene.elements } })

/-- A search leaves one event, and changes nothing but the driver. -/
theorem searched_scene {w : World} {driver : String} {d : Driver} (h : w.scene.drivers.lookup driver = some d)
    (strategy target : String) :
    ∃ drivers, (w.searched driver strategy target).2.scene =
      { w.scene.note (.find driver (.text strategy) (.text target)) with drivers } := by
  simp only [searched, Op.run, withScene, Scene.search, h]
  split <;> exact ⟨_, rfl⟩

/-- A control of a kind wraps an element, which has been used to choose the kind; the
latest use comes first. -/
def Wraps (w : World) (n : String) (kind : ControlKind) (uses : List ElementUse) (r : Result Value) : Prop :=
  ∃ w', r = (.ok (.control w.scene.instances.length kind), w') ∧
    w'.scene.field? w.scene.instances.length wrappedField = some (.element n) ∧
    w'.scene.events = uses.map (Event.element n) ++ w.scene.events

end World

/-! ## Using what is found -/

/-- What an accessor gives for an element that is found: the element itself, a control that
wraps it, or what one use of it comes to. -/
def Catalog.Accessor.Gives (a : Accessor) (n : String) (e : Element) (w : World) (r : Result Value) : Prop :=
  match a with
  | .locate _ _ .element => r = (.ok (.element n), w)
  | .locate _ _ (.wrapped kind) => w.Wraps n kind [] r
  | .locate _ _ .editable => ∀ kind uses, e.Suits w.scene.cells kind uses → w.Wraps n kind uses r
  | .locate _ _ .text => r = w.used n e .text
  | .locate _ _ .click => r = w.used n e .click
  | .property _ _ name => r = w.used n e (.getAttribute name)

section Uses

variable {caller : Caller} {rounds : Nat} {w : World} {n : String} {e : Element} {kind : ControlKind}
  {uses : List ElementUse}

/-- A control of which the element has been handled wraps it. -/
theorem World.Wraps.of_handled {r : Result Value} (h : ∃ w', r = (.ok (.control w.scene.instances.length kind), w') ∧
    w.Handled n uses e w' ∧ w'.scene.fieldsOf w.scene.instances.length = [(wrappedField, .element n)]) :
    w.Wraps n kind uses r := by
  obtain ⟨w', hr, hw', hcontrol⟩ := h
  refine ⟨w', hr, ?_, hw'.events⟩
  rw [Scene.field?, hcontrol]
  rfl

/-- What the use of an element that is found comes to. -/
theorem Catalog.Accessor.run_use (a : Accessor) (he : w.scene.elements.lookup n = some e) :
    a.Gives n e w (run caller rounds (a.use (.element n)) w) := by
  cases a with
  | property strategy target name =>
    change run caller rounds (callMember (.element n) "get_attribute" [name]) w = _
    rw [callMember_element (u := .getAttribute name) n (by decide) (by decide) rfl]
    exact run_useElement he _
  | locate strategy target finish =>
    cases finish with
    | element => exact rfl
    | wrapped kind => exact .of_handled (run_makeControl (.refl he) rfl kind)
    | editable => exact fun kind uses hsuits => .of_handled (run_editable caller rounds he hsuits)
    | text => exact run_useElement he .text
    | click =>
      change run caller rounds (callMember (.element n) "click" []) w = _
      rw [callMember_element (u := .click) n (by decide) (by decide) rfl]
      exact run_useElement he .click

end Uses

/-! ## Asking a driver -/

/-- A driver is asked once, and what comes of it is the fault of the driver, or what is done
with what the driver finds; an element of the page is used as it was declared. -/
structure Catalog.Accessor.Asks (a : Accessor) (caller : Caller) (rounds : Nat) (driver : String) (w : World)
    (r : Result Value) : Prop where
  once : (w.searched driver a.strategy a.target).2.scene.events =
    .find driver (.text a.strategy) (.text a.target) :: w.scene.events
  failed : ∀ fault w', w.searched driver a.strategy a.target = (.error fault, w') → r = (.error fault, w')
  found : ∀ v w', w.searched driver a.strategy a.target = (.ok v, w') → r = run caller rounds (a.use v) w'
  gives : ∀ n e w', w.searched driver a.strategy a.target = (.ok (.element n), w') →
    w.scene.elements.lookup n = some e → a.Gives n e w' r

section Drivers

variable {caller : Caller} {rounds : Nat} {w : World} {driver : String} {d : Driver}

/-- A driver searches at once. -/
theorem run_findElement_driver (caller : Caller) (rounds : Nat) (w : World) (driver strategy target : String) :
    run caller rounds (findElement (.driver driver) (.text strategy) (.text target)) w =
      w.searched driver strategy target := by
  change run caller rounds (ofExcept (w.searched driver strategy target).1) (w.searched driver strategy target).2 = _
  rcases w.searched driver strategy target with ⟨_ | v, w'⟩ <;> rfl

/-- To search with a driver and to use what is found is to ask the driver. -/
theorem Catalog.Accessor.asks (a : Accessor) (hdriver : w.scene.drivers.lookup driver = some d) :
    a.Asks caller rounds driver w
      (run caller rounds ((findElement (.driver driver) (.text a.strategy) (.text a.target)).bind a.use) w) := by
  rw [run_bind, run_findElement_driver]
  obtain ⟨drivers, hscene⟩ := World.searched_scene hdriver a.strategy a.target
  refine ⟨by rw [hscene]; rfl, fun fault w' h => ?_, fun v w' h => ?_, fun n e w' h he => ?_⟩
  · rw [h, andThen_error]
  · rw [h, andThen_ok]
  · rw [h] at hscene ⊢
    rw [andThen_ok]
    refine a.run_use ?_
    rw [hscene]
    exact he

end Drivers

/-! ## Searching on a page -/

/-- A world in which it is noted that a page hands the searching name to its driver. -/
def World.noted (w : World) (cls : ClassRef) : World := w.write (forwarding (w.scene.fullName cls) searchingName)

/-- Pages that look names up as the root does, where neither the page nor its type has the
searching member. -/
structure Scene.Unhidden (s : Scene) (id : Nat) (cls : ClassRef) : Prop where
  plain : s.overrides cls [everyName, furtherName] = false
  member : s.member? cls searchingName = none
  field : s.field? id searchingName = none

namespace Scene.Unhidden

variable {caller : Caller} {rounds : Nat} {w : World} {id : Nat} {cls : ClassRef} (h : w.scene.Unhidden id cls)

include h

theorem every : w.scene.member? cls everyName = none := Scene.member?_of_overrides h.plain List.mem_cons_self

theorem further : w.scene.member? cls furtherName = none :=
  Scene.member?_of_overrides h.plain (List.mem_cons_of_mem _ List.mem_cons_self)

/-- There is nothing near under the name. -/
theorem near : Verdict.first (w.scene.nearVerdicts id cls searchingName) = none := by
  have hroot : PageType.isRootName searchingName = false := by decide
  have hpart : w.scene.pagePart? id cls searchingName = none :=
    Scene.pagePart?_of_not_isGuarded (by decide +kernel)
  simp [Verdict.first, Scene.nearVerdicts, Scene.classAttribute?, hpart, h.field, h.member, hroot]

/-- A binding under the name is called in place of the driver. -/
theorem run_search_bound {b : Binding} {m : String} (hslot : w.scene.slot? cls searchingName = some (.binding b))
    (hname : b.name.word? = some m) (a : Accessor) :
    run caller rounds ((findElement (.page id cls) (.text a.strategy) (.text a.target)).bind a.use) w =
      run caller rounds ((callValue (.bound m b.kind b.payload (.page id cls)) a.arguments []).bind a.use) w := by
  have hguarded : PageType.isGuarded searchingName = false := by decide +kernel
  have hfar : Verdict.first (w.scene.farVerdicts id cls searchingName) =
      some (.value (.bound m b.kind b.payload (.page id cls))) := by
    simp only [Verdict.first, Scene.farVerdicts, hguarded, Bool.false_eq_true, if_false, hslot, Option.bind_some,
      Slot.verdict, hname, List.findSome?_cons, id_eq]
  have hfound : run caller rounds (attributeOf searchingName (.page id cls)) w =
      (.ok (.bound m b.kind b.payload (.page id cls)), w) :=
    run_attributeOf_far h.every h.further h.near hfar fun h => by cases h
  rw [run_bind, findElement_eq, run_bind, hfound, andThen_ok, run_bind]
  rfl

/-- Without a binding under the name, the page stands for its driver. -/
theorem run_search_handed (hslot : w.scene.slot? cls searchingName = none) {browser : Value}
    (hbrowser : w.scene.field? id PageType.reservedField = some browser)
    (hdeep : browser.handsOn = true →
      (run caller rounds (attributeOf searchingName (.page id cls)) w).1 ≠ .error { fault := .tooDeep })
    (a : Accessor) :
    run caller rounds ((findElement (.page id cls) (.text a.strategy) (.text a.target)).bind a.use) w =
      run caller rounds ((findElement browser (.text a.strategy) (.text a.target)).bind a.use) (w.noted cls) := by
  have hguarded : PageType.isGuarded searchingName = false := by decide +kernel
  have hfar : Verdict.first (w.scene.farVerdicts id cls searchingName) = none := by
    simp [Verdict.first, Scene.farVerdicts, hguarded, hslot, hbrowser]
  have hforwarded : w.scene.handedOn id = .forwarded browser := by simp only [Scene.handedOn, hbrowser]
  have hhanded : run caller rounds (attributeOf searchingName (.page id cls)) w = _ :=
    run_attributeOf_handed h.every h.further h.near hfar hforwarded
  -- one look-up fewer is left for the driver, which is enough unless names are handed on for ever
  have hsame : run caller rounds (attributeOf searchingName (.page id cls)) w =
      run caller rounds (attributeOf searchingName browser) (w.noted cls) := by
    cases hhands : browser.handsOn with
    | true =>
      have hdeep := hdeep hhands
      rw [hhanded] at hdeep ⊢
      exact (run_attributeAt_succ handingLimit searchingName browser _ hdeep).symm
    | false =>
      rw [hhanded, attributeOf, attributeAt_of_handsOn hhands handingLimit 998]
      rfl
  rw [run_bind, run_bind, findElement_eq, findElement_eq, run_bind, run_bind, hsame]

end Scene.Unhidden

/-- A payload that searches and uses what it finds as an accessor says. -/
inductive Catalog.Accessor.Stands : Accessor → Value → Prop where
  | locate (shown strategy target : String) (finish : Finish) :
      Stands (.locate strategy target finish) (.locator shown strategy target finish)
  | property (strategy target : String) (name : Value) :
      Stands (.property strategy target name) (.attributeLocator strategy target name)

namespace Catalog.Accessor.Stands

variable {payload : Value} {a : Accessor}

/-- Such a payload searches on the page that it is called with. -/
theorem enter_page (h : a.Stands payload) (page : Value) :
    enter payload [page] [] = (findElement page (.text a.strategy) (.text a.target)).bind a.use := by
  cases h <;> rfl

/-- It takes nothing but the page. -/
theorem enter_many (h : a.Stands payload) (x y z : Value) : enter payload [x, y, z] [] = raise .wrongType := by
  cases h <;> rfl

theorem directOp?_eq_none (h : a.Stands payload) (args : List Value) (named : Named) :
    directOp? payload args named = none := by
  cases h <;> rfl

end Catalog.Accessor.Stands

namespace Generated

variable {kind : BindingKind} {payload : Value} {a : Accessor} {w : World}

/-- What is generated searches and uses what it finds as it was declared. -/
theorem stands (h : Generated kind payload a) : a.Stands payload := by
  cases h with
  | labelled c => exact .locate ..
  | clicking c => exact .locate ..
  | @element s name spec _ strategy target fields finish hlocator hkind hpayload =>
    rw [Catalog.Entry.element, Catalog.Describes.locator_eq hlocator] at hpayload
    simp only [Bind.bind, Except.bind, Catalog.Describes.finish_eq hkind] at hpayload
    cases hpayload
    exact .locate ..
  | @value s name spec _ strategy target fields hlocator hpayload =>
    rw [Catalog.Entry.value, Catalog.Describes.locator_eq hlocator] at hpayload
    simp only [Bind.bind, Except.bind] at hpayload
    unfold Catalog.valueAccessor
    split at hpayload
    · rename_i htext
      cases hpayload
      rw [if_pos htext]
      exact .locate ..
    · rename_i htext
      cases hpayload
      rw [if_neg htext]
      exact .property ..

/-- A generated accessor that is called searches on its page. -/
theorem run_call (h : Generated kind payload a) (rounds depth : Nat) (name : String) (page : Value) (w : World) :
    callAt rounds (depth + 2) (.bound name kind payload page) [] [] w =
      run (callAt rounds depth) rounds ((findElement page (.text a.strategy) (.text a.target)).bind a.use) w := by
  have hpayload : run (callAt rounds (depth + 1)) rounds (callValue payload [page] []) w =
      run (callAt rounds depth) rounds (enter payload [page] []) w := run_callValue h.stands.directOp?_eq_none _ _ _
  rw [← h.stands.enter_page page, ← hpayload]
  cases kind <;> rfl

/-- A binding that is an element, or that is generated, cannot be called with two arguments. -/
theorem run_captured {b : Binding} (h : b.kind = .element ∨ ∃ a', Generated b.kind b.payload a') (rounds depth : Nat)
    (m : String) (page x y : Value) (w : World) :
    run (callAt rounds (depth + 2)) rounds (callValue (.bound m b.kind b.payload page) [x, y] []) w =
      (.error { fault := .wrongType }, w) := by
  have hentered : run (callAt rounds (depth + 2)) rounds (callValue (.bound m b.kind b.payload page) [x, y] []) w =
      run (callAt rounds (depth + 1)) rounds (enterBound b.kind b.payload page [x, y]) w :=
    run_callValue (fun _ _ => rfl) _ _ _
  rw [hentered]
  rcases h with helement | ⟨a', ha'⟩
  · rw [helement]
    rfl
  · cases hkind : b.kind with
    | element => rfl
    | action =>
      change run _ _ (callValue b.payload [x, y, page] []) w = _
      rw [run_callValue ha'.stands.directOp?_eq_none, ha'.stands.enter_many]
      rfl

end Generated

/-! ## What generated accessors search with -/

/-- **What generated accessors search with**: on a page that looks names up as the root
does, and where neither the page nor its type has the searching member, a generated
accessor, or a generated action, goes by the table of the definition.  If nothing is bound
under the searching name, the call is a search with what the page keeps as its driver, and
the use of what is found; a driver is asked exactly once, with what was declared, and its
fault, or the element that it finds, used as it was declared, is what the call comes to.
If something is bound under that name, it is called in place of the driver; and if this is
an element, or was itself generated, every such call fails and does nothing. -/
theorem generated_asksDriver {w : World} {id : Nat} {cls : ClassRef} (hpage : w.scene.Unhidden id cls)
    {kind : BindingKind} {payload : Value} {a : Accessor} (ha : Generated kind payload a) {rounds depth : Nat}
    {name : String} {r : Result Value}
    (hr : callAt rounds (depth + 4) (.bound name kind payload (.page id cls)) [] [] w = r) :
    (w.scene.slot? cls searchingName = none → ∀ browser, w.scene.field? id PageType.reservedField = some browser →
      ((browser.handsOn = true →
          (run (callAt rounds (depth + 2)) rounds (attributeOf searchingName (.page id cls)) w).1 ≠
            .error { fault := .tooDeep }) →
        r = run (callAt rounds (depth + 2)) rounds
          ((findElement browser (.text a.strategy) (.text a.target)).bind a.use) (w.noted cls)) ∧
      ∀ driver d, browser = .driver driver → w.scene.drivers.lookup driver = some d →
        a.Asks (callAt rounds (depth + 2)) rounds driver (w.noted cls) r) ∧
    ∀ b m, w.scene.slot? cls searchingName = some (.binding b) → b.name.word? = some m →
      r = run (callAt rounds (depth + 2)) rounds
        ((callValue (.bound m b.kind b.payload (.page id cls)) a.arguments []).bind a.use) w ∧
      ((b.kind = .element ∨ ∃ a', Generated b.kind b.payload a') → r = (.error { fault := .wrongType }, w)) := by
  rw [ha.run_call rounds (depth + 2)] at hr
  subst hr
  constructor
  · intro hslot browser hbrowser
    refine ⟨fun hdeep => hpage.run_search_handed hslot hbrowser hdeep a, fun driver d hdriver hd => ?_⟩
    subst hdriver
    rw [hpage.run_search_handed hslot hbrowser (fun h => by cases h) a]
    exact a.asks hd
  · intro b m hslot hname
    rw [hpage.run_search_bound hslot hname a]
    refine ⟨rfl, fun hb => ?_⟩
    rw [run_bind, Catalog.Accessor.arguments, Generated.run_captured hb, andThen_error]

/-- A driver that finds one element under a link text. -/
def findingSetting : Setting where
  elements := [("help", { attributes := .map 1 })]
  drivers := [("browser",
    { finds := [{ strategy := .text "link text", target := .text "Help", found := .text "help" }] })]

/-- The world with a page of which the type declares some links. -/
def findingWorld (links : List String) : World :=
  findingSetting.world.after
    (addingType 1 "Page" [rootType] [] ++
      (links.map fun text =>
        .op (.declare 1 ((labelledWorld []).scene.facts labelledPage) (linkTo text).declaration)) ++
      [.op (.lock 1), .op (.addInstance { fields := [(PageType.reservedField, .driver "browser")] })])

/-- The element and the action of a link. -/
def linkElement (text : String) : Value :=
  .bound (linkTo text).elementName .element (linkTo text).pair.locator (.page 0 labelledPage)

def linkAction (text : String) : Value :=
  .bound (linkTo text).name .action (linkTo text).pair.body (.page 0 labelledPage)

/-- A link finds its element with one search, and clicks it once, until a label takes the
searching name: then it only fails. -/
theorem findingWorld_asksDriver :
    (∃ w', callAt 1 4 (linkElement "Help") [] [] (findingWorld ["Help"]) = (.ok (.element "help"), w') ∧
      w'.scene.events = [.find "browser" (.text "link text") (.text "Help")]) ∧
    (∃ w', callAt 1 4 (linkAction "Help") [] [] (findingWorld ["Help"]) = (.ok .none, w') ∧
      w'.scene.events = [.element "help" .click, .find "browser" (.text "link text") (.text "Help")]) ∧
    callAt 1 4 (linkElement "Help") [] [] (findingWorld ["Help", "Find element"]) =
      (.error { fault := .wrongType }, findingWorld ["Help", "Find element"]) := by
  have hfree : (findingWorld ["Help"]).scene.Unhidden 0 labelledPage := ⟨by decide +kernel, rfl, rfl⟩
  have hslot : (findingWorld ["Help"]).scene.slot? labelledPage searchingName = none := by decide +kernel
  refine ⟨?_, ?_, ?_⟩
  · obtain ⟨hasks, -⟩ := @generated_asksDriver _ 0 labelledPage hfree _ _ _ (.labelled (linkTo "Help")) 1 0 _ _ rfl
    obtain ⟨-, hdriver⟩ := hasks hslot _ rfl
    obtain ⟨honce, -, -, hgives⟩ := hdriver "browser" _ rfl rfl
    exact ⟨_, hgives "help" _ _ rfl rfl, honce⟩
  · obtain ⟨hasks, -⟩ := @generated_asksDriver _ 0 labelledPage hfree _ _ _ (.clicking (linkTo "Help")) 1 0 _ _ rfl
    obtain ⟨-, hdriver⟩ := hasks hslot _ rfl
    obtain ⟨-, -, -, hgives⟩ := hdriver "browser" _ rfl rfl
    exact ⟨_, hgives "help" _ _ rfl rfl, rfl⟩
  · have hpage : (findingWorld ["Help", "Find element"]).scene.Unhidden 0 labelledPage := ⟨by decide +kernel, rfl, rfl⟩
    obtain ⟨-, hbound⟩ := @generated_asksDriver _ 0 labelledPage hpage _ _ _ (.labelled (linkTo "Help")) 1 0 _ _ rfl
    obtain ⟨-, hrefused⟩ :=
      hbound ⟨.text "find_element", .action, (linkTo "Find element").pair.body⟩ "find_element" rfl rfl
    exact hrefused (.inr ⟨_, .clicking (linkTo "Find element")⟩)

end PageObjects
