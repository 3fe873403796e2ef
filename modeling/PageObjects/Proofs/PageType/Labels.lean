import PageObjects.Proofs.Definition.Pairs
import PageObjects.Proofs.Dispatch.Reach
import PageObjects.Proofs.PageType.Late

/-!
# Declaring links and buttons

A link or a button on a type that is being declared binds two names made from its label.
It fails if nothing is left of the label for a name, or one of the names is hidden by an
attribute of the type, or the name of the element is bound already; an action that has
the name of the action is replaced.  So after a row of links and buttons what a name is
bound to can be read off the labels.

Main definitions:

- `Labelling`: a link or a button with its label.
- `Labelling.Calls`: the ways to declare it on a type.
- `Prog.Labels`: a row of links and buttons, all of them taken.

Main results:

- Theorem `Labelling.Calls.makes`: what a link or a button makes of a definition.
- Theorem `labels_bindNames`: when links and buttons are taken, what they change, and what
  the names of a row of them are bound to.
-/

namespace PageObjects

/-- A world that can come to be without a table being written to from outside. -/
def World.Reached (w : World) : Prop :=
  ∃ (setting : Setting) (deeds : List Deed), (∀ n, Spares n deeds) ∧ w = setting.world.after deeds

theorem World.Reached.wellFormed {w : World} (h : w.Reached) {n : Nat} {d : Definition}
    (hn : w.scene.definitions[n]? = some d) : d.WellFormed := by
  obtain ⟨setting, deeds, hspares, rfl⟩ := h
  exact World.after_wellFormed setting.wellFormed hspares d (List.mem_of_getElem? hn)

/-- A name may be declared on a type if it is not empty and no attribute of the type hides it. -/
theorem Scene.nameable_iff {s : Scene} {cls : ClassRef} {n : String} :
    Definition.Nameable (s.facts cls) n ↔ n ≠ "" ∧ s.hides cls n = false :=
  ⟨fun h => ⟨h.named, h.plain⟩, fun h => ⟨h.1, h.2⟩⟩

/-- A link or a button with a label that is a text. -/
structure Labelling where
  kind : LabelKind
  label : Value
  text : String
  isText : label.word? = some text

namespace Labelling

variable (c : Labelling)

/-- The name of the action. -/
def name : String := Text.canonicalName c.text

/-- The name of the element. -/
def elementName : String := c.name ++ "_" ++ c.kind.word

/-- What is declared. -/
def pair : Definition.Pair := c.kind.pair c.text c.label.wordLabel.text

/-- The declaration, as a hook states it. -/
def statement : Statement :=
  match c.kind with
  | .link => .link c.label
  | .button => .button c.label

/-- The declaration that is made. -/
def declaration : Declaration :=
  match c.kind with
  | .link => .link c.label.wordLabel
  | .button => .button c.label.wordLabel

theorem elementName_ne : c.elementName ≠ "" := by
  rw [elementName, String.append_assoc]
  simp

theorem pair_action : c.pair.action = c.name := c.kind.pair_action _ _

theorem pair_element {c : Labelling} (h : c.name ≠ "") : c.pair.element = c.elementName :=
  c.kind.pair_element_of_named _ h

theorem pair_element_of_empty {c : Labelling} (h : c.name = "") : c.pair.element = c.kind.word :=
  c.kind.pair_element_of_empty _ h

theorem pair_names : c.pair.action ≠ c.pair.element := c.kind.pair_action_ne_element _ _

/-- What is declared is the pair. -/
theorem declare_eq (facts : TypeFacts) (d : Definition) :
    d.declare facts c.declaration = d.declarePair facts c.pair := by
  obtain ⟨kind, label, text, htext⟩ := c
  have hword : label.wordLabel.value.word? = some text := htext
  cases kind <;> simp only [declaration, Definition.declare, hword, pair, LabelKind.pair]

/-- The ways to declare a link or a button on a type: a hook states it, or the member of
the root is called. -/
inductive Calls (cls : ClassRef) : Prog Value → Prop where
  | stated : Calls cls (Prog.statement cls c.statement)
  | called : Calls cls (Prog.callDeclaring cls c.kind.word [c.label] [])

variable {c} {caller : Caller} {rounds : Nat} {w : World} {cls : ClassRef} {n : Nat} {d : Definition} {p : Prog Value}

open Prog in
/-- However a link or a button is declared, it makes of the definition what the pair does. -/
theorem Calls.makes (h : c.Calls cls p) (hcls : w.scene.definitionOf? cls = some n)
    (hn : w.scene.definitions[n]? = some d) (hfree : w.scene.overrides cls (usedMembers c.kind.word) = false) :
    Makes caller rounds p w n
      ((d.declarePair (w.scene.facts cls) c.pair).definition,
        (d.declarePair (w.scene.facts cls) c.pair).fault.map fun fault => { fault }) := by
  have hmake : Makes caller rounds (declareOn cls c.declaration) w n
      ((d.declarePair (w.scene.facts cls) c.pair).definition,
        (d.declarePair (w.scene.facts cls) c.pair).fault.map fun fault => { fault }) := by
    rw [← c.declare_eq]
    exact declareOn_makes hcls hn _
  have hown : w.scene.member? cls c.kind.word = none := Scene.member?_of_overrides hfree (mem_usedMembers _)
  obtain ⟨kind, label, text, htext⟩ := c
  have hword : label.word?.isSome = true := by rw [htext]; rfl
  -- Both ways come to the member of the root, which declares the pair silently.
  cases kind with
  | link =>
    have hpairs : w.scene.overrides cls pairMembers = false :=
      overrides_of_subset hfree (List.subset_cons_self _ _)
    have hlink : Makes caller rounds (silently (declareLink cls label)) w n _ :=
      (hmake.of_run (run_declareLink hpairs hword)).thenDone fun _ => Value.none
    cases h with
    | stated => exact hlink.of_run (run_callTypeMember _ hown _ _)
    | called => exact hlink
  | button =>
    have hpairs : w.scene.overrides cls pairMembers = false :=
      overrides_of_subset hfree (List.subset_cons_self _ _)
    have hbutton : Makes caller rounds (silently (declareButton cls label)) w n _ :=
      (hmake.of_run (run_declareButton hpairs hword)).thenDone fun _ => Value.none
    cases h with
    | stated => exact hbutton.of_run (run_callTypeMember _ hown _ _)
    | called => exact hbutton

/-- A link or a button is taken exactly if the pair is, and has made of the definition what
the pair does. -/
theorem Calls.ok_iff (h : c.Calls cls p) (hcls : w.scene.definitionOf? cls = some n)
    (hn : w.scene.definitions[n]? = some d) (hfree : w.scene.overrides cls (Prog.usedMembers c.kind.word) = false) :
    ((∃ v w', Prog.run caller rounds p w = (.ok v, w')) ↔ (d.declarePair (w.scene.facts cls) c.pair).fault = none) ∧
      ∀ v w', Prog.run caller rounds p w = (.ok v, w') →
        w'.scene = w.scene.setDefinition n (d.declarePair (w.scene.facts cls) c.pair).definition := by
  have hmakes : Prog.Makes caller rounds p w n _ := h.makes hcls hn hfree
  cases hfault : (d.declarePair (w.scene.facts cls) c.pair).fault with
  | none =>
    rw [hfault] at hmakes
    obtain ⟨v, j, hrun⟩ := hmakes.run_ok
    refine ⟨⟨fun _ => rfl, fun _ => ⟨v, _, hrun⟩⟩, fun v' w' hrun' => ?_⟩
    cases hrun.symm.trans hrun'
    rfl
  | some fault =>
    rw [hfault] at hmakes
    obtain ⟨j, hrun⟩ := hmakes.run_error
    have hno : ∀ v w', Prog.run caller rounds p w ≠ (.ok v, w') := fun v w' hrun' => by
      cases hrun.symm.trans hrun'
    exact ⟨⟨fun ⟨v, w', hrun'⟩ => absurd hrun' (hno v w'), fun h => (Option.some_ne_none _ h).elim⟩,
      fun v w' hrun' => absurd hrun' (hno v w')⟩

/-- The members of the root hide bindings. -/
theorem hides_word (s : Scene) (cls : ClassRef) (k : LabelKind) : s.hides cls k.word = true := by
  have hroot : PageType.isRootName k.word = true := by cases k <;> decide
  simp [Scene.hides, Scene.hasAttribute, hroot]

/-- A label of which nothing is left for a name is refused, since the name of the element is
that of the member then. -/
theorem Calls.refused_of_empty (h : c.Calls cls p) (hcls : w.scene.definitionOf? cls = some n)
    (hn : w.scene.definitions[n]? = some d) (hopen : d.locked = false)
    (hfree : w.scene.overrides cls (Prog.usedMembers c.kind.word) = false) (hname : c.name = "") :
    ∃ w', Prog.run caller rounds p w =
        (.error { fault := .reserved c.kind.word (w.scene.fullName cls) "element" }, w') ∧ w'.scene = w.scene := by
  have helement : c.pair.element = c.kind.word := pair_element_of_empty hname
  have hword : c.kind.word ≠ "" := by cases c.kind <;> decide
  have hcheck : Definition.checkName (w.scene.facts cls) d "element" (.ofText c.pair.element) =
      .error (.reserved c.kind.word (w.scene.fullName cls) "element") := by
    have hhides : (w.scene.facts cls).hides c.kind.word = true := hides_word _ _ _
    rw [Definition.checkName_ofText hopen, helement, if_neg hword, if_pos hhides]
    rfl
  obtain ⟨hfault, hsame⟩ := Definition.declarePair_of_refused (p := c.pair)
    (congrArg Declared.fault (Definition.declareNamed_of_error hcheck fun l => .element l c.pair.locator))
  have hmakes : Prog.Makes caller rounds p w n _ := h.makes hcls hn hfree
  rw [hfault, hsame] at hmakes
  obtain ⟨j, hrun⟩ := hmakes.run_error
  exact ⟨_, hrun, Scene.setDefinition_same hn⟩

/-! ## Rows -/

/-- Links and buttons that are declared on a type one after the other, all of them taken. -/
inductive Row (caller : Caller) (rounds : Nat) (cls : ClassRef) : World → List Labelling → World → Prop where
  | nil (w : World) : Row caller rounds cls w [] w
  | cons {w w' w'' : World} {c : Labelling} {cs : List Labelling} {p : Prog Value} {v : Value} : c.Calls cls p →
      Prog.run caller rounds p w = (.ok v, w') → Row caller rounds cls w' cs w'' → Row caller rounds cls w (c :: cs) w''

/-- A row of links and buttons makes of the definition what the row of their pairs does. -/
theorem Row.declaresAll {cs : List Labelling} {w' : World} (h : Row caller rounds cls w cs w')
    (hcls : w.scene.definitionOf? cls = some n) (hn : w.scene.definitions[n]? = some d)
    (hfree : ∀ c ∈ cs, w.scene.overrides cls (Prog.usedMembers c.kind.word) = false) :
    ∃ d', w'.scene = w.scene.setDefinition n d' ∧
      Definition.DeclaresAll (w.scene.facts cls) d (cs.map (·.pair)) d' := by
  induction h generalizing d with
  | nil w => exact ⟨d, (Scene.setDefinition_same hn).symm, .nil d⟩
  | @cons w w' w'' c cs p v hcall hrun _ ih =>
    obtain ⟨hiff, hmade⟩ := hcall.ok_iff hcls hn (hfree c List.mem_cons_self)
    have hscene := hmade v w' hrun
    -- the types are the same in the scene after a declaration, so the facts are too
    obtain ⟨d', hd', hrest⟩ := ih (d := (d.declarePair (w.scene.facts cls) c.pair).definition)
      (by rw [hscene]; exact hcls) (by rw [hscene]; exact Scene.setDefinition_getElem? hn _)
      fun c hc => by rw [hscene]; exact hfree c (List.mem_cons_of_mem _ hc)
    rw [hscene, Scene.setDefinition_setDefinition] at hd'
    rw [hscene] at hrest
    exact ⟨d', hd', .cons (hiff.mp ⟨v, w', hrun⟩) hrest⟩

/-- Something is left for a name of every label that is declared. -/
theorem named_of_declaresAll {facts : TypeFacts} {cs : List Labelling} {d' : Definition} (hd : d.WellFormed)
    (h : Definition.DeclaresAll facts d (cs.map (·.pair)) d') : ∀ c ∈ cs, c.name ≠ "" := by
  induction cs generalizing d with
  | nil => simp
  | cons c cs ih =>
    cases h with
    | cons hfault hrest =>
      intro c' hc'
      rcases List.mem_cons.mp hc' with rfl | hc'
      · exact c'.pair_action ▸ (hd.declarePair_fault_eq_none_iff.mp hfault).2.2.1.named
      · exact ih (hd.afterPair hfault) hrest c' hc'

/-- What a row of labels binds the names that it makes to: the action of the last label for
the name, if there is one, and otherwise the element of the only one. -/
theorem binds_names {facts : TypeFacts} {cs : List Labelling} {d' : Definition} (hd : d.WellFormed)
    (h : Definition.DeclaresAll facts d (cs.map (·.pair)) d') {x : String}
    (hx : ∃ c ∈ cs, x = c.name ∨ x = c.elementName) :
    (∃ c, (cs.filter fun c => c.name = x).getLast? = some c ∧ d'.slot? [.text x] = some c.pair.click) ∨
      ((∀ c ∈ cs, c.name ≠ x) ∧
        ∃ c, (cs.filter fun c => c.elementName = x) = [c] ∧ d'.slot? [.text x] = some c.pair.accessor) := by
  have hbinds := h.binds hd (by simpa using fun c _ => c.pair_names)
  have hnamed := named_of_declaresAll hd h
  have haction : (cs.map (·.pair)).filter (fun q => q.action = x) = (cs.filter fun c => c.name = x).map (·.pair) := by
    rw [List.filter_map]
    refine congrArg _ (List.filter_congr fun c _ => ?_)
    simp [pair_action]
  have helement : (cs.map (·.pair)).filter (fun q => q.element = x) =
      (cs.filter fun c => c.elementName = x).map (·.pair) := by
    rw [List.filter_map]
    refine congrArg _ (List.filter_congr fun c hc => ?_)
    simp [pair_element (hnamed c hc)]
  cases hlast : (cs.filter fun c => c.name = x).getLast? with
  | some c =>
    refine .inl ⟨c, rfl, hbinds.last x c.pair ?_⟩
    rw [haction, List.getLast?_map, hlast]
    rfl
  | none =>
    have hno : ∀ c ∈ cs, c.name ≠ x := by
      simpa using List.filter_eq_nil_iff.mp (List.getLast?_eq_none_iff.mp hlast)
    obtain ⟨c, hc, hname | hname⟩ := hx
    · exact absurd hname.symm (hno c hc)
    · obtain ⟨q, hq, hslot⟩ := hbinds.only x
        (by simpa [pair_action] using hno)
        ⟨c.pair, List.mem_map_of_mem hc, by rw [pair_element (hnamed c hc), hname]⟩
      rw [helement] at hq
      obtain ⟨c', hc', rfl⟩ := List.map_eq_singleton_iff.mp hq
      exact .inr ⟨hno, c', hc', hslot⟩

end Labelling

/-! ## What links and buttons bind -/

/-- **What links and buttons bind**: a link or a button on a type that is being declared is
taken exactly if something is left of the label for a name, neither this name nor the name
of the element is hidden, and the latter is not bound.  If it is taken, the definition
changes by exactly the two names: the element comes at the end, and the action replaces
what had its name in its place or comes after the element.  If nothing is left for a name
it fails and changes nothing.  After a row of links and buttons that are taken, each name
that they make is bound to the action of the last label for this name, if there is one,
and otherwise to the element of the only label that makes the name. -/
theorem labels_bindNames {w : World} (hw : w.Reached) {caller : Caller} {rounds : Nat} {cls : ClassRef} {n : Nat}
    {d : Definition} (hcls : w.scene.definitionOf? cls = some n) (hn : w.scene.definitions[n]? = some d)
    (hopen : d.locked = false) :
    (∀ (c : Labelling) (p : Prog Value), c.Calls cls p →
      w.scene.overrides cls (Prog.usedMembers c.kind.word) = false →
      ((∃ v w', Prog.run caller rounds p w = (.ok v, w')) ↔
        c.name ≠ "" ∧ w.scene.hides cls c.name = false ∧ w.scene.hides cls c.elementName = false ∧
          [.text c.elementName] ∉ d.keys) ∧
      (∀ v w', Prog.run caller rounds p w = (.ok v, w') →
        c.pair.action = c.name ∧ c.pair.element = c.elementName ∧
          ∃ d', w'.scene = w.scene.setDefinition n d' ∧ c.pair.Declared d d') ∧
      (c.name = "" → ∃ w', Prog.run caller rounds p w =
        (.error { fault := .reserved c.kind.word (w.scene.fullName cls) "element" }, w') ∧ w'.scene = w.scene)) ∧
    ∀ (cs : List Labelling) (w' : World), Labelling.Row caller rounds cls w cs w' →
      (∀ c ∈ cs, w.scene.overrides cls (Prog.usedMembers c.kind.word) = false) →
      ∃ d', w'.scene = w.scene.setDefinition n d' ∧ ∀ x, (∃ c ∈ cs, x = c.name ∨ x = c.elementName) →
        (∃ c, (cs.filter fun c => c.name = x).getLast? = some c ∧ d'.slot? [.text x] = some c.pair.click) ∨
          ((∀ c ∈ cs, c.name ≠ x) ∧
            ∃ c, (cs.filter fun c => c.elementName = x) = [c] ∧ d'.slot? [.text x] = some c.pair.accessor) := by
  have hd := hw.wellFormed hn
  constructor
  · intro c p hcall hfree
    obtain ⟨hiff, hmade⟩ : ((∃ v w', Prog.run caller rounds p w = (.ok v, w')) ↔ _) ∧ _ := hcall.ok_iff hcls hn hfree
    -- a label that leaves no name is refused; all others are named as the pair is
    have hnamed : (d.declarePair (w.scene.facts cls) c.pair).fault = none → c.name ≠ "" := fun hfault =>
      c.pair_action ▸ (hd.declarePair_fault_eq_none_iff.mp hfault).2.2.1.named
    refine ⟨hiff.trans ⟨fun hfault => ?_, fun ⟨hname, haction, helement, hk⟩ => ?_⟩, fun v w' hrun => ?_,
      hcall.refused_of_empty hcls hn hopen hfree⟩
    · have hname := hnamed hfault
      obtain ⟨-, helement, haction, hk⟩ := hd.declarePair_fault_eq_none_iff.mp hfault
      rw [Labelling.pair_element hname] at helement hk
      rw [Labelling.pair_action] at haction
      exact ⟨hname, (Scene.nameable_iff.mp haction).2, (Scene.nameable_iff.mp helement).2, hk⟩
    · rw [hd.declarePair_fault_eq_none_iff, Labelling.pair_element hname, Labelling.pair_action]
      exact ⟨hopen, Scene.nameable_iff.mpr ⟨c.elementName_ne, helement⟩, Scene.nameable_iff.mpr ⟨hname, haction⟩, hk⟩
    · have hfault := hiff.mp ⟨v, w', hrun⟩
      exact ⟨c.pair_action, Labelling.pair_element (hnamed hfault), _, hmade v w' hrun,
        hd.declarePair_declared c.pair_names hfault⟩
  · intro cs w' hrow hfree
    obtain ⟨d', hscene, hall⟩ := hrow.declaresAll hcls hn hfree
    exact ⟨d', hscene, fun x hx => Labelling.binds_names hd hall hx⟩

/-! ## A type with some labels -/

/-- The type that is being declared. -/
def labelledPage : ClassRef := ⟨1, "Page"⟩

/-- A world with a function that does nothing, and a type with some members that is being
declared. -/
def labelledWorld (members : List (String × Value)) : World :=
  ({} : Setting).world.after
    (.op (.addFunction (.request (.const .none))) :: addingType 1 "Page" [rootType] members)

/-- A link. -/
def linkTo (text : String) : Labelling := ⟨.link, .text text, text, rfl⟩

theorem labelledWorld_reached (members : List (String × Value)) : (labelledWorld members).Reached := by
  refine ⟨{}, _, fun n x hx => ?_, rfl⟩
  simp only [addingType, List.mem_cons, List.not_mem_nil, or_false] at hx
  rcases hx with rfl | rfl | rfl <;> simp [Deed.tableWritten?]

/-- The definition of the type without members. -/
def labelledDefinition : Definition := { pageName := .ofText "Page" }

/-- What a hook states for a link. -/
def statedLink (text : String) : Prog Value := Prog.statement labelledPage (linkTo text).statement

/-- The world after two links, where the name of the element of the first is made for the action
of the second. -/
def twiceLabelledWorld : World :=
  (Prog.run (callAt 1 1) 1 (statedLink "Help link")
    (Prog.run (callAt 1 1) 1 (statedLink "Help") (labelledWorld [])).2).2

/-- The first link is taken, and after the second one the name that both make is bound to the
action of the second. -/
theorem labelledWorld_binds :
    ((linkTo "Help").name = "help" ∧ (linkTo "Help").elementName = (linkTo "Help link").name) ∧
    (∃ v w', Prog.run (callAt 1 1) 1 (statedLink "Help") (labelledWorld []) = (.ok v, w')) ∧
    ∃ d', twiceLabelledWorld.scene = (labelledWorld []).scene.setDefinition 1 d' ∧
      d'.slot? [.text "help_link"] = some (linkTo "Help link").pair.click := by
  have hfree : (labelledWorld []).scene.overrides labelledPage (Prog.usedMembers "link") = false := by decide +kernel
  have hnames : (linkTo "Help").name = "help" ∧ (linkTo "Help link").name = "help_link" := by decide +kernel
  have helement : (linkTo "Help").elementName = "help_link" := by decide +kernel
  obtain ⟨hsingle, hrow⟩ := @labels_bindNames _ (labelledWorld_reached []) (callAt 1 1) 1 labelledPage 1
    labelledDefinition rfl rfl rfl
  refine ⟨⟨hnames.1, helement.trans hnames.2.symm⟩, ?_, ?_⟩
  · refine (hsingle (linkTo "Help") _ .stated hfree).1.mpr ?_
    rw [hnames.1, helement]
    decide +kernel
  · have hlinks : Labelling.Row (callAt 1 1) 1 labelledPage (labelledWorld []) [linkTo "Help", linkTo "Help link"]
        twiceLabelledWorld :=
      .cons (v := .none) .stated (Prod.ext rfl rfl) (.cons (v := .none) .stated (Prod.ext rfl rfl) (.nil _))
    obtain ⟨d', hscene, hslots⟩ := hrow _ _ hlinks (by simp [linkTo, LabelKind.word, hfree])
    refine ⟨d', hscene, ?_⟩
    rcases hslots "help_link" ⟨linkTo "Help link", by simp, .inl hnames.2.symm⟩ with ⟨c, hc, hslot⟩ | ⟨hno, -⟩
    · have hfilter : ([linkTo "Help", linkTo "Help link"].filter fun c => c.name = "help_link") =
          [linkTo "Help link"] := by
        simp [hnames]
      rw [hfilter] at hc
      cases hc
      exact hslot
    · exact absurd hnames.2 (hno _ (by simp))

/-- A type with an element member of its own: a link is taken and declares its action only,
although the name of its element is neither hidden nor bound. -/
theorem labelledWorld_skipsElement :
    let w := labelledWorld [("element", .method "element" 0)]
    w.Reached ∧ ((linkTo "Help").name = "help" ∧ (linkTo "Help").elementName = "help_link") ∧
      (w.scene.hides labelledPage "help" = false ∧ w.scene.hides labelledPage "help_link" = false ∧
        (w.scene.definition? labelledPage).map (fun d => (d.keys, d.locked)) = some ([], false)) ∧
      ∃ w', Prog.run (callAt 1 1) 1 (Prog.statement labelledPage (linkTo "Help").statement) w = (.ok .none, w') ∧
        (w'.scene.definition? labelledPage).map (·.keys) = some [[.text "help"]] := by
  refine ⟨labelledWorld_reached _, by decide +kernel, by decide +kernel, _, rfl, by decide +kernel⟩

end PageObjects
