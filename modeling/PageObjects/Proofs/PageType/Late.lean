import PageObjects.Proofs.PageType.Finished
import PageObjects.Proofs.PageType.Stating

/-!
# Declarations that come too late

A type that is finished takes no more declarations, whichever way they are made: by
its members, by what turns a function into a binding, or by its definition.  Each is
refused before anything else is looked at, and leaves the world as it is.

Main definitions:

- `Prog.TypeCall`, `Prog.DefinitionCall`: the members that declare something, with
  what they are called with.
- `Prog.LateDeclaration`: the ways to declare something on a type.
- `Prog.usedMembers`: the members that a declaration makes use of.
- `Prog.Refused`: a program ends with the fault that a definition is locked.

Main results:

- Theorem `Definition.declare_refused`: a locked definition refuses all declarations.
- Theorem `Prog.LateDeclaration.refused`: a finished type refuses all declarations.
-/

namespace PageObjects

/-- The label of a link or a button is a word. -/
def Declaration.Worded : Declaration → Prop
  | .link label | .button label => label.value.word?.isSome = true
  | _ => True

namespace Definition

variable {d : Definition}

/-- What a declaration comes to that is refused since the definition is locked. -/
def Refuses (d : Definition) (r : Declared) : Prop :=
  ∃ what, r = { definition := d, fault := some (.locked d.pageName.text what) }

/-- A locked definition refuses an entry. -/
theorem declareEntry_refused (hd : d.locked = true) (e : Entry) : d.Refuses (d.declareEntry e) :=
  ⟨e.what, by rw [declareEntry, enter_locked hd]⟩

/-- A locked definition refuses a name before it looks at it. -/
theorem declareNamed_refused (hd : d.locked = true) (facts : TypeFacts) (what : String) (name : GivenName)
    (entry : Label → Entry) : d.Refuses (d.declareNamed facts what name entry) :=
  ⟨what ++ " '" ++ name.label.text ++ "'", by simp [declareNamed, checkName, ensureOpen, hd]⟩

/-- A locked definition refuses a link or a button with the element, which comes first. -/
theorem declarePair_refused (hd : d.locked = true) (facts : TypeFacts) (p : Pair) :
    d.Refuses (d.declarePair facts p) := by
  obtain ⟨what, helement⟩ :=
    declareNamed_refused hd facts "element" (.ofText p.element) fun n => .element n p.locator
  refine ⟨what, ?_⟩
  rw [declarePair, declareElement, helement]
  exact Declared.andThen_of_fault rfl _

/-- A locked definition refuses all declarations, as far as labels are words. -/
theorem declare_refused (hd : d.locked = true) (facts : TypeFacts) {x : Declaration} (hx : x.Worded) :
    d.Refuses (d.declare facts x) := by
  cases x with
  | address url => exact declareEntry_refused hd _
  | expectElement name timeout => exact declareEntry_refused hd _
  | expectTitle title => exact declareEntry_refused hd _
  | element name locator => exact declareNamed_refused hd facts "element" name fun n => .element n locator
  | action name body => exact declareNamed_refused hd facts "action" name fun n => .action n body
  | link label =>
    obtain ⟨s, hs⟩ := Option.isSome_iff_exists.mp hx
    simp only [declare, hs]
    exact declarePair_refused hd _ _
  | button label =>
    obtain ⟨s, hs⟩ := Option.isSome_iff_exists.mp hx
    simp only [declare, hs]
    exact declarePair_refused hd _ _

end Definition

namespace Prog

variable {caller : Caller} {rounds : Nat} {α β : Type} {w : World} {cls : ClassRef} {n : Nat} {d : Definition}

/-! ## Refusals -/

/-- A program ends with the fault that a definition is locked, and leaves the world as
it is. -/
def Refused (caller : Caller) (rounds : Nat) (p : Prog α) (w : World) (d : Definition) : Prop :=
  ∃ what, run caller rounds p w = (.error { fault := .locked d.pageName.text what }, w)

namespace Refused

/-- What is refused is not gone on with. -/
theorem thenNot {p : Prog α} (h : Refused caller rounds p w d) (k : α → Prog β) :
    Refused caller rounds (p.bind k) w d := by
  obtain ⟨what, hrun⟩ := h
  exact ⟨what, by rw [run_bind, hrun, andThen_error]⟩

/-- What runs as a program that is refused is refused, also if it is run by a call. -/
theorem of_call {caller' : Caller} {p q : Prog α} (h : Refused caller' rounds p w d)
    (hrun : run caller rounds q w = run caller' rounds p w) : Refused caller rounds q w d := by
  obtain ⟨what, hp⟩ := h
  exact ⟨what, hrun.trans hp⟩

/-- What runs as a program that is refused is refused. -/
theorem of_run {p q : Prog α} (h : Refused caller rounds p w d)
    (hrun : run caller rounds q w = run caller rounds p w) : Refused caller rounds q w d :=
  of_call h hrun

end Refused

/-- A change that the definition refuses leaves the world as it is. -/
theorem declaring_refused (hn : w.scene.definitions[n]? = some d) {o : Op Outcome} {f : Definition → Declared}
    (ho : o.run w = w.change n f) (hf : d.Refuses (f d)) : Refused caller rounds (declaring o) w d := by
  obtain ⟨what, hf⟩ := hf
  refine ⟨what, ?_⟩
  have hchange : w.change n f = (([], some (.locked d.pageName.text what)), w) := by
    simp [World.change, hn, hf, Scene.setDefinition_same hn]
  rw [declaring, bind_eq, run_op_bind, ho, hchange]
  rfl

section

variable (hcls : w.scene.definitionOf? cls = some n) (hn : w.scene.definitions[n]? = some d)
  (hd : d.locked = true)

include hcls hn hd

/-- A locked type refuses a declaration. -/
theorem declareOn_refused {x : Declaration} (hx : x.Worded) :
    Refused caller rounds (declareOn cls x) w d := by
  have hrefused : Refused caller rounds (declaring (.declare n (w.scene.facts cls) x)) w d :=
    declaring_refused hn rfl (Definition.declare_refused hd _ hx)
  refine hrefused.of_run ?_
  simp only [declareOn, definitionNumber, bind_eq, run_bind_eq, run_view, andThen_ok, hcls, run_ofOption_some]

/-- A locked type refuses a binding, if it checks names as the root does. -/
theorem declareBinding_refused (hcheck : w.scene.overrides cls [checkingMember] = false) (kind : BindingKind)
    (name : String) (body : Value) : Refused caller rounds (declareBinding cls kind (.text name) body) w d := by
  have hworded : (bindingDeclaration kind (.ofText name) body).Worded := by cases kind <;> trivial
  refine (declareOn_refused hcls hn hd hworded).of_run ?_
  rw [declareBinding, bind_eq, run_view_bind, hcheck]
  rfl

/-- A locked type refuses a binding with a body. -/
theorem declareOrDecorate_refused (hcheck : w.scene.overrides cls [checkingMember] = false) (kind : BindingKind)
    (name : String) {body : Value} (hbody : body.isNone = false) :
    Refused caller rounds (declareOrDecorate cls kind (.text name) body) w d := by
  rw [declareOrDecorate, if_neg (by simp [hbody])]
  exact (declareBinding_refused hcls hn hd hcheck kind name body).thenNot _

end

/-! ## Ways to declare -/

/-- The members of a type that declare something, with the texts that they are called
with, and what stands for an accessor or an action. -/
inductive TypeCall : String → List Value → Prop where
  | address (url : String) : TypeCall "page_url" [.text url]
  | expectElement (name : String) : TypeCall "expected_element" [.text name]
  | expectElementWithin (name : String) (timeout : Value) :
      TypeCall "expected_element" [.text name, timeout]
  | expectTitle (title : String) : TypeCall "expected_title" [.text title]
  | binding (member name : String) (body : Value) : member ∈ ["element", "value", "action"] →
      body.isNone = false → TypeCall member [.text name, body]
  | link (label : String) : TypeCall "link" [.text label]
  | button (label : String) : TypeCall "button" [.text label]

/-- The members of a definition that declare something. -/
inductive DefinitionCall : String → List Value → Prop where
  | address (url : String) : DefinitionCall "set_url" [.text url]
  | expectElement (name : String) (timeout : Value) :
      DefinitionCall "set_expected_element" [.text name, timeout]
  | expectTitle (title : String) : DefinitionCall "set_expected_title" [.text title]
  | element (name : String) (locator : Value) : DefinitionCall "add_element" [.text name, locator]
  | action (name : String) (body : Value) : DefinitionCall "add_action" [.text name, body]

/-- The ways to declare something on a type: by a member of the type, or by what turns a
function into a binding.  The text is the member that does it. -/
inductive LateDeclaration (cls : ClassRef) : String → Prog Value → Prop where
  | onType (member : String) (args : List Value) : TypeCall member args →
      LateDeclaration cls member (callMember (.pageType cls) member args)
  | decorated (kind : BindingKind) (name : String) (f : Value) : f.isNone = false →
      LateDeclaration cls (Value.bindingWord kind) (callValue (.decorator cls kind (.text name)) [f] [])

/-- The members of the type that a member which declares something makes use of. -/
def usedMembers (member : String) : List String :=
  if member ∈ ["element", "value", "action"] then [member, checkingMember]
  else if member ∈ ["link", "button"] then member :: pairMembers
  else [member]

/-- A member that declares something is the one of the root, if a type does not take it over. -/
theorem typeAttribute?_root {s : Scene} {member : String} (hfree : s.member? cls member = none)
    {args : List Value} (h : TypeCall member args) :
    s.typeAttribute? cls member =
      some (.member (.pageType cls) (if member = "value" then "element" else member)) := by
  have hroot : s.typePart? cls member = none → PageType.isRootName member = true →
      s.typeAttribute? cls member = some (s.rootAttribute (.pageType cls) cls member) := by
    intro hpart hname
    rw [Scene.typeAttribute?, hpart, hfree]
    simp only [hname, if_true]
  cases h with
  | address url => exact hroot rfl (by decide)
  | expectElement name => exact hroot rfl (by decide)
  | expectElementWithin name timeout => exact hroot rfl (by decide)
  | expectTitle title => exact hroot rfl (by decide)
  | binding member name body hm =>
    simp only [List.mem_cons, List.not_mem_nil, or_false] at hm
    rcases hm with rfl | rfl | rfl <;> exact hroot rfl (by decide)
  | link label => exact hroot rfl (by decide)
  | button label => exact hroot rfl (by decide)

/-- Every member makes use of itself. -/
theorem mem_usedMembers (member : String) : member ∈ usedMembers member := by
  unfold usedMembers
  split
  · exact List.mem_cons_self
  · split <;> exact List.mem_cons_self

/-- A part of what is not taken over is not taken over. -/
theorem overrides_of_subset {s : Scene} {names names' : List String} (h : s.overrides cls names = false)
    (hsub : names' ⊆ names) : s.overrides cls names' = false := by
  simp only [Scene.overrides, List.any_eq_false] at h ⊢
  exact fun m hm => h m (hsub hm)

/-- A call of a member of a finished type that declares something is refused. -/
theorem TypeCall.refused {rounds depth : Nat} (hfinished : w.scene.Finished cls n d)
    {member : String} (hfree : w.scene.overrides cls (usedMembers member) = false) {args : List Value}
    (h : TypeCall member args) :
    Refused (callAt rounds (depth + 1)) rounds (callMember (.pageType cls) member args) w d := by
  have hfound : run (callAt rounds (depth + 1)) rounds (attributeOf member (.pageType cls)) w =
      (.ok (.member (.pageType cls) (if member = "value" then "element" else member)), w) := by
    rw [show attributeOf member (.pageType cls) =
      (view fun s => s.typeAttribute? cls member).bind (ofOption .noSuchName) from rfl, run_view_bind,
      typeAttribute?_root (Scene.member?_of_overrides hfree (mem_usedMembers member)) h]
    rfl
  have hcall := run_callMember hfound (fun _ _ => rfl) args
  have hcls := hfinished.definitionOf?
  have hn := hfinished.definition
  have hd := hfinished.locked
  have hplain : ∀ x : Declaration, x.Worded →
      Refused (callAt rounds depth) rounds (silently (declareOn cls x)) w d := fun x hx =>
    (declareOn_refused hcls hn hd hx).thenNot _
  cases h with
  | address url => exact (hplain (.address (.text url)) trivial).of_call hcall
  | expectElement name => exact (hplain (.expectElement (.text name) _) trivial).of_call hcall
  | expectElementWithin name timeout => exact (hplain (.expectElement (.text name) _) trivial).of_call hcall
  | expectTitle title => exact (hplain (.expectTitle (.text title)) trivial).of_call hcall
  | binding member name body hm hbody =>
    have hcheck : w.scene.overrides cls [checkingMember] = false :=
      overrides_of_subset hfree (by rw [usedMembers, if_pos hm]; simp)
    have hrefused : ∀ kind, Refused (callAt rounds depth) rounds
        (declareOrDecorate cls kind (.text name) body) w d := fun kind =>
      declareOrDecorate_refused hcls hn hd hcheck kind name hbody
    simp only [List.mem_cons, List.not_mem_nil, or_false] at hm
    rcases hm with rfl | rfl | rfl
    · exact (hrefused .element).of_call hcall
    · exact (hrefused .element).of_call hcall
    · exact (hrefused .action).of_call hcall
  | link label =>
    have hlink : Refused (callAt rounds depth) rounds (declareLink cls (.text label)) w d :=
      (declareOn_refused (x := .link (.ofText label)) hcls hn hd rfl).of_run
        (run_declareLink (overrides_of_subset hfree (List.subset_cons_self _ _)) rfl)
    exact Refused.of_call (p := silently (declareLink cls (.text label))) (hlink.thenNot _) hcall
  | button label =>
    have hbutton : Refused (callAt rounds depth) rounds (declareButton cls (.text label)) w d :=
      (declareOn_refused (x := .button (.ofText label)) hcls hn hd rfl).of_run
        (run_declareButton (overrides_of_subset hfree (List.subset_cons_self _ _)) rfl)
    exact Refused.of_call (p := silently (declareButton cls (.text label))) (hbutton.thenNot _) hcall

/-- A call of a member of a locked definition that declares something is refused. -/
theorem DefinitionCall.refused {rounds depth : Nat} (hn : w.scene.definitions[n]? = some d) (hd : d.locked = true)
    {member : String} {args : List Value} (h : DefinitionCall member args) :
    Refused (callAt rounds (depth + 1)) rounds (callMember (.definition n) member args) w d := by
  have hcall : ∀ m ∈ ["set_url", "set_expected_element", "set_expected_title", "add_element", "add_action"],
      run (callAt rounds (depth + 1)) rounds (callMember (.definition n) m args) w =
        run (callAt rounds depth) rounds (callDefinitionMember n m args []) w := by
    intro m hm
    have hfound : run (callAt rounds (depth + 1)) rounds (attributeOf m (.definition n)) w =
        (.ok (.member (.definition n) m), w) := by
      simp only [List.mem_cons, List.not_mem_nil, or_false] at hm
      have hattribute : w.scene.definitionAttribute? n m = some (.member (.definition n) m) := by
        rw [Scene.definitionAttribute?, hn, Option.bind_some]
        rcases hm with rfl | rfl | rfl | rfl | rfl <;> rfl
      rw [show attributeOf m (.definition n) = definitionAttribute n m from rfl, definitionAttribute]
      rw [if_neg (by rcases hm with rfl | rfl | rfl | rfl | rfl <;> decide),
        if_neg (by rcases hm with rfl | rfl | rfl | rfl | rfl <;> decide), bind_eq, run_view_bind, hattribute]
      rfl
    exact run_callMember hfound (fun _ _ => rfl) args
  have hentry : ∀ e, Refused (callAt rounds depth) rounds (declaring (.enter n e)) w d := fun e =>
    declaring_refused hn rfl (Definition.declareEntry_refused hd e)
  have hbinding : ∀ kind name payload,
      Refused (callAt rounds depth) rounds (addBinding n kind (.text name) payload) w d := by
    intro kind name payload
    have hrefuses := Definition.declareEntry_refused hd (bindingEntry kind (.ofText name) payload)
    exact (declaring_refused hn rfl hrefuses).thenNot _
  cases h with
  | address url =>
    refine ((hentry (.address (.text url))).thenNot fun _ => .done Value.none).of_call ((hcall _ (by decide)).trans ?_)
    rw [callDefinitionMember, bind_eq, run_view_bind, hn]
    rfl
  | expectElement name timeout =>
    refine ((hentry (.expectElement (.text name) timeout)).thenNot fun _ => .done Value.none).of_call
      ((hcall _ (by decide)).trans ?_)
    rw [callDefinitionMember, bind_eq, run_view_bind, hn]
    rfl
  | expectTitle title =>
    refine ((hentry (.expectTitle (.text title))).thenNot fun _ => .done Value.none).of_call
      ((hcall _ (by decide)).trans ?_)
    rw [callDefinitionMember, bind_eq, run_view_bind, hn]
    rfl
  | element name locator =>
    refine (hbinding .element name locator).of_call ((hcall _ (by decide)).trans ?_)
    rw [callDefinitionMember, bind_eq, run_view_bind, hn]
    rfl
  | action name body =>
    refine (hbinding .action name body).of_call ((hcall _ (by decide)).trans ?_)
    rw [callDefinitionMember, bind_eq, run_view_bind, hn]
    rfl

/-- What is finished takes no more declarations. -/
theorem LateDeclaration.refused {rounds depth : Nat} (hfinished : w.scene.Finished cls n d) {member : String}
    (hfree : w.scene.overrides cls (usedMembers member) = false) {p : Prog Value}
    (h : LateDeclaration cls member p) : Refused (callAt rounds (depth + 1)) rounds p w d := by
  cases h with
  | onType member args hcall => exact hcall.refused hfinished hfree
  | decorated kind name f hf =>
    have hcheck : w.scene.overrides cls [checkingMember] = false :=
      overrides_of_subset hfree (by cases kind <;> decide)
    have hbinding : Refused (callAt rounds depth) rounds
        (declareOrDecorate cls (kindDeclaredBy (Value.bindingWord kind)) (.text name) f) w d :=
      declareOrDecorate_refused hfinished.definitionOf? hfinished.definition hfinished.locked hcheck _ name hf
    have hword : w.scene.member? cls (Value.bindingWord kind) = none :=
      Scene.member?_of_overrides hfree (mem_usedMembers _)
    have hdeclare : Refused (callAt rounds depth) rounds
        (declareBy cls (Value.bindingWord kind) (.text name) f) w d :=
      hbinding.of_run (run_callTypeMember _ hword _ _)
    exact (hdeclare.thenNot fun _ => .done f).of_call (run_callValue (fun _ _ => rfl) _ _ _)

end Prog

end PageObjects
