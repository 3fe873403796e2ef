import PageObjects.Proofs.PageType.Labels

/-!
# Declarations that fail

A declaration checks all there is to check before it changes the definition, so one that
fails leaves the scene as it was.  The exception are links and buttons, which check the
name of the action when the element has been added already: if only this name is hidden,
they fail and leave the element behind.  What shows a name that is no text is a program
of its own, which may do anything before the declaration begins.

Main definitions:

- `Prog.Undone`: a program leaves the scene as it was if it fails.
- `Declares`: the ways to declare something on a type.
- `AfterNames`: a world after names have been shown.
- `Labelling.LeavesElement`: when a link or a button leaves its element behind.

Main results:

- Theorem `Prog.declareOn_undone`: a single declaration on a type is undone.
- Theorem `declarations_undone`: what a declaration that fails leaves.
-/

namespace PageObjects

/-! ## Declarations on a definition -/

/-- What declares one thing: all but links and buttons. -/
def Declaration.Single : Declaration → Prop
  | .link _ | .button _ => False
  | _ => True

/-- A single declaration that is refused changes nothing. -/
theorem Definition.declare_undone {facts : TypeFacts} {d : Definition} {x : Declaration} (hx : x.Single) {fault : Fault}
    (h : (d.declare facts x).fault = some fault) : (d.declare facts x).definition = d := by
  cases x with
  | address url => exact declareEntry_of_fault h
  | expectElement name timeout => exact declareEntry_of_fault h
  | expectTitle title => exact declareEntry_of_fault h
  | element name locator => exact declareNamed_of_fault h
  | action name body => exact declareNamed_of_fault h
  | link => exact hx.elim
  | button => exact hx.elim

/-! ## Programs that are undone -/

namespace Prog

variable {caller : Caller} {rounds : Nat} {α β : Type} {w w' : World} {cls : ClassRef} {r : Raised}

/-- A program leaves the scene as it was if it fails. -/
def Undone (caller : Caller) (rounds : Nat) (p : Prog α) (w : World) : Prop :=
  ∀ r w', run caller rounds p w = (.error r, w') → w'.scene = w.scene

namespace Undone

/-- What fails at once has done nothing. -/
theorem of_error {p : Prog α} (h : run caller rounds p w = (.error r, w)) : Undone caller rounds p w := by
  intro r' w' hrun
  cases h.symm.trans hrun
  rfl

/-- What is answered in the end does not matter. -/
theorem thenDone {p : Prog α} (h : Undone caller rounds p w) (f : α → β) :
    Undone caller rounds (p.bind fun a => .done (f a)) w := by
  intro r w' hrun
  rw [run_bind] at hrun
  rcases hp : run caller rounds p w with ⟨_ | a, w₁⟩
  · rw [hp] at hrun
    cases hrun
    exact h _ _ hp
  · rw [hp] at hrun
    cases hrun

end Undone

/-- A single declaration on a type is undone, whether the type has a definition or not. -/
theorem declareOn_undone {x : Declaration} (hx : x.Single) (w : World) :
    Undone caller rounds (declareOn cls x) w := by
  have hrun : run caller rounds (declareOn cls x) w =
      andThen (run caller rounds (ofOption .unset (w.scene.definitionOf? cls)) w) fun n =>
        run caller rounds (declaring (.declare n (w.scene.facts cls) x)) := by
    simp only [declareOn, definitionNumber, bind_eq, run_bind_eq, run_view, andThen_ok]
  cases hcls : w.scene.definitionOf? cls with
  | none =>
    rw [hcls, run_ofOption_none, andThen_error] at hrun
    exact .of_error hrun
  | some n =>
    rw [hcls, run_ofOption_some, andThen_ok] at hrun
    cases hn : w.scene.definitions[n]? with
    | none =>
      have hunset : run caller rounds (declaring (.declare n (w.scene.facts cls) x)) w =
          (.error { fault := .unset }, w) := by
        simp [declaring, bind_eq, Op.run, World.change, hn, logAll]
      exact .of_error (hrun.trans hunset)
    | some d =>
      intro r w' herror
      obtain ⟨answer, j, hmade, hended⟩ : Makes caller rounds (declareOn cls x) w n _ := declareOn_makes hcls hn x
      cases hmade.symm.trans herror
      cases hfault : (d.declare (w.scene.facts cls) x).fault with
      | none =>
        rw [Definition.make, hfault] at hended
        cases hended
      | some fault =>
        simp only [Definition.make, Definition.declare_undone hx hfault]
        exact Scene.setDefinition_same hn

/-- A binding that fails leaves the scene in which its name was shown. -/
theorem declareOrDecorate_undone (hcheck : w.scene.overrides cls [checkingMember] = false) {kind : BindingKind}
    {name body : Value} (hrun : run caller rounds (declareOrDecorate cls kind name body) w = (.error r, w')) :
    ∃ answer w₁, run caller rounds (givenName name) w = (answer, w₁) ∧ w'.scene = w₁.scene := by
  have hbinding : run caller rounds (declareBinding cls kind name body) w =
      run caller rounds ((givenName name).bind fun g => declareOn cls (bindingDeclaration kind g body)) w := by
    rw [declareBinding, bind_eq, run_view_bind, hcheck]
    rfl
  unfold declareOrDecorate at hrun
  split at hrun
  · cases hrun
  · rw [bind_eq, run_bind, hbinding, run_bind] at hrun
    rcases hname : run caller rounds (givenName name) w with ⟨_ | given, w₁⟩
    · rw [hname] at hrun
      cases hrun
      exact ⟨_, _, rfl, rfl⟩
    · refine ⟨_, w₁, rfl, ?_⟩
      rw [hname, andThen_ok] at hrun
      have hsingle : (bindingDeclaration kind given body).Single := by cases kind <;> trivial
      have hundone : Undone caller rounds (declareOn cls (bindingDeclaration kind given body)) w₁ :=
        declareOn_undone hsingle w₁
      exact hundone.thenDone (fun _ => body) r w' (by rw [run_bind]; exact hrun)

end Prog

/-! ## Ways to declare -/

/-- What parameters are bound to was given. -/
theorem mem_of_bindArguments {params : List (String × Bool)} {args : List Value} {named : List (String × Value)}
    {values : List (Option Value)} (h : bindArguments params args named = some values) {v : Value}
    (hv : some v ∈ values) : v ∈ args ++ named.map (·.2) := by
  fun_induction bindArguments params args named generalizing values with
  | case1 => cases h; cases hv
  | case2 => cases h
  | case3 => cases h
  | case4 name required params a args named _ ih =>
    obtain ⟨rest, hrest, rfl⟩ := Option.map_eq_some_iff.mp h
    rcases List.mem_cons.mp hv with hva | hv
    · cases hva
      exact List.mem_cons_self
    · exact List.mem_cons_of_mem _ (ih hrest hv)
  | case5 name required params named u hfound ih =>
    obtain ⟨rest, hrest, rfl⟩ := Option.map_eq_some_iff.mp h
    rw [List.nil_append]
    rcases List.mem_cons.mp hv with hvu | hv
    · cases hvu
      obtain ⟨before, after, hnamed, -⟩ := List.lookup_eq_some_iff.mp hfound
      exact List.mem_map.mpr ⟨(name, v), by simp [hnamed], rfl⟩
    · obtain ⟨e, he, rfl⟩ := List.mem_map.mp (ih hrest hv)
      exact List.mem_map.mpr ⟨e, List.mem_of_mem_filter he, rfl⟩
  | case6 => cases h
  | case7 name required params named _ _ ih =>
    obtain ⟨rest, hrest, rfl⟩ := Option.map_eq_some_iff.mp h
    rcases List.mem_cons.mp hv with hvu | hv
    · cases hvu
    · exact ih hrest hv

/-- A parameter that is required is bound. -/
theorem bound_of_required {name : String} {params : List (String × Bool)} {args : List Value}
    {named : List (String × Value)} {first : Option Value} {rest : List (Option Value)}
    (h : bindArguments ((name, true) :: params) args named = some (first :: rest)) : ∃ v, first = some v := by
  cases args with
  | cons a args =>
    rw [bindArguments] at h
    split at h
    · cases h
    · obtain ⟨values, -, heq⟩ := Option.map_eq_some_iff.mp h
      cases heq
      exact ⟨a, rfl⟩
  | nil =>
    rw [bindArguments] at h
    split at h
    · rename_i v _
      obtain ⟨values, -, heq⟩ := Option.map_eq_some_iff.mp h
      cases heq
      exact ⟨v, rfl⟩
    · cases h

/-- The one argument of a member was given, or there is no such argument. -/
theorem Prog.single_cases (param : String) (args : List Value) (named : Named) :
    (∃ v ∈ args ++ named.map (·.2), single param args named = .done v) ∨
      single param args named = raise .wrongType := by
  unfold single
  split
  · rename_i v h
    exact .inl ⟨v, mem_of_bindArguments h (by simp), rfl⟩
  · exact .inr rfl

/-- The member of the root that a statement calls, with its arguments.  To turn a function
into a binding takes two calls, of which the second declares something. -/
def Statement.call? : Statement → Option (String × List Value)
  | .address url => some ("page_url", [url])
  | .expectElement name timeout => some ("expected_element", name :: timeout.toList)
  | .expectTitle title => some ("expected_title", [title])
  | .binding member name body => some (member, [name, body])
  | .decorated .. => none
  | .link label => some ("link", [label])
  | .button label => some ("button", [label])

/-- The members of the root that declare something. -/
def declaringNames : List String :=
  ["page_url", "expected_element", "expected_title", "element", "action", "link", "button"]

/-- The ways to declare something on a type, with the member that does it and what it is
given: the member of the root is called with any arguments, a hook states something, or
what turns functions into bindings is called. -/
inductive Declares (cls : ClassRef) : (member : String) → (given : List Value) → Prog Value → Prop where
  | called (member : String) (args : List Value) (named : Named) : member ∈ declaringNames →
      Declares cls member (args ++ named.map (·.2)) (Prog.callDeclaring cls member args named)
  | stated {st : Statement} {member : String} {given : List Value} : st.Known → st.call? = some (member, given) →
      Declares cls member given (Prog.statement cls st)
  | applied (kind : BindingKind) (name : Value) (args : List Value) (named : Named) :
      Declares cls (Value.bindingWord kind) (name :: (args ++ named.map (·.2)))
        (Prog.enter (.decorator cls kind name) args named)

/-- A world after names have been shown: the same one, unless a name is no text, since the
type of a thing may show it by a program of its own. -/
inductive AfterNames (caller : Caller) (rounds : Nat) (given : List Value) (w : World) : World → Prop where
  | same : AfterNames caller rounds given w w
  | shown {v : Value} {answer : Except Raised GivenName} {w' : World} : v ∈ given → v.word? = none →
      Prog.run caller rounds (Prog.givenName v) w = (answer, w') → AfterNames caller rounds given w w'

namespace Declares

open Prog

variable {caller : Caller} {rounds : Nat} {w w' : World} {cls : ClassRef} {member : String} {given : List Value}
  {p : Prog Value} {r : Raised}

/-- What fails after names have been shown leaves the scene as it was then. -/
def SettlesNames (caller : Caller) (rounds : Nat) (given : List Value) (p : Prog Value) (w : World) : Prop :=
  ∀ r w', run caller rounds p w = (.error r, w') → ∃ w₁, AfterNames caller rounds given w w₁ ∧ w'.scene = w₁.scene

theorem SettlesNames.of_undone (h : Undone caller rounds p w) : SettlesNames caller rounds given p w :=
  fun r w' hrun => ⟨w, .same, h r w' hrun⟩

/-- What runs as a program that settles names settles them. -/
theorem SettlesNames.of_run {q : Prog Value} (h : SettlesNames caller rounds given q w)
    (hrun : run caller rounds p w = run caller rounds q w) : SettlesNames caller rounds given p w :=
  fun r w' hp => h r w' (hrun ▸ hp)

/-- So does what answers with something else in the end. -/
theorem SettlesNames.thenDone (h : SettlesNames caller rounds given p w) (f : Value → Value) :
    SettlesNames caller rounds given (p.bind fun a => .done (f a)) w := by
  intro r w' hrun
  rw [run_bind] at hrun
  rcases hp : run caller rounds p w with ⟨_ | a, w₁⟩
  · rw [hp] at hrun
    cases hrun
    exact h _ _ hp
  · rw [hp] at hrun
    cases hrun

theorem SettlesNames.single {x : Declaration} (hx : x.Single) :
    SettlesNames caller rounds given (silently (declareOn cls x)) w :=
  .of_undone ((declareOn_undone hx w).thenDone _)

theorem SettlesNames.expectation (name timeout : Value) :
    SettlesNames caller rounds given (silently (expectElement cls name timeout)) w := by
  have hdeclared : Undone caller rounds (expectElement cls name timeout) w :=
    declareOn_undone (x := .expectElement name _) trivial w
  exact .of_undone (hdeclared.thenDone _)

/-- A binding under a name that was given. -/
theorem SettlesNames.binding (hcheck : w.scene.overrides cls [checkingMember] = false) (kind : BindingKind)
    {name : Value} (hname : name ∈ given) (body : Value) :
    SettlesNames caller rounds given (declareOrDecorate cls kind name body) w := by
  intro r w' hrun
  obtain ⟨answer, w₁, hshown, hscene⟩ := declareOrDecorate_undone hcheck hrun
  cases hword : name.word? with
  | none => exact ⟨w₁, .shown hname hword hshown, hscene⟩
  | some s =>
    rw [givenName_word (by rw [hword]; rfl)] at hshown
    cases hshown
    exact ⟨_, .same, hscene⟩

/-- A program settles names, or is the declaration of a link or a button. -/
inductive Settled (caller : Caller) (rounds : Nat) (cls : ClassRef) (w : World) (member : String) (given : List Value)
    (p : Prog Value) : Prop where
  | names : SettlesNames caller rounds given p w → Settled caller rounds cls w member given p
  | label (c : Labelling) : member = c.kind.word → c.label ∈ given → c.Calls cls p →
      Settled caller rounds cls w member given p

namespace Settled

/-- What runs as a program that settles names settles them. -/
theorem of_run {q : Prog Value} (h : SettlesNames caller rounds given q w)
    (hrun : run caller rounds p w = run caller rounds q w) : Settled caller rounds cls w member given p :=
  .names (h.of_run hrun)

theorem refused : Settled caller rounds cls w member given (raise .wrongType) :=
  .names (.of_undone (.of_error (run_raise _ w)))

/-- What runs as the call of a member with a label: it is the declaration of a link or a
button, unless the label is no text. -/
theorem labelled (kind : LabelKind) {label : Value} (hlabel : label ∈ given) {q : Prog Value}
    (hrun : run caller rounds q w = run caller rounds (callDeclaring cls kind.word [label] []) w)
    (hcalls : ∀ text (h : label.word? = some text), Labelling.Calls ⟨kind, label, text, h⟩ cls q) :
    Settled caller rounds cls w kind.word given q := by
  cases hword : label.word? with
  | some text => exact .label ⟨kind, label, text, hword⟩ rfl hlabel (hcalls text hword)
  | none =>
    refine .names (.of_undone (.of_error (r := { fault := .wrongType }) (hrun.trans ?_)))
    cases kind with
    | link =>
      change run caller rounds (silently (declareLink cls label)) w = _
      rw [silently, declareLink, hword]
      rfl
    | button =>
      change run caller rounds (silently (declareButton cls label)) w = _
      rw [silently, declareButton, hword]
      rfl

/-- What takes one argument. -/
theorem ofSingle {param : String} {args : List Value} {named : Named} {use : Value → Prog Value}
    (h : ∀ v ∈ args ++ named.map (·.2), Settled caller rounds cls w member given (use v)) :
    Settled caller rounds cls w member given ((Prog.single param args named).bind use) := by
  rcases single_cases param args named with ⟨v, hv, hsingle⟩ | hsingle
  · rw [hsingle]
    exact h v hv
  · rw [hsingle]
    exact refused

/-- What takes an argument, and another one that may be missing. -/
theorem ofPair {first second : String} {args : List Value} {named : Named}
    {use : Option Value → Option Value → Prog Value}
    (h : ∀ v ∈ args ++ named.map (·.2), ∀ other, Settled caller rounds cls w member given (use (some v) other)) :
    Settled caller rounds cls w member given
      (match bindArguments [(first, true), (second, false)] args named with
        | some [n, other] => use n other
        | _ => raise .wrongType) := by
  split
  · rename_i n other hbound
    obtain ⟨v, rfl⟩ := bound_of_required hbound
    exact h v (mem_of_bindArguments hbound List.mem_cons_self) other
  · exact refused

end Settled

/-- A call of a member of the root that declares something. -/
theorem settled_called (member : String) (args : List Value) (named : Named) (hmember : member ∈ declaringNames)
    (hfree : w.scene.overrides cls (usedMembers member) = false) :
    Settled caller rounds cls w member (args ++ named.map (·.2)) (callDeclaring cls member args named) := by
  simp only [declaringNames, List.mem_cons, List.not_mem_nil, or_false] at hmember
  rcases hmember with rfl | rfl | rfl | rfl | rfl | rfl | rfl
  · exact .ofSingle fun _ _ => .names (.single trivial)
  · exact .ofPair fun _ _ _ => .names (.expectation _ _)
  · exact .ofSingle fun _ _ => .names (.single trivial)
  · exact .ofPair fun _ hv _ => .names (.binding (overrides_of_subset hfree (by decide)) _ hv _)
  · exact .ofPair fun _ hv _ => .names (.binding (overrides_of_subset hfree (by decide)) _ hv _)
  · exact .ofSingle fun _ hv => .labelled .link hv rfl fun _ _ => .called
  · exact .ofSingle fun _ hv => .labelled .button hv rfl fun _ _ => .called

/-- Whatever declares something settles names, or is the declaration of a link or a button. -/
theorem settled (h : Declares cls member given p) (hfree : w.scene.overrides cls (usedMembers member) = false) :
    Settled caller rounds cls w member given p := by
  have hown : w.scene.member? cls member = none := Scene.member?_of_overrides hfree (mem_usedMembers _)
  cases h with
  | called member args named hmember => exact settled_called member args named hmember hfree
  | @stated st member given hknown hcall =>
    cases st with
    | address url =>
      cases hcall
      exact .of_run (.single (x := .address url) trivial) (run_callTypeMember _ hown _ _)
    | expectElement name timeout =>
      cases hcall
      exact .of_run (.expectation _ _) (run_callTypeMember _ hown _ _)
    | expectTitle title =>
      cases hcall
      exact .of_run (.single (x := .expectTitle title) trivial) (run_callTypeMember _ hown _ _)
    | binding member name body =>
      cases hcall
      have hmember : member ∈ ["element", "value", "action"] := hknown
      have hcheck : w.scene.overrides cls [checkingMember] = false :=
        overrides_of_subset hfree (by rw [usedMembers, if_pos hmember]; simp)
      exact .of_run (.binding hcheck _ List.mem_cons_self body) (run_callTypeMember _ hown _ _)
    | decorated => cases hcall
    | link label =>
      cases hcall
      exact .labelled .link List.mem_cons_self (run_callTypeMember _ hown _ _) fun _ _ => .stated
    | button label =>
      cases hcall
      exact .labelled .button List.mem_cons_self (run_callTypeMember _ hown _ _) fun _ _ => .stated
  | applied kind name args named =>
    have hcheck : w.scene.overrides cls [checkingMember] = false := overrides_of_subset hfree (by cases kind <;> decide)
    refine .ofSingle fun f _ => .names ?_
    refine SettlesNames.thenDone (p := declareBy cls (Value.bindingWord kind) name f) ?_ fun _ => f
    exact .of_run (.binding hcheck _ List.mem_cons_self f) (run_callTypeMember _ hown _ _)

end Declares

/-! ## Links and buttons that fail -/

namespace Labelling

open Definition

/-- When a link or a button leaves its element behind: something is left of the label for a
name, this name is hidden, and the element could be declared. -/
structure LeavesElement (c : Labelling) (s : Scene) (cls : ClassRef) (d : Definition) : Prop where
  unlocked : d.locked = false
  named : c.name ≠ ""
  hidden : s.hides cls c.name = true
  plain : s.hides cls c.elementName = false
  fresh : [.text c.elementName] ∉ d.keys

variable {c : Labelling} {s : Scene} {cls : ClassRef} {d : Definition}

/-- That is when its pair does. -/
theorem strands_iff : Strands (s.facts cls) d c.pair ↔ c.LeavesElement s cls d := by
  constructor
  · rintro ⟨hopen, helement, hfresh, haction⟩
    rw [Scene.nameable_iff] at helement haction
    have hname : c.name ≠ "" := by
      intro hname
      rw [pair_element_of_empty hname, hides_word] at helement
      exact absurd helement.2 (by decide)
    rw [pair_element hname] at helement hfresh
    rw [pair_action] at haction
    refine ⟨hopen, hname, ?_, helement.2, hfresh⟩
    rw [← Bool.not_eq_false]
    exact fun hplain => haction ⟨hname, hplain⟩
  · rintro ⟨hopen, hname, hhidden, hplain, hfresh⟩
    refine ⟨hopen, ?_, ?_, ?_⟩
    · rw [pair_element hname, Scene.nameable_iff]
      exact ⟨c.elementName_ne, hplain⟩
    · rw [pair_element hname]
      exact hfresh
    · rw [pair_action, Scene.nameable_iff, hhidden]
      exact fun haction => absurd haction.2 (by decide)

variable {caller : Caller} {rounds : Nat} {w : World} {n : Nat} {p : Prog Value}

/-- A link or a button that leaves its element behind fails since the name of the action is
hidden. -/
theorem LeavesElement.run (h : c.LeavesElement w.scene cls d) (hcall : c.Calls cls p) (hd : d.WellFormed)
    (hcls : w.scene.definitionOf? cls = some n) (hn : w.scene.definitions[n]? = some d)
    (hfree : w.scene.overrides cls (Prog.usedMembers c.kind.word) = false) :
    ∃ w', Prog.run caller rounds p w = (.error { fault := .reserved c.name (w.scene.fullName cls) "action" }, w') ∧
      w'.scene = w.scene.setDefinition n (d.withElement c.pair) := by
  obtain ⟨fault, hcheck, hfault, hleft⟩ := (strands_iff.mpr h).declarePair hd
  have hhidden : (w.scene.facts cls).hides c.name = true := h.hidden
  rw [checkName_ofText h.unlocked, pair_action, if_neg h.named, if_pos hhidden] at hcheck
  cases hcheck
  have hmakes : Prog.Makes caller rounds p w n _ := hcall.makes hcls hn hfree
  rw [hfault, hleft] at hmakes
  obtain ⟨j, hrun⟩ := hmakes.run_error
  exact ⟨_, hrun, rfl⟩

/-- A link or a button that fails otherwise leaves the scene as it was. -/
theorem Calls.undone (hcall : c.Calls cls p) (h : ¬ c.LeavesElement w.scene cls d) (hd : d.WellFormed)
    (hcls : w.scene.definitionOf? cls = some n) (hn : w.scene.definitions[n]? = some d)
    (hfree : w.scene.overrides cls (Prog.usedMembers c.kind.word) = false) : Prog.Undone caller rounds p w := by
  intro r w' hrun
  have hmakes : Prog.Makes caller rounds p w n _ := hcall.makes hcls hn hfree
  cases hfault : (d.declarePair (w.scene.facts cls) c.pair).fault with
  | none =>
    rw [hfault] at hmakes
    obtain ⟨v, j, hrun'⟩ := hmakes.run_ok
    cases hrun.symm.trans hrun'
  | some fault =>
    rw [hfault, hd.declarePair_undone hfault (mt strands_iff.mp h)] at hmakes
    obtain ⟨j, hrun'⟩ := hmakes.run_error
    cases hrun.symm.trans hrun'
    exact Scene.setDefinition_same hn

end Labelling

/-! ## What declarations leave that fail -/

/-- **What declarations leave that fail**: a declaration on a type that fails, of whatever
kind and with whatever arguments, leaves the scene as it was when the names had been
shown, which is the scene before the declaration unless a name is no text, or is a link or
a button that leaves its element behind; and every link or button that may do so fails,
since the name of its action is hidden, and leaves the element. -/
theorem declarations_undone {w : World} (hw : w.Reached) {caller : Caller} {rounds : Nat} {cls : ClassRef} {n : Nat}
    {d : Definition} (hcls : w.scene.definitionOf? cls = some n) (hn : w.scene.definitions[n]? = some d)
    {member : String} {given : List Value} {p : Prog Value} (hp : Declares cls member given p)
    (hfree : w.scene.overrides cls (Prog.usedMembers member) = false) :
    (∀ r w', Prog.run caller rounds p w = (.error r, w') →
      (∃ w₁, AfterNames caller rounds given w w₁ ∧ w'.scene = w₁.scene) ∨
      ∃ c : Labelling, member = c.kind.word ∧ c.label ∈ given ∧ c.LeavesElement w.scene cls d ∧
        w'.scene = w.scene.setDefinition n (d.withElement c.pair) ∧
        r = { fault := .reserved c.name (w.scene.fullName cls) "action" }) ∧
    ∀ c : Labelling, member = c.kind.word → c.Calls cls p → c.LeavesElement w.scene cls d →
      ∃ w', Prog.run caller rounds p w = (.error { fault := .reserved c.name (w.scene.fullName cls) "action" }, w') ∧
        w'.scene = w.scene.setDefinition n (d.withElement c.pair) := by
  have hd := hw.wellFormed hn
  constructor
  · intro r w' hrun
    have hsettled : Declares.Settled caller rounds cls w member given p := hp.settled hfree
    cases hsettled with
    | names hnames => exact .inl (hnames r w' hrun)
    | label c hmember hlabel hcall =>
      rw [hmember] at hfree
      by_cases hleaves : c.LeavesElement w.scene cls d
      · obtain ⟨w'', hrun', hscene⟩ : ∃ w'', Prog.run caller rounds p w = (_, w'') ∧ _ :=
          hleaves.run hcall hd hcls hn hfree
        cases hrun.symm.trans hrun'
        exact .inr ⟨c, hmember, hlabel, hleaves, hscene, rfl⟩
      · exact .inl ⟨w, .same, hcall.undone hleaves hd hcls hn hfree r w' hrun⟩
  · rintro c rfl hcall hleaves
    exact hleaves.run hcall hd hcls hn hfree

/-- A link for a name that the root has: its element stays behind. -/
theorem labelledWorld_leavesElement :
    (linkTo "Goto").name = "goto" ∧ (linkTo "Goto").elementName = "goto_link" ∧
      ∃ w', Prog.run (callAt 1 1) 1 (statedLink "Goto") (labelledWorld []) =
          (.error { fault := .reserved "goto" "Page" "action" }, w') ∧
        w'.scene = (labelledWorld []).scene.setDefinition 1 (labelledDefinition.withElement (linkTo "Goto").pair) := by
  have hname : (linkTo "Goto").name = "goto" := by decide +kernel
  have helement : (linkTo "Goto").elementName = "goto_link" := by decide +kernel
  have hleaves : (linkTo "Goto").LeavesElement (labelledWorld []).scene labelledPage labelledDefinition := by
    refine ⟨rfl, ?_, ?_, ?_, ?_⟩
    · rw [hname]
      decide
    · rw [hname]
      decide +kernel
    · rw [helement]
      decide +kernel
    · rw [helement]
      decide
  have hdeclares : Declares labelledPage "link" [.text "Goto"] (statedLink "Goto") := .stated trivial rfl
  obtain ⟨-, hlabels⟩ := @declarations_undone _ (labelledWorld_reached []) (callAt 1 1) 1 labelledPage 1
    labelledDefinition rfl rfl _ _ _ hdeclares (by decide +kernel)
  obtain ⟨w', hrun, hscene⟩ := hlabels (linkTo "Goto") rfl .stated hleaves
  rw [hname] at hrun
  exact ⟨hname, helement, w', hrun, hscene⟩

end PageObjects
