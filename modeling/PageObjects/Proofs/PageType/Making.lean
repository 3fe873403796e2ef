import PageObjects.Proofs.Program.Answers
import PageObjects.Script.Eval

/-!
# What statements make

A type that keeps the members of the root that declare something does with a
statement of its hook what the root does.  So a statement comes to a definition and,
if it is not taken, to the fault that ends it, both of which can be read off the
definition before, the facts of the type, and how the name is shown that is given.
The same holds of a list of statements of which some cannot be made out.

Main definitions:

- `Statement.made`: the definition after a statement, and the fault that ended it.
- `Statement.allMade`: the definition after all statements of a list, up to the first
  that fails.
- `Prog.Leaves`: the scene in which a program ends, and its fault.
- `Prog.Makes`: a program changes one definition and nothing else.

Main results:

- Theorem `Prog.statement_makes`: what a statement makes of the definition of a type.
- Theorem `Prog.stateAll_makes`: what a list of statements makes of it.
-/

namespace PageObjects

namespace Value

/-- The text that a word is written with. -/
def wordLabel (v : Value) : Label := ⟨v, v.plainText?.getD ""⟩

/-- A word as a declaration is given it as a name. -/
def wordName (v : Value) : GivenName := ⟨v.wordLabel, Text.quoted v.wordLabel.text⟩

/-- A word may be a key. -/
theorem hashable_of_word {v : Value} (h : v.word?.isSome = true) : v.hashable = true := by
  cases v with
  | text s => simp [hashable]
  | toggle t => simp [hashable]
  | bindingKind k => simp [hashable]
  | _ => cases h

/-- What is told apart as a text is a word with that text. -/
theorem identity_eq_text_iff {v : Value} {s : String} : v.identity = [.text s] ↔ v.word? = some s := by
  cases v with
  | mapping place => cases place <;> simp [identity, word?]
  | float x =>
    simp only [identity, word?]
    split <;> simp
  | tuple items => cases items <;> simp [identity, identities, word?]
  | _ => simp [identity, word?]

end Value

/-! ## Notices -/

namespace Definition

/-- The notice of an entry under a word is plain. -/
theorem notice_plain (d : Definition) {kind : BindingKind} {name : Label} {body : Value}
    (hname : name.value.word?.isSome = true) {e : Log.Entry} (h : d.notice? (Prog.bindingEntry kind name body) = some e) :
    e.context.Plain := by
  have hword : name.value.isPlain = true := Value.isPlain_of_word hname
  cases kind with
  | element =>
    obtain rfl := Option.some.inj h
    exact List.forall_mem_cons.mpr ⟨d.pageName.logged_plain, List.forall_mem_singleton.mpr hword⟩
  | action =>
    obtain rfl := Option.some.inj h
    refine List.forall_mem_cons.mpr ⟨d.pageName.logged_plain, List.forall_mem_cons.mpr ⟨hword, ?_⟩⟩
    refine List.forall_mem_singleton.mpr ?_
    show (if (d.slot? name.key).isSome then (.bool true : Value) else .none).isPlain = true
    split <;> rfl

/-- The notices of an entry are those that it gives. -/
theorem declareEntry_notices {d : Definition} {entry : Entry} {e : Log.Entry}
    (h : e ∈ (d.declareEntry entry).notices) : d.notice? entry = some e := by
  unfold declareEntry at h
  split at h
  · exact Option.mem_toList.mp h
  · cases h

/-- The notices of a binding under a name that is checked are plain. -/
theorem declareNamed_notices (facts : TypeFacts) (d : Definition) (what : String) (name : GivenName)
    (kind : BindingKind) (body : Value) :
    ∀ e ∈ (d.declareNamed facts what name fun n => Prog.bindingEntry kind n body).notices, e.context.Plain := by
  intro e he
  unfold declareNamed at he
  split at he
  · rename_i hchecked
    refine d.notice_plain ?_ (declareEntry_notices he)
    unfold checkName at hchecked
    split at hchecked
    · cases hchecked
    · split at hchecked
      · cases hchecked
      · rename_i hword
        rw [hword]
        rfl
  · cases he

/-- So are those of a link or a button. -/
theorem declarePair_notices (facts : TypeFacts) (d : Definition) (p : Pair) :
    ∀ e ∈ (d.declarePair facts p).notices, e.context.Plain := by
  have helement := d.declareNamed_notices facts "element" (.ofText p.element) .element p.locator
  unfold declarePair Declared.andThen
  split
  · exact helement
  · exact List.forall_mem_append.mpr
      ⟨helement, declareNamed_notices facts _ "action" (.ofText p.action) .action p.body⟩

/-- The notices of a declaration are plain. -/
theorem declare_notices (d : Definition) (facts : TypeFacts) (x : Declaration) :
    ∀ e ∈ (d.declare facts x).notices, e.context.Plain := by
  have hsilent : ∀ entry, d.notice? entry = none → ∀ e ∈ (d.declareEntry entry).notices, e.context.Plain := by
    intro entry hnone e he
    rw [declareEntry_notices he] at hnone
    cases hnone
  cases x with
  | address url => exact hsilent _ rfl
  | expectElement name timeout => exact hsilent _ rfl
  | expectTitle title => exact hsilent _ rfl
  | element name locator => exact d.declareNamed_notices facts _ name .element locator
  | action name body => exact d.declareNamed_notices facts _ name .action body
  | link label =>
    simp only [declare]
    split
    · exact d.declarePair_notices facts _
    · exact fun e he => nomatch he
  | button label =>
    simp only [declare]
    split
    · exact d.declarePair_notices facts _
    · exact fun e he => nomatch he

end Definition

/-! ## What statements come to -/

namespace Definition

/-- The definition after a declaration, and the fault that ended it, if there was one. -/
def make (facts : TypeFacts) (d : Definition) (x : Declaration) : Definition × Option Raised :=
  let r := d.declare facts x
  (r.definition, r.fault.map fun fault => { fault })

end Definition

/-- How names are given to declarations, or why they cannot be given. -/
abbrev Reading := Value → Except Raised GivenName

namespace Statement

/-- The members of a type that statements call. -/
def members : List String :=
  ["page_url", "expected_element", "expected_title", "element", "value", "action", "link", "button",
   Prog.checkingMember]

/-- The names that a statement gives, which have to be shown. -/
def names : Statement → List Value
  | .binding _ name _ | .decorated _ name _ => [name]
  | _ => []

/-- A binding is stated by a member of the root. -/
def Known : Statement → Prop
  | .binding member .. | .decorated member .. => member ∈ ["element", "value", "action"]
  | _ => True

variable (reading : Reading) (usual : Value) (facts : TypeFacts)

/-- What a binding that is stated comes to.  Without a body nothing is declared yet. -/
def bindingMade (d : Definition) (kind : BindingKind) (name body : Value) : Definition × Option Raised :=
  if body.isNone then (d, none)
  else
    match reading name with
    | .ok given => d.make facts (Prog.bindingDeclaration kind given body)
    | .error r => (d, some r)

/-- What a statement comes to that needs a label, which has to be a word. -/
def labelMade (d : Definition) (label : Value) (x : Declaration) : Definition × Option Raised :=
  if label.word?.isSome then d.make facts x else (d, some { fault := .wrongType })

/-- The definition after a statement, and the fault that ended it, if there was one;
`usual` is how long to wait for an element if nothing is said. -/
def made (d : Definition) : Statement → Definition × Option Raised
  | .address url => d.make facts (.address url)
  | .expectElement name timeout =>
    let timeout := timeout.getD .none
    d.make facts (.expectElement name (if timeout.isNone then usual else timeout))
  | .expectTitle title => d.make facts (.expectTitle title)
  | .binding member name body | .decorated member name body =>
    bindingMade reading facts d (Prog.kindDeclaredBy member) name body
  | .link label => labelMade facts d label (.link label.wordLabel)
  | .button label => labelMade facts d label (.button label.wordLabel)

/-- The definition after the statements of a list, and the fault that ended them: that
of the first that is not taken, or that cannot be made out. -/
def allMade : Definition → List (Except Fault Statement) → Definition × Option Raised
  | d, [] => (d, none)
  | d, .error fault :: _ => (d, some { fault })
  | d, .ok st :: rest =>
    match st.made reading usual facts d with
    | (d', none) => allMade d' rest
    | (d', some r) => (d', some r)

end Statement

namespace Scene

variable {s : Scene} {n : Nat} {d d' : Definition}

@[simp] theorem setDefinition_setDefinition (s : Scene) (n : Nat) (d d' : Definition) :
    (s.setDefinition n d).setDefinition n d' = s.setDefinition n d' := by
  simp [setDefinition]

/-- To put a definition where it stands already changes nothing. -/
theorem setDefinition_same (h : s.definitions[n]? = some d) : s.setDefinition n d = s := by
  obtain ⟨hlt, rfl⟩ := List.getElem?_eq_some_iff.mp h
  simp [setDefinition]

theorem setDefinition_getElem? (h : s.definitions[n]? = some d) (d' : Definition) :
    (s.setDefinition n d').definitions[n]? = some d' :=
  List.getElem?_set_self (List.getElem?_eq_some_iff.mp h).1

/-- A member that is not taken over. -/
theorem member?_of_overrides {cls : ClassRef} {names : List String} (h : s.overrides cls names = false)
    {m : String} (hm : m ∈ names) : s.member? cls m = none := by
  simp only [overrides, List.any_eq_false] at h
  simpa using h m hm

end Scene

namespace Prog

variable {caller : Caller} {rounds : Nat} {α β : Type} {w : World} {cls : ClassRef} {n : Nat} {d : Definition}
  {r : Definition × Option Raised}

/-! ## Programs that make something of a definition -/

/-- How a program ends: with a fault, if there is one. -/
def ended : Option Raised → Except Raised Unit
  | none => .ok ()
  | some r => .error r

/-- A statement that defines a type ends with a fault, or with the type. -/
theorem ended_cases {answer : Except Raised (ClassRef × β)} {fault : Option Raised} {cls : ClassRef}
    (h : answer.map (·.1) = (ended fault).map fun _ => cls) :
    (fault = none ∧ ∃ b, answer = .ok (cls, b)) ∨ ∃ r, fault = some r ∧ answer = .error r := by
  cases fault with
  | none =>
    cases answer with
    | error r => cases h
    | ok a =>
      obtain ⟨cls', b⟩ := a
      cases h
      exact .inl ⟨rfl, b, rfl⟩
  | some r =>
    cases answer with
    | error r' =>
      cases h
      exact .inr ⟨r, rfl, rfl⟩
    | ok a => cases h

/-- A program changes one definition and nothing else in the scene: `r` says what it
makes of the definition, and the fault that ends it, if there is one. -/
def Makes (caller : Caller) (rounds : Nat) (p : Prog α) (w : World) (n : Nat) (r : Definition × Option Raised) :
    Prop :=
  ∃ answer j, run caller rounds p w = (answer, { scene := w.scene.setDefinition n r.1, journal := j }) ∧
    answer.map (fun _ => ()) = ended r.2

/-- A program ends in a scene, with a fault if there is one. -/
def Leaves (caller : Caller) (rounds : Nat) (p : Prog α) (w : World) (s : Scene) (fault : Option Raised) : Prop :=
  ∃ answer j, run caller rounds p w = (answer, { scene := s, journal := j }) ∧ answer.map (fun _ => ()) = ended fault

namespace Leaves

variable {s : Scene}

/-- A program that ends with no fault has an answer. -/
theorem run_ok {p : Prog α} (h : Leaves caller rounds p w s none) :
    ∃ a j, run caller rounds p w = (.ok a, { scene := s, journal := j }) := by
  obtain ⟨answer, j, hrun, hended⟩ := h
  cases answer with
  | error fault => cases hended
  | ok a => exact ⟨a, j, hrun⟩

/-- A program that ends with a fault has that fault. -/
theorem run_error {p : Prog α} {fault : Raised} (h : Leaves caller rounds p w s (some fault)) :
    ∃ j, run caller rounds p w = (.error fault, { scene := s, journal := j }) := by
  obtain ⟨answer, j, hrun, hended⟩ := h
  cases answer with
  | error fault' =>
    cases hended
    exact ⟨j, hrun⟩
  | ok a => cases hended

end Leaves

namespace Makes

/-- A program that makes something of a definition ends in a scene where it stands. -/
theorem leaves {p : Prog α} (h : Makes caller rounds p w n r) :
    Leaves caller rounds p w (w.scene.setDefinition n r.1) r.2 := h

/-- A program that has an answer and leaves the world as it is makes nothing of a definition. -/
theorem answered {p : Prog α} {a : α} (hn : w.scene.definitions[n]? = some d)
    (h : run caller rounds p w = (.ok a, w)) : Makes caller rounds p w n (d, none) :=
  ⟨.ok a, w.journal, by rw [h, Scene.setDefinition_same hn], rfl⟩

/-- Nor does a program that fails and leaves the world as it is. -/
theorem failed {p : Prog α} {fault : Raised} (hn : w.scene.definitions[n]? = some d)
    (h : run caller rounds p w = (.error fault, w)) : Makes caller rounds p w n (d, some fault) :=
  ⟨.error fault, w.journal, by rw [h, Scene.setDefinition_same hn], rfl⟩

/-- What is answered in the end does not matter. -/
theorem thenDone {p : Prog α} (h : Makes caller rounds p w n r) (f : α → β) :
    Makes caller rounds (p.bind fun a => .done (f a)) w n r := by
  obtain ⟨answer, j, hrun, hended⟩ := h
  cases answer with
  | error fault => exact ⟨.error fault, j, by rw [run_bind, hrun]; rfl, hended⟩
  | ok a => exact ⟨.ok (f a), j, by rw [run_bind, hrun]; rfl, hended⟩

/-- What runs as a program that makes something of a definition makes the same of it. -/
theorem of_run {p q : Prog α} (h : Makes caller rounds p w n r)
    (hrun : run caller rounds q w = run caller rounds p w) : Makes caller rounds q w n r := by
  obtain ⟨answer, j, hp, hended⟩ := h
  exact ⟨answer, j, hrun.trans hp, hended⟩

/-- A program that ends with no fault has an answer. -/
theorem run_ok {p : Prog α} {d' : Definition} (h : Makes caller rounds p w n (d', none)) :
    ∃ a j, run caller rounds p w = (.ok a, { scene := w.scene.setDefinition n d', journal := j }) :=
  h.leaves.run_ok

/-- A program that ends with a fault has that fault. -/
theorem run_error {p : Prog α} {d' : Definition} {fault : Raised}
    (h : Makes caller rounds p w n (d', some fault)) :
    ∃ j, run caller rounds p w = (.error fault, { scene := w.scene.setDefinition n d', journal := j }) :=
  h.leaves.run_error

end Makes

/-- A change of a definition makes of it what the change comes to, if its notices are plain. -/
theorem declaring_makes (hn : w.scene.definitions[n]? = some d) {o : Op Outcome} {f : Definition → Declared}
    (ho : ∀ w, o.run w = w.change n f) (hplain : ∀ e ∈ (f d).notices, e.context.Plain) :
    Makes caller rounds (declaring o) w n ((f d).definition, (f d).fault.map fun fault => { fault }) := by
  have hchange : w.change n f =
      (((f d).notices, (f d).fault), { w with scene := w.scene.setDefinition n (f d).definition }) := by
    simp [World.change, hn]
  obtain ⟨j, hj⟩ : ∃ j, run caller rounds (logAll (f d).notices)
      { w with scene := w.scene.setDefinition n (f d).definition } =
        (.ok (), { scene := w.scene.setDefinition n (f d).definition, journal := j }) := run_logAll hplain _
  rw [Makes, declaring, bind_eq, run_op_bind, ho, hchange]
  simp only [bind_eq]
  rw [run_bind, hj, andThen_ok]
  cases (f d).fault with
  | none => exact ⟨.ok (), j, rfl, rfl⟩
  | some fault => exact ⟨.error { fault }, j, rfl, rfl⟩

/-- A declaration on a type makes of the definition of the type what it declares. -/
theorem declareOn_makes (hcls : w.scene.definitionOf? cls = some n) (hn : w.scene.definitions[n]? = some d)
    (x : Declaration) : Makes caller rounds (declareOn cls x) w n (d.make (w.scene.facts cls) x) := by
  have hmakes : Makes caller rounds (declaring (.declare n (w.scene.facts cls) x)) w n _ :=
    declaring_makes hn (fun _ => rfl) (d.declare_notices _ x)
  refine hmakes.of_run ?_
  simp only [declareOn, definitionNumber, bind_eq, run_bind_eq, run_view, andThen_ok, hcls, run_ofOption_some]

/-! ## Names -/

/-- A word is shown as a name without looking at anything. -/
theorem givenName_word {v : Value} (h : v.word?.isSome = true) : givenName v = .done v.wordName := by
  cases v with
  | text s => rfl
  | toggle t => rfl
  | bindingKind k => rfl
  | _ => cases h

theorem labelled_word {v : Value} (h : v.word?.isSome = true) : labelled v = .done v.wordLabel := by
  cases v with
  | text s => rfl
  | toggle t => rfl
  | bindingKind k => rfl
  | _ => cases h

theorem formatted_word {v : Value} (h : v.word?.isSome = true) : formatted v = .done v.wordLabel.text := by
  cases v with
  | text s => rfl
  | toggle t => rfl
  | bindingKind k => rfl
  | _ => cases h

/-! ## Statements -/

/-- What a type does not take over is done as the root does it. -/
theorem run_callTypeMember (m : String) (hm : w.scene.member? cls m = none) (args : List Value)
    (usual : Prog Value) : run caller rounds (callTypeMember cls m args usual) w = run caller rounds usual w := by
  rw [callTypeMember, bind_eq, run_view_bind, hm]

/-- The members that state bindings are not taken over by a type that takes over none. -/
theorem bindingMember_free (hfree : w.scene.overrides cls Statement.members = false) {m : String}
    (hm : m ∈ ["element", "value", "action"]) : w.scene.member? cls m = none := by
  refine Scene.member?_of_overrides hfree ?_
  simp only [List.mem_cons, List.not_mem_nil, or_false] at hm
  rcases hm with rfl | rfl | rfl <;> decide

/-- A type that takes over no member checks names as the root does. -/
theorem checkingMember_free (hfree : w.scene.overrides cls Statement.members = false) :
    w.scene.overrides cls [checkingMember] = false := by
  simpa [Scene.overrides] using Scene.member?_of_overrides hfree (m := checkingMember) (by decide)

/-- A type that takes over no member declares links and buttons as the root does. -/
theorem pairMembers_free (hfree : w.scene.overrides cls Statement.members = false) :
    w.scene.overrides cls pairMembers = false := by
  simp only [Scene.overrides, pairMembers, List.any_eq_false]
  intro m hm
  rw [Scene.member?_of_overrides hfree (by revert m; decide)]
  exact Bool.false_ne_true

/-- A link is declared under a label that is a word. -/
theorem run_declareLink (hpairs : w.scene.overrides cls pairMembers = false) {label : Value}
    (hword : label.word?.isSome = true) :
    run caller rounds (declareLink cls label) w = run caller rounds (declareOn cls (.link label.wordLabel)) w := by
  obtain ⟨s, hs⟩ := Option.isSome_iff_exists.mp hword
  rw [declareLink, hs, bind_eq, run_bind, run_ofOption_some, andThen_ok, bind_eq, run_view_bind,
    hpairs, labelled_word hword]
  rfl

/-- A button is declared under a label that is a word. -/
theorem run_declareButton (hpairs : w.scene.overrides cls pairMembers = false) {label : Value}
    (hword : label.word?.isSome = true) :
    run caller rounds (declareButton cls label) w =
      run caller rounds (declareOn cls (.button label.wordLabel)) w := by
  obtain ⟨s, hs⟩ := Option.isSome_iff_exists.mp hword
  rw [declareButton, hs, bind_eq, run_bind, run_ofOption_some, andThen_ok, labelled_word hword, bind_eq,
    run_bind, run_done, andThen_ok, bind_eq, run_view_bind, hpairs]
  rfl

section

variable (hcls : w.scene.definitionOf? cls = some n) (hn : w.scene.definitions[n]? = some d)
  (hfree : w.scene.overrides cls Statement.members = false) {reading : Reading}

include hcls hn hfree

/-- A binding that is stated makes of the definition what it declares, if it has a body. -/
theorem declareOrDecorate_makes (kind : BindingKind) {name : Value}
    (hname : run caller rounds (givenName name) w = (reading name, w)) (body : Value) :
    Makes caller rounds (declareOrDecorate cls kind name body) w n
      (Statement.bindingMade reading (w.scene.facts cls) d kind name body) := by
  unfold declareOrDecorate Statement.bindingMade
  by_cases hbody : body.isNone = true
  · rw [if_pos hbody, if_pos hbody]
    exact Makes.answered hn rfl
  · rw [if_neg hbody, if_neg hbody]
    have hrun : run caller rounds (declareBinding cls kind name body) w =
        run caller rounds ((givenName name).bind fun g => declareOn cls (bindingDeclaration kind g body)) w := by
      rw [declareBinding, bind_eq, run_view_bind, checkingMember_free hfree]
      rfl
    refine Makes.thenDone (p := declareBinding cls kind name body) ?_ fun _ => body
    cases hread : reading name with
    | error r =>
      rw [hread] at hname
      exact Makes.failed hn (by rw [hrun, run_bind, hname, andThen_error])
    | ok given =>
      rw [hread] at hname
      exact (declareOn_makes hcls hn _).of_run (by rw [hrun, run_bind, hname, andThen_ok])

/-- A binding is stated by a member that the type does not take over. -/
theorem declareBy_makes {member : String} (hm : member ∈ ["element", "value", "action"]) {name : Value}
    (hname : run caller rounds (givenName name) w = (reading name, w)) (body : Value) :
    Makes caller rounds (declareBy cls member name body) w n
      (Statement.bindingMade reading (w.scene.facts cls) d (kindDeclaredBy member) name body) :=
  (declareOrDecorate_makes hcls hn hfree _ hname body).of_run
    (run_callTypeMember _ (bindingMember_free hfree hm) _ _)

omit hfree in
/-- What needs a label that is a word makes a declaration, or fails at once. -/
theorem labelled_makes {label : Value} (x : Declaration) {p : Prog Unit}
    (hword : label.word?.isSome = true → run caller rounds p w = run caller rounds (declareOn cls x) w)
    (hno : label.word? = none → run caller rounds p w = (.error { fault := .wrongType }, w)) :
    Makes caller rounds p w n (Statement.labelMade (w.scene.facts cls) d label x) := by
  unfold Statement.labelMade
  by_cases h : label.word?.isSome = true
  · rw [if_pos h]
    exact (declareOn_makes hcls hn x).of_run (hword h)
  · rw [if_neg h]
    exact Makes.failed hn (hno (by simpa using h))

/-- What a statement makes of the definition of a type. -/
theorem statement_makes {st : Statement} (hst : st.Known)
    (hnames : ∀ v ∈ st.names, run caller rounds (givenName v) w = (reading v, w)) :
    Makes caller rounds (statement cls st) w n
      (st.made reading w.scene.settings.elementTimeout (w.scene.facts cls) d) := by
  have hmember : ∀ m ∈ Statement.members, w.scene.member? cls m = none := fun m hm =>
    Scene.member?_of_overrides hfree hm
  cases st with
  | address url =>
    refine ((declareOn_makes hcls hn (.address url)).thenDone fun _ => Value.none).of_run ?_
    exact run_callTypeMember _ (hmember _ (by decide)) _ _
  | expectElement name timeout =>
    refine ((declareOn_makes hcls hn _).thenDone fun _ => Value.none).of_run ?_
    exact run_callTypeMember _ (hmember _ (by decide)) _ _
  | expectTitle title =>
    refine ((declareOn_makes hcls hn (.expectTitle title)).thenDone fun _ => Value.none).of_run ?_
    exact run_callTypeMember _ (hmember _ (by decide)) _ _
  | binding member name body =>
    exact declareBy_makes hcls hn hfree hst (hnames name (List.mem_singleton_self _)) body
  | decorated member name body =>
    have hword : Value.bindingWord (kindDeclaredBy member) ∈ ["element", "value", "action"] := by
      cases kindDeclaredBy member <;> decide
    have hkind : kindDeclaredBy (Value.bindingWord (kindDeclaredBy member)) = kindDeclaredBy member := by
      cases kindDeclaredBy member <;> decide
    have hmakes : Makes caller rounds (declareBy cls _ name body) w n _ :=
      declareBy_makes hcls hn hfree hword (hnames name (List.mem_singleton_self _)) body
    rw [hkind] at hmakes
    refine hmakes.of_run ?_
    have hover : w.scene.overrides cls [member] = false := by
      simpa [Scene.overrides] using bindingMember_free hfree hst
    rw [statement, decorateBy, bind_eq, run_view_bind, hover]
    rfl
  | link label =>
    have hlink : Makes caller rounds (declareLink cls label) w n _ :=
      labelled_makes hcls hn (.link label.wordLabel) (run_declareLink (pairMembers_free hfree)) fun h => by
        rw [declareLink, h]
        rfl
    exact (hlink.thenDone fun _ => Value.none).of_run (run_callTypeMember _ (hmember _ (by decide)) _ _)
  | button label =>
    have hbutton : Makes caller rounds (declareButton cls label) w n _ :=
      labelled_makes hcls hn (.button label.wordLabel) (run_declareButton (pairMembers_free hfree)) fun h => by
        rw [declareButton, h]
        rfl
    exact (hbutton.thenDone fun _ => Value.none).of_run (run_callTypeMember _ (hmember _ (by decide)) _ _)

end

/-! ## Lists of statements -/

/-- Names that are given in the same way in all worlds. -/
def Given (reading : Reading) (v : Value) : Prop :=
  ∀ caller rounds w, run caller rounds (givenName v) w = (reading v, w)

/-- What a list of statements makes of the definition of a type. -/
theorem stateAll_makes {reading : Reading} (hcls : w.scene.definitionOf? cls = some n)
    (hn : w.scene.definitions[n]? = some d) (hfree : w.scene.overrides cls Statement.members = false)
    {steps : List (Except Fault Statement)}
    (hsteps : ∀ st, .ok st ∈ steps → st.Known ∧ ∀ v ∈ st.names, Given reading v) :
    Makes caller rounds (stateAll cls steps) w n
      (Statement.allMade reading w.scene.settings.elementTimeout (w.scene.facts cls) d steps) := by
  induction steps generalizing w d with
  | nil => exact Makes.answered hn rfl
  | cons step rest ih =>
    cases step with
    | error fault => exact Makes.failed hn rfl
    | ok st =>
      obtain ⟨hknown, hgiven⟩ := hsteps st List.mem_cons_self
      have hstated : Makes caller rounds (statement cls st) w n _ :=
        statement_makes hcls hn hfree hknown fun v hv => hgiven v hv caller rounds w
      have hhead : run caller rounds (stateAll cls (.ok st :: rest)) w =
          run caller rounds ((statement cls st).bind fun _ => stateAll cls rest) w := rfl
      rw [Makes, hhead, run_bind, Statement.allMade]
      rcases hmade : st.made reading w.scene.settings.elementTimeout (w.scene.facts cls) d with ⟨d', _ | r⟩
      · rw [hmade] at hstated
        obtain ⟨a, j, hrun⟩ := hstated.run_ok
        rw [hrun, andThen_ok]
        -- the scene after the statement differs in the one definition only, which the
        -- members of the type, its facts and the settings do not depend on
        obtain ⟨answer, j', hrest, hended⟩ := ih (w := { scene := w.scene.setDefinition n d', journal := j }) hcls
          (Scene.setDefinition_getElem? hn d') hfree fun st hst => hsteps st (List.mem_cons_of_mem _ hst)
        rw [Scene.setDefinition_setDefinition] at hrest
        exact ⟨answer, j', hrest, hended⟩
      · rw [hmade] at hstated
        obtain ⟨j, hrun⟩ := hstated.run_error
        rw [hrun, andThen_error]
        exact ⟨_, j, rfl, rfl⟩

end Prog

end PageObjects
