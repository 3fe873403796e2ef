import PageObjects.Proofs.PageType.Making

/-!
# What statements tell a type

A type that keeps the members of the root that declare something is told what its
hook states.  Whatever a statement is about, it changes the definition of the type
and nothing else, and it has an answer exactly if all of it was taken.  So the hook
as a whole comes to the definition that its statements make one after the other.

Main definitions:

- `Statement.told`: the definition after a statement, and whether it was taken.
- `Statement.allTold`: the definition after the statements of a hook.
- `Prog.runStatements`: the program of a hook that consists of statements.
- `Prog.Tells`: a program changes one definition and nothing else.

Main results:

- Theorem `Prog.statement_tells`: a statement tells the type what it says.
- Theorem `Prog.runStatements_tells`: so does a hook.
-/

namespace PageObjects

/-! ## What is told -/

namespace Definition

/-- The definition after a declaration, and whether all of it was taken. -/
def tell (facts : TypeFacts) (d : Definition) (x : Declaration) : Definition × Bool :=
  let r := d.declare facts x
  (r.definition, r.fault.isNone)

/-- A declaration tells a definition what it makes of it. -/
theorem tell_eq (facts : TypeFacts) (d : Definition) (x : Declaration) :
    d.tell facts x = ((d.make facts x).1, (d.make facts x).2.isNone) := by
  simp [tell, make]

end Definition

namespace Value

/-- To show a value as a name does nothing else, whether or not it can be shown. -/
def Quiet (v : Value) : Prop :=
  ∀ caller rounds w, ∃ r, (Prog.givenName v).run caller rounds w = (r, w)

theorem quiet_text (s : String) : Quiet (.text s) := fun _ _ _ => ⟨_, rfl⟩

end Value

namespace Statement

/-- A binding is stated by a member of the root, under a name that can be shown
without doing anything else. -/
def Proper : Statement → Prop
  | .binding member name _ | .decorated member name _ =>
    member ∈ ["element", "value", "action"] ∧ name.Quiet
  | _ => True

/-- The definition after a binding was stated.  Without a body nothing is declared
yet, and what is no word cannot be a name. -/
def bindingTold (facts : TypeFacts) (d : Definition) (kind : BindingKind) (name body : Value) :
    Definition × Bool :=
  if body.isNone then (d, true)
  else if name.word?.isSome then d.tell facts (Prog.bindingDeclaration kind name.wordName body)
  else (d, false)

/-- The definition after a statement, and whether all of it was taken; `usual` is how
long to wait for an element if nothing is said. -/
def told (usual : Value) (facts : TypeFacts) (d : Definition) : Statement → Definition × Bool
  | .address url => d.tell facts (.address url)
  | .expectElement name timeout =>
    let timeout := timeout.getD .none
    d.tell facts (.expectElement name (if timeout.isNone then usual else timeout))
  | .expectTitle title => d.tell facts (.expectTitle title)
  | .binding member name body | .decorated member name body =>
    bindingTold facts d (Prog.kindDeclaredBy member) name body
  | .link label => if label.word?.isSome then d.tell facts (.link label.wordLabel) else (d, false)
  | .button label => if label.word?.isSome then d.tell facts (.button label.wordLabel) else (d, false)

/-- The definition after the statements of a hook, and whether the hook came to its
end: a statement that is not taken ends it unless it is guarded. -/
def allTold (usual : Value) (facts : TypeFacts) : Definition → List (Bool × Statement) → Definition × Bool
  | d, [] => (d, true)
  | d, (guarded, st) :: rest =>
    let r := st.told usual facts d
    if r.2 || guarded then allTold usual facts r.1 rest else (r.1, false)

/-- Names are given as they are shown: words as words, and whatever is given stands for
the value itself. -/
def Fair (reading : Reading) (st : Statement) : Prop :=
  ∀ v ∈ st.names, (v.word?.isSome = true → reading v = .ok v.wordName) ∧
    ∀ given, reading v = .ok given → given.label.value = v

/-- What is no word cannot be declared as a name. -/
theorem tell_unnamed {facts : TypeFacts} {d : Definition} {g : GivenName} (h : g.label.value.word? = none)
    (kind : BindingKind) (body : Value) :
    d.tell facts (Prog.bindingDeclaration kind g body) = (d, false) := by
  have hcheck : ∀ what, ∃ fault, Definition.checkName facts d what g = .error fault := by
    intro what
    simp only [Definition.checkName, h]
    split
    · exact ⟨_, rfl⟩
    · exact ⟨_, rfl⟩
  cases kind with
  | element =>
    obtain ⟨fault, hfault⟩ := hcheck "element"
    simp [Definition.tell, Prog.bindingDeclaration, Definition.declare, Definition.declareElement,
      Definition.declareNamed, hfault]
  | action =>
    obtain ⟨fault, hfault⟩ := hcheck "action"
    simp [Definition.tell, Prog.bindingDeclaration, Definition.declare, Definition.declareAction,
      Definition.declareNamed, hfault]

/-- A binding tells a definition what it makes of it. -/
theorem bindingTold_eq {reading : Reading} {facts : TypeFacts} {d : Definition} {name : Value}
    (hword : name.word?.isSome = true → reading name = .ok name.wordName)
    (hvalue : ∀ given, reading name = .ok given → given.label.value = name) (kind : BindingKind) (body : Value) :
    bindingTold facts d kind name body =
      ((bindingMade reading facts d kind name body).1, (bindingMade reading facts d kind name body).2.isNone) := by
  unfold bindingTold bindingMade
  by_cases hbody : body.isNone = true
  · rw [if_pos hbody, if_pos hbody]
    rfl
  · rw [if_neg hbody, if_neg hbody]
    by_cases h : name.word?.isSome = true
    · rw [if_pos h, hword h]
      exact Definition.tell_eq _ _ _
    · rw [if_neg h]
      cases hread : reading name with
      | error r => rfl
      | ok given =>
        -- the name is shown, but it is refused since it is no word
        have hno : given.label.value.word? = none := by
          rw [hvalue given hread]
          simpa using h
        exact (tell_unnamed hno kind body).symm.trans (Definition.tell_eq _ _ _)

/-- A statement tells a definition what it makes of it. -/
theorem told_eq {reading : Reading} {st : Statement} (hst : st.Fair reading) (usual : Value) (facts : TypeFacts)
    (d : Definition) :
    st.told usual facts d = ((st.made reading usual facts d).1, (st.made reading usual facts d).2.isNone) := by
  have hlabel : ∀ (label : Value) (x : Declaration),
      (if label.word?.isSome then d.tell facts x else (d, false)) =
        ((labelMade facts d label x).1, (labelMade facts d label x).2.isNone) := by
    intro label x
    unfold labelMade
    split
    · exact Definition.tell_eq _ _ _
    · rfl
  cases st with
  | address url => exact Definition.tell_eq _ _ _
  | expectElement name timeout => exact Definition.tell_eq _ _ _
  | expectTitle title => exact Definition.tell_eq _ _ _
  | binding member name body =>
    obtain ⟨hword, hvalue⟩ := hst name (List.mem_singleton_self _)
    exact bindingTold_eq hword hvalue _ body
  | decorated member name body =>
    obtain ⟨hword, hvalue⟩ := hst name (List.mem_singleton_self _)
    exact bindingTold_eq hword hvalue _ body
  | link label => exact hlabel label _
  | button label => exact hlabel label _

end Statement

namespace Prog

variable {caller : Caller} {rounds : Nat} {α β : Type} {w : World} {cls : ClassRef} {n : Nat} {d : Definition}

/-! ## Programs that tell a definition something -/

/-- A program changes one definition and nothing else in the scene, and it has an
answer exactly if `r` says so. -/
def Tells (caller : Caller) (rounds : Nat) (p : Prog α) (w : World) (n : Nat) (r : Definition × Bool) : Prop :=
  ∃ answer j, run caller rounds p w = (answer, { scene := w.scene.setDefinition n r.1, journal := j }) ∧
    answer.toBool = r.2

namespace Tells

/-- A program that has an answer and leaves the world as it is tells a definition nothing. -/
theorem answered {p : Prog α} {a : α} (hn : w.scene.definitions[n]? = some d)
    (h : run caller rounds p w = (.ok a, w)) : Tells caller rounds p w n (d, true) :=
  ⟨.ok a, w.journal, by rw [h, Scene.setDefinition_same hn], rfl⟩

/-- What is answered in the end does not matter. -/
theorem thenDone {p : Prog α} {r : Definition × Bool} (h : Tells caller rounds p w n r) (f : α → β) :
    Tells caller rounds (p.bind fun a => .done (f a)) w n r := by
  obtain ⟨answer, j, hrun, hanswer⟩ := h
  cases answer with
  | error fault => exact ⟨.error fault, j, by rw [run_bind, hrun]; rfl, hanswer⟩
  | ok a => exact ⟨.ok (f a), j, by rw [run_bind, hrun]; rfl, hanswer⟩

/-- What runs as a program that tells a definition something tells it the same. -/
theorem of_run {p q : Prog α} {r : Definition × Bool} (h : Tells caller rounds p w n r)
    (hrun : run caller rounds q w = run caller rounds p w) : Tells caller rounds q w n r := by
  obtain ⟨answer, j, hp, hanswer⟩ := h
  exact ⟨answer, j, hrun.trans hp, hanswer⟩

end Tells

/-- A program tells a definition what it makes of it. -/
theorem Makes.tells {p : Prog α} {r : Definition × Option Raised} (h : Makes caller rounds p w n r) :
    Tells caller rounds p w n (r.1, r.2.isNone) := by
  obtain ⟨answer, j, hrun, hended⟩ := h
  refine ⟨answer, j, hrun, ?_⟩
  obtain ⟨d, fault⟩ := r
  cases answer with
  | error r =>
    cases fault with
    | none => cases hended
    | some r' => rfl
  | ok a =>
    cases fault with
    | none => rfl
    | some r' => cases hended

/-! ## Statements -/

/-- A name that has been shown is the name of what was shown. -/
theorem givenName_value {v : Value} {w' : World} {g : GivenName}
    (h : run caller rounds (givenName v) w = (.ok g, w')) : g.label.value = v := by
  simp only [givenName, labelled, bind_eq, pure_eq] at h
  obtain ⟨label, w₁, hlabel, h⟩ := run_bind_ok h
  obtain ⟨text, w₂, -, hlabel⟩ := run_bind_ok hlabel
  cases hlabel
  split at h
  · cases h
    rfl
  · obtain ⟨shown, w₃, -, h⟩ := run_bind_ok h
    cases h
    rfl

/-- A statement tells the type what it says. -/
theorem statement_tells (hcls : w.scene.definitionOf? cls = some n) (hn : w.scene.definitions[n]? = some d)
    (hfree : w.scene.overrides cls Statement.members = false) {st : Statement} (hst : st.Proper) :
    Tells caller rounds (statement cls st) w n
      (st.told w.scene.settings.elementTimeout (w.scene.facts cls) d) := by
  -- the names are given as they are shown in this very world
  let reading : Reading := fun v => (run caller rounds (givenName v) w).1
  have hknown : st.Known := by
    cases st with
    | binding member name body => exact hst.1
    | decorated member name body => exact hst.1
    | _ => trivial
  have hquiet : ∀ v ∈ st.names, run caller rounds (givenName v) w = (reading v, w) := by
    have hshown : ∀ v : Value, v.Quiet → run caller rounds (givenName v) w = (reading v, w) := by
      intro v hv
      obtain ⟨r, hr⟩ := hv caller rounds w
      simp only [reading, hr]
    cases st with
    | binding member name body => simpa [Statement.names] using hshown name hst.2
    | decorated member name body => simpa [Statement.names] using hshown name hst.2
    | _ => simp [Statement.names]
  have hfair : st.Fair reading := by
    intro v hv
    refine ⟨fun hword => ?_, fun given hgiven => ?_⟩
    · simp only [reading, givenName_word hword]
      rfl
    · have hrun := hquiet v hv
      rw [hgiven] at hrun
      exact givenName_value hrun
  rw [Statement.told_eq hfair]
  exact (statement_makes hcls hn hfree hknown hquiet).tells

/-! ## Hooks -/

/-- A guarded program has an answer in any case. -/
theorem guarding_tells {p : Prog Value} {r : Definition × Bool} (h : Tells caller rounds p w n r) (guarded : Bool) :
    Tells caller rounds (guarding guarded p) w n (r.1, r.2 || guarded) := by
  obtain ⟨answer, j, hrun, hanswer⟩ := h
  cases guarded with
  | true =>
    cases answer with
    | error fault =>
      refine ⟨.ok (some fault), j, ?_, by simp [Except.toBool]⟩
      rw [guarding, if_pos rfl, bind_eq, run_bind, run_outcome, hrun]
      rfl
    | ok a =>
      refine ⟨.ok none, j, ?_, by simp [Except.toBool]⟩
      rw [guarding, if_pos rfl, bind_eq, run_bind, run_outcome, hrun]
      rfl
  | false =>
    rw [Bool.or_false]
    exact (Tells.thenDone ⟨answer, j, hrun, hanswer⟩ fun _ => none).of_run rfl

/-- The program of a hook that consists of statements, of which guarded ones may fail. -/
def runStatements (cls : ClassRef) : List (Bool × Statement) → Prog (List Raised)
  | [] => .done []
  | (guarded, st) :: rest => do
    let caught ← guarding guarded (statement cls st)
    let others ← runStatements cls rest
    pure (caught.toList ++ others)

/-- A hook tells the type what its statements say, one after the other. -/
theorem runStatements_tells (hcls : w.scene.definitionOf? cls = some n) (hn : w.scene.definitions[n]? = some d)
    (hfree : w.scene.overrides cls Statement.members = false) {sts : List (Bool × Statement)}
    (hsts : ∀ x ∈ sts, x.2.Proper) :
    Tells caller rounds (runStatements cls sts) w n
      (Statement.allTold w.scene.settings.elementTimeout (w.scene.facts cls) d sts) := by
  induction sts generalizing w d with
  | nil => exact Tells.answered hn rfl
  | cons x rest ih =>
    obtain ⟨guarded, st⟩ := x
    have hst : st.Proper := hsts (guarded, st) List.mem_cons_self
    have hrest : ∀ x ∈ rest, x.2.Proper := fun x hx => hsts x (List.mem_cons_of_mem _ hx)
    have hstated : Tells caller rounds (statement cls st) w n _ := statement_tells hcls hn hfree hst
    have htells := guarding_tells hstated guarded
    rcases htold : st.told w.scene.settings.elementTimeout (w.scene.facts cls) d with ⟨d', taken⟩
    rw [htold] at htells
    obtain ⟨answer, j, hrun, hanswer⟩ := htells
    cases answer with
    | error fault =>
      have hstop : (taken || guarded) = false := hanswer.symm
      refine ⟨.error fault, j, ?_, ?_⟩
      · rw [runStatements, bind_eq, run_bind, hrun, andThen_error]
        simp only [Statement.allTold, htold, hstop, Bool.false_eq_true, if_false]
      · simp only [Statement.allTold, htold, hstop, Bool.false_eq_true, if_false]
        rfl
    | ok caught =>
      have hgo : (taken || guarded) = true := hanswer.symm
      -- the scene after the statement differs in the one definition only, which the
      -- members of the type, its facts and the settings do not depend on
      have htail := ih (w := { scene := w.scene.setDefinition n d', journal := j }) hcls
        (Scene.setDefinition_getElem? hn d') hfree hrest
      obtain ⟨answer', j', hrun', hanswer'⟩ := htail.thenDone fun others => caught.toList ++ others
      refine ⟨answer', j', ?_, ?_⟩
      · rw [runStatements, bind_eq, run_bind, hrun, andThen_ok]
        simp only [Statement.allTold, htold, hgo, if_true]
        rw [Scene.setDefinition_setDefinition] at hrun'
        exact hrun'
      · simp only [Statement.allTold, htold, hgo, if_true]
        exact hanswer'

end Prog

end PageObjects
