import PageObjects.Proofs.Definition.History
import PageObjects.Proofs.PageType.Opening

/-!
# What a page type has from its line

A page type starts with the open copy of the definition of the type before it in
its line, and so on back to the root.  In between, anything may be done.  Still the
definition of each type of the line says just what the hooks of the line have stated
from the root to the type, as far as it was taken.

Main definitions:

- `Statement.fact?`: what a statement says if it is taken.
- `Prog.taken`: the statements of a hook that are taken.
- `Descent`: a line of page types, with the statements that their hooks have made.

Main results:

- Theorem `Statement.allTold_reflects`: a statement adds what it says to the history, if it
  is taken, and nothing otherwise.
- Theorem `descent_definitions`: the definitions of a line, and what they keep of those
  before them.
-/

namespace PageObjects

/-! ## What statements say -/

namespace Definition

/-- A definition after something was said to it: what is taken is added to the
history, and what is not taken changes nothing. -/
def Adds (d : Definition) (h : History) (said : Option Fact) (r : Definition × Bool) : Prop :=
  (r.2 = true → r.1.Reflects (h ++ said.toList)) ∧ (r.2 = false → r.1 = d)

variable {d : Definition} {h : History}

/-- An entry adds what it says. -/
theorem declareEntry_adds (hd : d.Reflects h) (e : Entry) :
    d.Adds h e.fact? ((d.declareEntry e).definition, (d.declareEntry e).fault.isNone) := by
  unfold declareEntry
  cases henter : d.enter e with
  | error fault => exact ⟨fun htrue => absurd htrue (by simp), fun _ => rfl⟩
  | ok d' =>
    refine ⟨fun _ => ?_, fun hfalse => absurd hfalse (by simp)⟩
    have hopen := enterOpen_of_enter henter
    obtain ⟨f, hf, hreflects⟩ := hd.enterOpen hopen
    rw [hf]
    exact hreflects

/-- A name that is checked first adds what its entry says. -/
theorem declareNamed_adds (hd : d.Reflects h) (facts : TypeFacts) (what : String) (name : GivenName)
    (entry : Label → Entry) :
    d.Adds h (entry name.label).fact?
      ((d.declareNamed facts what name entry).definition, (d.declareNamed facts what name entry).fault.isNone) := by
  unfold declareNamed
  cases checkName facts d what name with
  | error fault => exact ⟨fun htrue => absurd htrue (by simp), fun _ => rfl⟩
  | ok _ => exact declareEntry_adds hd _

end Definition

namespace Statement

/-- A statement that declares one thing only. -/
def Primitive : Statement → Prop
  | .link _ | .button _ => False
  | _ => True

/-- What a statement says if it is taken; `usual` is how long to wait for an element
if nothing is said. -/
def fact? (usual : Value) : Statement → Option Fact
  | .address url => some (.address url)
  | .expectElement name timeout =>
    let timeout := timeout.getD .none
    some (.expectElement ⟨name, if timeout.isNone then usual else timeout⟩)
  | .expectTitle title => (TitleExpectation.ofValue? title).map .expectTitle
  | .binding member name body | .decorated member name body =>
    if body.isNone then none else some (.binding ⟨name, Prog.kindDeclaredBy member, body⟩)
  | .link _ | .button _ => none

variable {usual : Value} {facts : TypeFacts} {d : Definition} {h : History}

/-- A binding that is stated adds itself, if it has a body. -/
theorem bindingTold_adds (hd : d.Reflects h) (kind : BindingKind) (name body : Value) :
    d.Adds h (if body.isNone then none else some (.binding ⟨name, kind, body⟩))
      (bindingTold facts d kind name body) := by
  unfold bindingTold
  by_cases hbody : body.isNone = true
  · rw [if_pos hbody, if_pos hbody]
    exact ⟨fun _ => by simpa using hd, fun _ => rfl⟩
  · rw [if_neg hbody, if_neg hbody]
    split
    · cases kind with
      | element => exact Definition.declareNamed_adds hd facts "element" name.wordName fun n => .element n body
      | action => exact Definition.declareNamed_adds hd facts "action" name.wordName fun n => .action n body
    · exact ⟨fun htrue => absurd htrue (by simp), fun _ => rfl⟩

/-- A statement adds what it says. -/
theorem told_adds (hd : d.Reflects h) {st : Statement} (hst : st.Primitive) :
    d.Adds h (st.fact? usual) (st.told usual facts d) := by
  cases st with
  | address url => exact Definition.declareEntry_adds hd (.address url)
  | expectElement name timeout => exact Definition.declareEntry_adds hd (.expectElement name _)
  | expectTitle title => exact Definition.declareEntry_adds hd (.expectTitle title)
  | binding member name body => exact bindingTold_adds hd _ name body
  | decorated member name body => exact bindingTold_adds hd _ name body
  | link label => exact hst.elim
  | button label => exact hst.elim

/-- The statements of a hook that are taken. -/
def allTaken (usual : Value) (facts : TypeFacts) : Definition → List (Bool × Statement) → List Statement
  | _, [] => []
  | d, (guarded, st) :: rest =>
    let r := st.told usual facts d
    if r.2 then st :: allTaken usual facts r.1 rest
    else if guarded then allTaken usual facts r.1 rest else []

/-- What statements say together. -/
def history (usual : Value) (sts : List Statement) : History := sts.filterMap (fact? usual)

/-- A hook adds what its statements say that are taken. -/
theorem allTold_reflects (hd : d.Reflects h) {sts : List (Bool × Statement)} (hsts : ∀ x ∈ sts, x.2.Primitive) :
    (allTold usual facts d sts).1.Reflects (h ++ history usual (allTaken usual facts d sts)) := by
  induction sts generalizing d h with
  | nil => simpa [history, allTold, allTaken] using hd
  | cons x rest ih =>
    obtain ⟨guarded, st⟩ := x
    have hrest : ∀ x ∈ rest, x.2.Primitive := fun x hx => hsts x (List.mem_cons_of_mem _ hx)
    have hadds : d.Adds h (st.fact? usual) (st.told usual facts d) :=
      told_adds hd (hsts (guarded, st) List.mem_cons_self)
    obtain ⟨htaken, hrefused⟩ := hadds
    rcases htold : st.told usual facts d with ⟨d', taken⟩
    rw [htold] at htaken hrefused
    cases taken with
    | true =>
      have hnext := ih (htaken rfl) hrest
      simp only [allTold, allTaken, htold, Bool.true_or, if_true]
      rw [List.append_assoc] at hnext
      have hcons : history usual (st :: allTaken usual facts d' rest) =
          (st.fact? usual).toList ++ history usual (allTaken usual facts d' rest) := by
        cases hfact : st.fact? usual <;> simp [history, hfact]
      rw [hcons]
      exact hnext
    | false =>
      obtain rfl : d' = d := hrefused rfl
      cases guarded with
      | true =>
        simp only [allTold, allTaken, htold, Bool.or_true, if_true, Bool.false_eq_true, if_false]
        exact ih hd hrest
      | false =>
        simp only [allTold, allTaken, htold, Bool.or_false, Bool.false_eq_true, if_false]
        simpa [history] using hd

end Statement

namespace Prog

variable {caller : Caller} {rounds : Nat} {w : World} {cls : ClassRef} {n : Nat} {d : Definition}

/-- The statements of a hook that have an answer when the hook is run. -/
def taken (caller : Caller) (rounds : Nat) (cls : ClassRef) : List (Bool × Statement) → World → List Statement
  | [], _ => []
  | (guarded, st) :: rest, w =>
    match run caller rounds (statement cls st) w with
    | (.ok _, w') => st :: taken caller rounds cls rest w'
    | (.error _, w') => if guarded then taken caller rounds cls rest w' else []

/-- The statements that have an answer are those that are taken. -/
theorem taken_eq (hcls : w.scene.definitionOf? cls = some n) (hn : w.scene.definitions[n]? = some d)
    (hfree : w.scene.overrides cls Statement.members = false) {sts : List (Bool × Statement)}
    (hsts : ∀ x ∈ sts, x.2.Proper) :
    taken caller rounds cls sts w =
      Statement.allTaken w.scene.settings.elementTimeout (w.scene.facts cls) d sts := by
  induction sts generalizing w d with
  | nil => rfl
  | cons x rest ih =>
    obtain ⟨guarded, st⟩ := x
    have hrest : ∀ x ∈ rest, x.2.Proper := fun x hx => hsts x (List.mem_cons_of_mem _ hx)
    have hst : st.Proper := hsts (guarded, st) List.mem_cons_self
    have htells : Tells caller rounds (statement cls st) w n _ := statement_tells hcls hn hfree hst
    rcases htold : st.told w.scene.settings.elementTimeout (w.scene.facts cls) d with ⟨d', ok⟩
    rw [htold] at htells
    obtain ⟨answer, j, hrun, hanswer⟩ := htells
    have htail := ih (w := { scene := w.scene.setDefinition n d', journal := j }) hcls
      (Scene.setDefinition_getElem? hn d') hfree hrest
    cases answer with
    | error fault =>
      obtain rfl : ok = false := hanswer.symm
      simp only [taken, hrun, Statement.allTaken, htold, Bool.false_eq_true, if_false]
      rw [htail]
      rfl
    | ok v =>
      obtain rfl : ok = true := hanswer.symm
      simp only [taken, hrun, Statement.allTaken, htold, if_true]
      rw [htail]
      rfl

end Prog

/-! ## Lines of types -/

/-- A line of page types from the root, each with the statements of its hook that were
taken.  A type is added to the line by a blueprint that builds on the last one; in
between, anything may be done, as long as nobody writes to the tables of the line
from outside. -/
inductive Descent : World → List (ClassRef × List Statement) → Prop where
  | root (setting : Setting) : Descent setting.world [(rootType, [])]
  | meanwhile {w : World} {line : List (ClassRef × List Statement)} (deeds : List Deed) :
      (∀ x ∈ line, ∀ n, w.scene.definitionOf? x.1 = some n → Spares n deeds) →
      Descent w line → Descent (w.after deeds) line
  | define {w w' : World} {line : List (ClassRef × List Statement)} {base cls : ClassRef}
      {said : List Statement} {b : Blueprint} {o : Opening} {caller : Caller} {rounds : Nat}
      {caught : List Raised} :
      Descent w (line ++ [(base, said)]) → b.Opens w o → o.type.lineage[1]? = some base →
      (∀ x ∈ b.statements, x.2.Primitive) →
      Prog.run caller rounds b.define w = (.ok (cls, caught), w') →
      Descent w' (line ++ [(base, said)] ++
        [(cls, Prog.taken caller rounds o.cls b.statements (w.opened o))])

/-- What the hooks of a line have said, from the root on. -/
def lineHistory (usual : Value) (line : List (ClassRef × List Statement)) : History :=
  Statement.history usual (line.flatMap (·.2))

theorem lineHistory_append (usual : Value) (line line' : List (ClassRef × List Statement)) :
    lineHistory usual (line ++ line') = lineHistory usual line ++ lineHistory usual line' := by
  simp [lineHistory, Statement.history]

/-- One type says what its own hook says. -/
theorem lineHistory_singleton (usual : Value) (x : ClassRef × List Statement) :
    lineHistory usual [x] = Statement.history usual x.2 := by
  simp [lineHistory]

namespace Descent

variable {w : World} {line : List (ClassRef × List Statement)}

/-- The type that is last in the line so far has a definition that says what the
hooks so far have said. -/
def Holds (w : World) (upper : List (ClassRef × List Statement)) (x : ClassRef × List Statement) : Prop :=
  ∃ n d, w.scene.Finished x.1 n d ∧ d.Reflects (lineHistory w.scene.settings.elementTimeout (upper ++ [x]))

/-- What comes first in a line with one more type comes first without it, or is all of it. -/
theorem prefix_of_concat {α : Type} {l l' : List α} {x y : α} (h : l ++ [x] <+: l' ++ [y]) :
    l ++ [x] <+: l' ∨ l = l' ∧ x = y := by
  rcases List.prefix_concat_iff.mp h with heq | hprefix
  · obtain ⟨hl, hx⟩ := List.append_inj' heq rfl
    exact .inr ⟨hl, List.singleton_inj.mp hx⟩
  · exact .inl hprefix

/-- The root is finished, and says nothing. -/
theorem holds_root (setting : Setting) : Holds setting.world [] (rootType, []) :=
  ⟨0, _, setting.root_finished, (Definition.Reflects.fresh (.ofText PageType.rootName)).lock⟩

/-- A type that is added to a line says what its hook says after all the others. -/
theorem holds_define {w w' : World} {base cls : ClassRef} {said : List Statement} {b : Blueprint} {o : Opening}
    {caller : Caller} {rounds : Nat} {caught : List Raised} (hbase : Holds w line (base, said))
    (hb : b.Opens w o) (hparent : o.type.lineage[1]? = some base) (hprimitive : ∀ x ∈ b.statements, x.2.Primitive)
    (hrun : Prog.run caller rounds b.define w = (.ok (cls, caught), w')) :
    Holds w' (line ++ [(base, said)]) (cls, Prog.taken caller rounds o.cls b.statements (w.opened o)) := by
  obtain ⟨n, d, hfinished, hreflects⟩ := hbase
  obtain ⟨label, hstart⟩ := hb.start_eq hparent hfinished.definition?
  refine ⟨_, _, hb.define_finished hrun, ?_⟩
  rw [hb.define_settings hrun, Prog.taken_eq (Opening.owns hb.opening).definitionOf? (Opening.definition w o)
    hb.members hb.proper]
  have hopen : o.start.Reflects (lineHistory w.scene.settings.elementTimeout (line ++ [(base, said)])) := by
    rw [hstart]
    exact hreflects.derive label
  rw [lineHistory_append, lineHistory_singleton]
  exact (Statement.allTold_reflects hopen hprimitive).lock

/-- Every type of a line is finished, and says what the hooks up to it have said. -/
theorem holds (h : Descent w line) : ∀ upper x, upper ++ [x] <+: line → Holds w upper x := by
  induction h with
  | root setting =>
    intro upper x hx
    have hroot : upper ++ [x] <+: [] ++ [(rootType, [])] := hx
    rcases prefix_of_concat hroot with hnil | ⟨rfl, rfl⟩
    · exact absurd hnil (by simp)
    · exact holds_root setting
  | @meanwhile w line deeds hspares _ ih =>
    intro upper x hx
    obtain ⟨n, d, hfinished, hreflects⟩ := ih upper x hx
    have hmem : x ∈ line := hx.subset (List.mem_append_right _ (List.mem_singleton_self x))
    refine ⟨n, d, World.after_finished hfinished (hspares x hmem n hfinished.definitionOf?), ?_⟩
    rw [World.after_settings]
    exact hreflects
  | define _ hb hparent hprimitive hrun ih =>
    intro upper x hx
    rcases prefix_of_concat hx with hupper | ⟨rfl, rfl⟩
    · obtain ⟨n, d, hfinished, hreflects⟩ := ih upper x hupper
      refine ⟨n, d, hb.define_keeps hrun hfinished, ?_⟩
      rw [hb.define_settings hrun]
      exact hreflects
    · exact holds_define (ih _ _ List.prefix_rfl) hb hparent hprimitive hrun

end Descent

/-! ## The definitions of a line -/

/-- The definitions of a line of page types.  The definition of each type is what the
statements come to that were taken in the line from the root to the type: its names in
the order in which they came first, each once; under each name the last action, or else
the one element; and the last address, element and title that were said.  So the names
of a type come first in what builds on it, stay bound, and an action stays an action. -/
theorem descent_definitions {w : World} {line : List (ClassRef × List Statement)} (h : Descent w line) :
    (∀ upper cls said, upper ++ [(cls, said)] <+: line →
      ∃ d, w.scene.definition? cls = some d ∧
        let said := lineHistory w.scene.settings.elementTimeout (upper ++ [(cls, said)])
        (d.keys = said.keys ∧ d.keys.Nodup) ∧
        (∀ k, d.get? k = said.binding? k ∧ (said.declaredAs .element k).length ≤ 1) ∧
        d.address = said.address ∧ d.expectedElement = said.expectedElement ∧
        d.expectedTitle = said.expectedTitle) ∧
    ∀ upper cls said between cls' said',
      upper ++ [(cls, said)] ++ between ++ [(cls', said')] <+: line → ∀ d d',
        w.scene.definition? cls = some d → w.scene.definition? cls' = some d' →
        d.keys <+: d'.keys ∧
        ∀ k b, d.get? k = some b → ∃ b', d'.get? k = some b' ∧ (b.kind = .action → b'.kind = .action) := by
  have hget : ∀ {d : Definition} {said : History}, d.Reflects said → ∀ k, d.get? k = said.binding? k := by
    intro d said hd k
    rw [Definition.get?, hd.slot k]
    cases said.binding? k <;> rfl
  constructor
  · intro upper cls said hprefix
    obtain ⟨n, d, hfinished, hd⟩ := h.holds upper (cls, said) hprefix
    refine ⟨d, hfinished.definition?, ⟨hd.keys, ?_⟩, fun k => ⟨hget hd k, hd.single k⟩, hd.address,
      hd.expectedElement, hd.expectedTitle⟩
    rw [hd.keys]
    exact History.nodup_keys _
  · intro upper cls said between cls' said' hprefix d d' hd hd'
    have hupper : upper ++ [(cls, said)] <+: line := by
      rw [List.append_assoc, List.append_assoc] at hprefix
      exact (List.prefix_append_right_inj _ |>.mpr (List.prefix_append _ _)).trans hprefix
    obtain ⟨n, x, hfinished, hx⟩ := h.holds upper (cls, said) hupper
    obtain ⟨n', x', hfinished', hx'⟩ := h.holds _ (cls', said') hprefix
    obtain rfl := Option.some.inj (hd.symm.trans hfinished.definition?)
    obtain rfl := Option.some.inj (hd'.symm.trans hfinished'.definition?)
    rw [List.append_assoc _ between, lineHistory_append] at hx'
    constructor
    · rw [hx.keys, hx'.keys]
      exact History.keys_prefix _ _
    · intro k b hb
      rw [hget hx] at hb
      rw [hget hx']
      exact History.binding?_append _ hb

/-! ## A line of two types -/

namespace Blueprint

/-- A type with an address and an element, which is declared twice. -/
def searchBase : Blueprint where
  draft := { name := .text "Base", bases := [], hook := some (.onType []) }
  statements :=
    [(false, .address (.text "/")), (false, .binding "element" (.text "search") (.function 0)),
     (true, .binding "element" (.text "search") (.function 1))]

/-- A type that builds on it, with an action in the place of the element. -/
def searchChild : Blueprint where
  draft := { name := .text "Child", bases := [⟨1, "Base"⟩], hook := some (.onType []) }
  statements := [(false, .binding "action" (.text "search") (.function 2))]

/-- A type with a hook, as it is before the hook is run. -/
def plainOpening (id : Nat) (name : String) (above : List ClassRef) (origin : Definition) : Opening where
  cls := ⟨id, name⟩
  start := origin.derive (.ofText name)
  type :=
    { name, fullName := name, bases := above.take 1, lineage := ⟨id, name⟩ :: above
      members := [("declare", .hook ⟨id, name⟩), ("__module__", .text "__main__"), ("__doc__", .none)]
      hook := some (.onType []), definition := some id }

/-- The first of both types before its hook is run. -/
def searchOpening : Opening := plainOpening 1 "Base" [rootType] { pageName := .ofText PageType.rootName }

/-- What its hook makes. -/
def searchDefinition : Definition where
  pageName := .ofText "Base"
  address := .text "/"
  table := [([.text "search"], ⟨.text "search", .binding ⟨.text "search", .element, .function 0⟩⟩)]
  everElements := [.text "search"]

/-- The scene after the first of both types. -/
def searchScene : Scene := (({} : Setting).world.opened searchOpening).scene.setDefinition 1 searchDefinition.lock

/-- The second of both types before its hook is run. -/
def searchChildOpening : Opening := plainOpening 2 "Child" [⟨1, "Base"⟩, rootType] searchDefinition

/-- A table with one binding under its own name. -/
theorem owned_single (b : Binding) : ∀ e ∈ [(b.name.identity, Row.mk b.name (.binding b))], Definition.Owned e := by
  intro e he
  obtain rfl := List.mem_singleton.mp he
  exact ⟨rfl, b, rfl, rfl⟩

/-- The first type opens in the world that scripts start in, and is defined there. -/
theorem searchBase_opens : searchBase.Opens ({} : Setting).world searchOpening := by
  refine ⟨?_, rfl, rfl, rfl, .inl rfl, by simp [searchBase, Statement.Proper, Value.quiet_text]⟩
  rw [Draft.opening?, show Prog.typeName searchBase.draft.name = .ok "Base" by cbv]
  rfl

theorem searchBase_defined (caller : Caller) (rounds : Nat) :
    ∃ caught j, Prog.run caller rounds searchBase.define ({} : Setting).world =
      (.ok (⟨1, "Base"⟩, caught), { scene := searchScene, journal := j }) :=
  searchBase_opens.defined caller rounds rfl (owned_single ⟨.text "search", .element, .function 0⟩) rfl

/-- The second type opens after the first, and is defined there. -/
theorem searchChild_opens (j : Log.Journal) :
    searchChild.Opens { scene := searchScene, journal := j } searchChildOpening := by
  refine ⟨?_, rfl, rfl, rfl, .inl rfl, by simp [searchChild, Statement.Proper, Value.quiet_text]⟩
  rw [Draft.opening?, show Prog.typeName searchChild.draft.name = .ok "Child" by cbv]
  rfl

/-- What its hook makes of the definition that it starts from. -/
def searchChildDefinition : Definition :=
  (searchDefinition.derive (.ofText "Child")).addAction (.ofText "search") (.function 2)

/-- The scene after both types. -/
def searchChildScene : Scene :=
  ((searchScene.addDefinition searchChildOpening.start).2.addPageType searchChildOpening.type).setDefinition 2
    searchChildDefinition.lock

theorem searchChild_defined (caller : Caller) (rounds : Nat) (j : Log.Journal) :
    ∃ caught j', Prog.run caller rounds searchChild.define { scene := searchScene, journal := j } =
      (.ok (⟨2, "Child"⟩, caught), { scene := searchChildScene, journal := j' }) :=
  (searchChild_opens j).defined caller rounds rfl (owned_single ⟨.text "search", .action, .function 2⟩) rfl

/-- The root and both types, with what their hooks have said. -/
def searchLine : List (ClassRef × List Statement) :=
  [(rootType, []),
   (⟨1, "Base"⟩, [.address (.text "/"), .binding "element" (.text "search") (.function 0)]),
   (⟨2, "Child"⟩, [.binding "action" (.text "search") (.function 2)])]

/-- They are a line. -/
theorem searchLine_descent : ∃ j, Descent { scene := searchChildScene, journal := j } searchLine := by
  obtain ⟨caught, j, hbaseRun⟩ := searchBase_defined (callAt usualRounds usualDepth) usualRounds
  obtain ⟨caught', j', hchildRun⟩ := searchChild_defined (callAt usualRounds usualDepth) usualRounds j
  have hbaseLine : Descent _ ([] ++ [(rootType, [])] ++ [_]) :=
    (Descent.root {}).define searchBase_opens rfl (by simp [searchBase, Statement.Primitive]) hbaseRun
  rw [Prog.taken_eq (n := 1) (d := searchOpening.start) rfl rfl rfl searchBase_opens.proper] at hbaseLine
  have hline : Descent _ ([(rootType, [])] ++ [_] ++ [_]) :=
    hbaseLine.define (searchChild_opens j) rfl (by simp [searchChild, Statement.Primitive]) hchildRun
  rw [Prog.taken_eq (n := 2) (d := searchChildOpening.start) rfl rfl rfl (searchChild_opens j).proper] at hline
  exact ⟨j', hline⟩

end Blueprint

open Blueprint in
/-- The action that the second type declares stands in the place of the element. -/
theorem searchChild_definition :
    ∃ w d, Descent w searchLine ∧ w.scene.definition? ⟨2, "Child"⟩ = some d ∧
      d.keys = [[.text "search"]] ∧ d.get? [.text "search"] = some ⟨.text "search", .action, .function 2⟩ ∧
      d.address = .text "/" := by
  obtain ⟨j, hline⟩ := searchLine_descent
  obtain ⟨d, hd, ⟨hkeys, -⟩, hget, haddress, -, -⟩ := (descent_definitions hline).1
    [(rootType, []), (⟨1, "Base"⟩, [.address (.text "/"), .binding "element" (.text "search") (.function 0)])]
    _ _ List.prefix_rfl
  refine ⟨_, d, hline, hd, ?_, ?_, ?_⟩
  · rw [hkeys]
    rfl
  · rw [(hget _).1]
    rfl
  · rw [haddress]
    rfl

end PageObjects
