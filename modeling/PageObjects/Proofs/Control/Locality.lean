import PageObjects.Proofs.Control.Beside
import PageObjects.Proofs.Control.Failing

/-!
# What a fit has to do with

A fit has to do with the element that is fitted, and with the options of that element.  It
reads and uses nothing else on the page, so it comes to the same wherever these are the same,
and leaves everything else as it is.

Main definitions:

- `Scene.reach`: the elements that a fit has to do with.
- `World.Fillable`: what is fitted, and to what.
- `Prog.LocalTo`: programs that have to do with some elements only.

Main results:

- Theorem `Prog.twins_fitControl`: the fits of controls beside each other.
- Theorem `Prog.twins_suitingKind`: the kind of control that suits an element.
- Theorem `Prog.localTo_fit`: a fit is local.
-/

namespace PageObjects

open Prog

/-! ## Controls beside each other -/

/-- A control wraps an element, and is fitted as controls of its kind are. -/
structure Scene.Wraps (s : Scene) (i : Nat) (n : String) : Prop where
  wrapped : s.field? i wrappedField = some (.element n)
  fit : s.field? i fittingMember = none
  writable : s.field? i writableMember = none

/-- What a control keeps stays as it is. -/
theorem World.Since.field? {w w' : World} (h : w.Since w') {i : Nat} {n : String} (hi : w.scene.Wraps i n)
    (name : String) : w'.scene.field? i name = w.scene.field? i name :=
  Scene.field?_of_prefix h.instances (Scene.lt_of_field? hi.wrapped) name

/-- A control wraps its element all the time. -/
theorem World.Since.wraps {w w' : World} (h : w.Since w') {i : Nat} {n : String} (hi : w.scene.Wraps i n) :
    w'.scene.Wraps i n :=
  ⟨(h.field? hi _).trans hi.wrapped, (h.field? hi _).trans hi.fit, (h.field? hi _).trans hi.writable⟩

/-- A world with one more control. -/
def World.withControl (w : World) (n : String) : World :=
  { w with scene := { w.scene with instances := w.scene.instances ++ [{ fields := [(wrappedField, .element n)] }] } }

theorem World.since_withControl (w : World) (n : String) : w.Since (w.withControl n) :=
  ⟨rfl, List.prefix_append _ _, rfl⟩

theorem World.fieldsOf_withControl (w : World) (n : String) :
    (w.withControl n).scene.fieldsOf w.scene.instances.length = [(wrappedField, .element n)] :=
  w.fieldsOf_addInstance { fields := [(wrappedField, .element n)] }

theorem World.withControl_wraps (w : World) (n : String) :
    (w.withControl n).scene.Wraps w.scene.instances.length n := by
  constructor <;> rw [Scene.field?, fieldsOf_withControl] <;> rfl

/-- Two controls of one element, which say of which kind they are in the same way all the time. -/
structure World.Paired (caller : Caller) (rounds : Nat) (w₀ a b : World) (n : String) (i j : Nat) : Prop where
  left : a.scene.Wraps i n
  right : b.scene.Wraps j n
  kind : b.scene.field? j "kind" = a.scene.field? i "kind"
  shown : ∀ v, a.scene.field? i "kind" = some v → Log.Context.Standing caller rounds w₀ [("kind", v)]

/-- New controls are of the kinds that they are made as. -/
theorem World.Paired.fresh (caller : Caller) (rounds : Nat) (w₀ a b : World) (n : String) :
    World.Paired caller rounds w₀ (a.withControl n) (b.withControl n) n a.scene.instances.length
      b.scene.instances.length := by
  have hkind : ∀ w : World, (w.withControl n).scene.field? w.scene.instances.length "kind" = none := fun w => by
    rw [Scene.field?, fieldsOf_withControl]
    rfl
  refine ⟨a.withControl_wraps n, b.withControl_wraps n, (hkind b).trans (hkind a).symm, fun v hv => ?_⟩
  rw [hkind a] at hv
  cases hv

namespace Prog

variable {caller : Caller} {rounds : Nat} {w₀ a b : World} {n : String} {names : List String} {i j : Nat} {v : Value}

/-- Both programs find the element that their controls wrap. -/
theorem twins_wrappedIn (hij : World.Paired caller rounds w₀ a b n i j) :
    Twins caller rounds (World.Beside caller rounds w₀ n names a b) (wrappedIn i) (wrappedIn j) (· = .element n) := by
  intro w w' hw
  refine ⟨_, w, w', run_wrappedIn (hw.left.wraps hij.left).wrapped, run_wrappedIn (hw.right.wraps hij.right).wrapped,
    hw, ?_⟩
  rintro _ ⟨⟩
  rfl

/-- Both programs log that their control is being fitted. -/
theorem twins_fitting (hij : World.Paired caller rounds w₀ a b n i j) (message : String) (kind : ControlKind)
    {context : Log.Context} (h : context.Standing caller rounds w₀) :
    Twins caller rounds (World.Beside caller rounds w₀ n names a b) (fitting message i kind context)
      (fitting message j kind context) fun _ => True := by
  have hshown : Log.Context.Standing caller rounds w₀
      [("kind", (a.scene.field? i "kind").getD (.text kind.word))] := by
    cases hkind : a.scene.field? i "kind" with
    | none => exact Log.Context.Plain.standing (List.forall_mem_singleton.mpr rfl)
    | some v => exact hij.shown v hkind
  refine Twins.bind (twins_view (P := (· = (a.scene.field? i "kind").getD (.text kind.word))) fun w w' hw => ?_) ?_
  · rw [hw.left.field? hij.left, hw.right.field? hij.right, hij.kind]
    exact ⟨rfl, rfl⟩
  · rintro _ rfl
    exact twins_log fun hincluded => List.forall_mem_cons.mpr ⟨hshown hincluded _ List.mem_cons_self, h hincluded⟩

/-- Both programs refuse to write. -/
theorem twins_refuseWriting (hij : World.Paired caller rounds w₀ a b n i j) (kind : ControlKind) :
    Twins caller rounds (World.Beside caller rounds w₀ n names a b) (refuseWriting i kind) (refuseWriting j kind)
      fun _ => True := by
  refine Twins.bind (P := fun _ => True) (fun w w' hw => ?_) fun _ _ => twins_fail _
  exact ⟨_, w, w', run_inspected_control (hw.left.wraps hij.left).wrapped kind,
    run_inspected_control (hw.right.wraps hij.right).wrapped kind, hw, fun _ _ => trivial⟩

/-- Both programs read a text that an element gives in lower case. -/
theorem twins_lowered (instead : String) (h : (truth v).Standing caller rounds w₀) :
    Twins caller rounds (World.Beside caller rounds w₀ n names a b) (lowered instead v) (lowered instead v)
      fun _ => True := by
  refine Twins.bind h.twins fun _ _ => Twins.ite ?_ (twins_done trivial)
  split
  · exact twins_done trivial
  · exact twins_fail _

/-! ## The three kinds of fields -/

/-- Both programs ask whether their field may be written to. -/
theorem twins_assertWritable (hn : n ∈ names) (hij : World.Paired caller rounds w₀ a b n i j)
    (kind : ControlKind) :
    Twins caller rounds (World.Beside caller rounds w₀ n names a b) (assertWritable i kind) (assertWritable j kind)
      fun _ => True := by
  refine Twins.bind (twins_wrappedIn hij) ?_
  rintro _ rfl
  refine Twins.bind (P := fun v => (truth v).Standing caller rounds w₀)
    (twins_callMember (u := .isEnabled) hn (by decide) (by decide) rfl ?_) fun enabled henabled => ?_
  · rintro e he _ ⟨⟩
    exact he.enabled
  refine Twins.bind henabled.twins fun enabled _ => Twins.ite ?_ (twins_refuseWriting hij kind)
  refine Twins.bind (P := fun _ => True) (twins_callMember (u := .getAttribute (.text "readonly")) hn (by decide)
    (by decide) rfl fun _ _ _ _ => trivial) fun readonly _ => ?_
  refine Twins.bind (P := fun _ => True) (twins_view fun w w' hw => ⟨?_, trivial⟩) fun allowed _ =>
    Twins.ite (twins_done trivial) (twins_refuseWriting hij kind)
  rw [hw.since.cells, hw.since'.cells]

/-- Both programs do what is usual in the place of a member, if their controls keep nothing there. -/
theorem twins_byMember {name : String} {args : List Value} {p q : Prog Unit} {P : Unit → Prop}
    (hleft : ∀ w, a.Since w → w.scene.field? i name = none) (hright : ∀ w, b.Since w → w.scene.field? j name = none)
    (h : Twins caller rounds (World.Beside caller rounds w₀ n names a b) p q P) :
    Twins caller rounds (World.Beside caller rounds w₀ n names a b) (byMember i name args p) (byMember j name args q)
      P := by
  refine Twins.bind (P := (· = none)) (twins_view fun w w' hw => ?_) ?_
  · rw [hleft w hw.left.toSince, hright w' hw.right.toSince]
    exact ⟨rfl, rfl⟩
  · rintro _ rfl
    exact h

/-- Both programs replace the text of their field. -/
theorem twins_fitText (hn : n ∈ names) (hij : World.Paired caller rounds w₀ a b n i j)
    (hv : (shown v).Standing caller rounds w₀) :
    Twins caller rounds (World.Beside caller rounds w₀ n names a b) (fitText i v) (fitText j v) fun _ => True := by
  refine Twins.bind (twins_byMember (fun w hw => (hw.wraps hij.left).writable)
    (fun w hw => (hw.wraps hij.right).writable) (twins_assertWritable hn hij .textField)) fun _ _ => ?_
  refine Twins.bind hv.twins fun text _ => ?_
  refine Twins.bind (twins_fitting hij _ _ (Log.Context.Plain.standing (List.forall_mem_singleton.mpr rfl))) fun _ _ => ?_
  refine Twins.bind (twins_wrappedIn hij) ?_
  rintro _ rfl
  refine Twins.bind (P := fun _ => True) (twins_callMember (u := .clear) hn (by decide) (by decide) rfl
    fun _ _ _ _ => trivial) fun _ _ => ?_
  refine Twins.bind (twins_wrappedIn hij) ?_
  rintro _ rfl
  rw [attributeOf_member n (by decide) (by decide)]
  refine Twins.bind (twins_done (P := (· = .member (.element n) "send_keys")) rfl) ?_
  rintro _ rfl
  refine Twins.bind hv.twins fun typed _ => ?_
  rw [callValue_member (u := .sendKeys [.text typed]) n rfl]
  exact Twins.bind (P := fun _ => True) (twins_use hn (.sendKeys [.text typed]) fun _ _ _ _ => trivial)
    fun _ _ => twins_done trivial

/-- Both programs click one of the elements, and do no more. -/
theorem twins_clicking {m : String} (hm : m ∈ names) :
    Twins caller rounds (World.Beside caller rounds w₀ n names a b)
      ((callMember (.element m) "click" []).bind fun _ => done ())
      ((callMember (.element m) "click" []).bind fun _ => done ()) fun _ => True :=
  Twins.bind (P := fun _ => True) (twins_callMember (u := .click) hm (by decide) (by decide) rfl
    fun _ _ _ _ => trivial) fun _ _ => twins_done trivial

/-- Both programs find the state that a value stands for. -/
theorem twins_wantedState (hv : (inspected v).Standing caller rounds w₀) :
    Twins caller rounds (World.Beside caller rounds w₀ n names a b) (wantedState v) (wantedState v)
      fun _ => True := by
  unfold wantedState
  split
  · exact twins_done trivial
  · exact Twins.bind hv.twins fun _ _ => twins_fail _

/-- Both programs turn their check box over unless it is in the wanted state. -/
theorem twins_fitCheckBox (hn : n ∈ names) (hij : World.Paired caller rounds w₀ a b n i j)
    (hv : (inspected v).Standing caller rounds w₀) :
    Twins caller rounds (World.Beside caller rounds w₀ n names a b) (fitCheckBox i v) (fitCheckBox j v)
      fun _ => True := by
  refine Twins.bind (twins_wantedState hv) fun wanted _ => ?_
  refine Twins.bind (twins_wrappedIn hij) ?_
  rintro _ rfl
  refine Twins.bind (P := fun _ => True) (twins_callMember (u := .isSelected) hn (by decide) (by decide) rfl
    fun _ _ _ _ => trivial) fun selected _ => ?_
  refine Twins.bind (P := fun _ => True) (twins_view fun w w' hw => ⟨?_, trivial⟩) fun reached _ =>
    Twins.ite (twins_done trivial) ?_
  · rw [hw.since.cells, hw.since'.cells]
  refine Twins.bind (twins_fitting hij _ _ (Log.Context.Plain.standing (List.forall_mem_singleton.mpr rfl))) fun _ _ => ?_
  refine Twins.bind (twins_wrappedIn hij) ?_
  rintro _ rfl
  exact twins_clicking hn

/-- Both programs choose their radio button unless it is chosen. -/
theorem twins_fitRadioButton (hn : n ∈ names) (hij : World.Paired caller rounds w₀ a b n i j)
    (hv : (inspected v).Standing caller rounds w₀) :
    Twins caller rounds (World.Beside caller rounds w₀ n names a b) (fitRadioButton i v) (fitRadioButton j v)
      fun _ => True := by
  refine Twins.bind (twins_wantedState hv) fun wanted _ => ?_
  cases wanted with
  | clear => exact twins_fail _
  | set =>
    refine Twins.bind (twins_wrappedIn hij) ?_
    rintro _ rfl
    refine Twins.bind (P := fun v => (truth v).Standing caller rounds w₀)
      (twins_callMember (u := .isSelected) hn (by decide) (by decide) rfl ?_) fun selected hselected => ?_
    · rintro e he _ ⟨⟩
      exact he.selected
    refine Twins.bind hselected.twins fun chosen _ => Twins.ite (twins_done trivial) ?_
    refine Twins.bind (twins_fitting hij _ _ (Log.Context.Plain.standing fun _ he => nomatch he)) fun _ _ => ?_
    refine Twins.bind (twins_wrappedIn hij) ?_
    rintro _ rfl
    exact twins_clicking hn

/-! ## Lists of choices -/

/-- Both programs find what variables hold that are named. -/
theorem twins_namedValues {vs : List Value}
    (h : ∀ v ∈ vs, ∀ held, w₀.scene.readNamed v = .ok held → ∃ m ∈ names, held = .element m) :
    Twins caller rounds (World.Beside caller rounds w₀ n names a b) (namedValues vs) (namedValues vs)
      fun held => ∀ o ∈ held, ∃ m ∈ names, o = .element m := by
  induction vs with
  | nil => exact twins_done fun _ ho => nomatch ho
  | cons v vs ih =>
    refine Twins.bind (P := (· = w₀.scene.readNamed v)) (twins_view fun w w' hw => ?_) ?_
    · rw [hw.since.readNamed, hw.since'.readNamed]
      exact ⟨rfl, rfl⟩
    rintro _ rfl
    refine Twins.bind (P := fun first => ∃ m ∈ names, first = .element m) ?_ fun first hfirst => ?_
    · cases hheld : w₀.scene.readNamed v with
      | error r => exact twins_fail r
      | ok held => exact twins_done (h v List.mem_cons_self held hheld)
    · refine Twins.bind (ih fun v hv => h v (List.mem_cons_of_mem _ hv)) fun others hothers => ?_
      exact twins_done (List.forall_mem_cons.mpr ⟨hfirst, hothers⟩)

/-- Both programs find the options of their list of choices. -/
theorem twins_optionsOf (hn : n ∈ names) :
    Twins caller rounds (World.Beside caller rounds w₀ n names a b) (optionsOf (.element n)) (optionsOf (.element n))
      fun options => ∀ o ∈ options, ∃ m ∈ names, o = .element m := by
  refine Twins.bind (P := fun named => named.Lists w₀ names) ?_ fun named hnamed => ?_
  · refine Twins.bind (P := fun field => ∀ v, field = some v → v.Lists w₀ names) (twins_view fun w w' hw => ?_)
      fun field hfield => ?_
    · rw [hw.same n hn]
      refine ⟨rfl, fun v hv => ?_⟩
      obtain ⟨e, he, hfield⟩ := Option.bind_eq_some_iff.mp hv
      exact hw.offers e he v hfield
    · rw [show Scene.plainAttribute? (.element n) "options" = none from rfl, Option.or_none]
      exact twins_ofOption _ hfield
  · refine Twins.bind (P := (· = w₀.scene.members? named)) (twins_view fun w w' hw => ?_) ?_
    · rw [hnamed.members w hw.since, hnamed.members w' hw.since']
      exact ⟨rfl, rfl⟩
    rintro _ rfl
    exact Twins.bind (P := fun vs => w₀.scene.members? named = some vs) (twins_ofOption _ fun _ h => h)
      fun vs hvs => twins_namedValues (hnamed.elements vs hvs)

/-- Both programs search among their options by a pattern. -/
theorem twins_chooseMatching (source : String) (pattern : Pattern.Compiled) {options : List Value}
    (h : ∀ o ∈ options, ∃ m ∈ names, o = .element m) :
    Twins caller rounds (World.Beside caller rounds w₀ n names a b) (chooseMatching source pattern options)
      (chooseMatching source pattern options) fun _ => True := by
  induction options with
  | nil => exact twins_fail _
  | cons o options ih =>
    obtain ⟨m, hm, rfl⟩ := h o List.mem_cons_self
    refine Twins.bind (P := fun _ => True) (twins_use hm .text fun _ _ _ _ => trivial) fun text _ => ?_
    refine Twins.bind (P := fun _ => True) (twins_ofOption _ fun _ _ => trivial) fun text _ => ?_
    refine Twins.bind (twins_ofFault _) fun found _ => ?_
    refine Twins.ite ?_ (ih fun x hx => h x (List.mem_cons_of_mem _ hx))
    refine Twins.bind (P := fun v => (truth v).Standing caller rounds w₀)
      (twins_callMember (u := .isSelected) hm (by decide) (by decide) rfl ?_) fun selected hselected => ?_
    · rintro e he _ ⟨⟩
      exact he.selected
    · exact Twins.bind hselected.twins fun chosen _ => Twins.ite (twins_done trivial) (twins_clicking hm)

/-- Both programs search among their options by a text. -/
theorem twins_chooseTexted (hv : (shown v).Standing caller rounds w₀) {options : List Value}
    (h : ∀ o ∈ options, ∃ m ∈ names, o = .element m) :
    Twins caller rounds (World.Beside caller rounds w₀ n names a b) (chooseTexted v options) (chooseTexted v options)
      fun _ => True := by
  induction options with
  | nil => exact Twins.bind hv.twins fun _ _ => twins_fail _
  | cons o options ih =>
    obtain ⟨m, hm, rfl⟩ := h o List.mem_cons_self
    refine Twins.bind (P := fun _ => True) (twins_use hm .text fun _ _ _ _ => trivial) fun text _ => ?_
    refine Twins.bind (P := fun _ => True) (twins_view fun w w' hw => ⟨?_, trivial⟩) fun same _ =>
      Twins.ite (twins_clicking hm) (ih fun x hx => h x (List.mem_cons_of_mem _ hx))
    rw [hw.since.cells, hw.since'.cells]

/-- Both programs choose an option of their list of choices. -/
theorem twins_fitChoice (hn : n ∈ names) (hij : World.Paired caller rounds w₀ a b n i j)
    (hv : (shown v).Standing caller rounds w₀) (hlogged : Log.Context.Standing caller rounds w₀ [("text", v)]) :
    Twins caller rounds (World.Beside caller rounds w₀ n names a b) (fitChoice i v) (fitChoice j v) fun _ => True := by
  have htexted : ∀ v, (shown v).Standing caller rounds w₀ → Log.Context.Standing caller rounds w₀ [("text", v)] →
      Twins caller rounds (World.Beside caller rounds w₀ n names a b)
        ((fitting "select by text" i .selectList [("text", v)]).bind fun _ =>
          (optionsOf (.element n)).bind fun options => chooseTexted v options)
        ((fitting "select by text" j .selectList [("text", v)]).bind fun _ =>
          (optionsOf (.element n)).bind fun options => chooseTexted v options) fun _ => True := by
    intro v hv hlogged
    exact Twins.bind (twins_fitting hij _ _ hlogged) fun _ _ =>
      Twins.bind (twins_optionsOf hn) fun _ => twins_chooseTexted hv
  refine Twins.bind (twins_wrappedIn hij) ?_
  rintro _ rfl
  refine Twins.bind (P := fun _ => True) (twins_use hn .tagName fun _ _ _ _ => trivial) fun tag _ => ?_
  split
  · exact twins_fail _
  · refine Twins.ite ?_ (twins_fail _)
    split
    · rename_i source
      refine Twins.bind (twins_fitting hij _ _ (Log.Context.Plain.standing (List.forall_mem_singleton.mpr rfl))) fun _ _ => ?_
      split
      · exact Twins.bind (twins_optionsOf hn) fun _ => twins_chooseMatching source _
      · exact twins_fail _
    · exact htexted _ hv hlogged

/-! ## Controls and elements -/

/-- Both programs fit their control. -/
theorem twins_fitControl (hn : n ∈ names) (hij : World.Paired caller rounds w₀ a b n i j) (kind : ControlKind)
    (hshown : (shown v).Standing caller rounds w₀) (hinspected : (inspected v).Standing caller rounds w₀)
    (hlogged : Log.Context.Standing caller rounds w₀ [("text", v)]) :
    Twins caller rounds (World.Beside caller rounds w₀ n names a b) (fitControl i kind v) (fitControl j kind v)
      fun _ => True := by
  cases kind with
  | control => exact twins_fail _
  | textField => exact Twins.ite (twins_done trivial) (twins_fitText hn hij hshown)
  | selectList => exact Twins.ite (twins_done trivial) (twins_fitChoice hn hij hshown hlogged)
  | checkBox => exact Twins.ite (twins_done trivial) (twins_fitCheckBox hn hij hinspected)
  | radioButton => exact Twins.ite (twins_done trivial) (twins_fitRadioButton hn hij hinspected)

/-- Both programs fit their control by its member. -/
theorem twins_fitByMember (hn : n ∈ names) (hij : World.Paired caller rounds w₀ a b n i j) (kind : ControlKind)
    (hshown : (shown v).Standing caller rounds w₀) (hinspected : (inspected v).Standing caller rounds w₀)
    (hlogged : Log.Context.Standing caller rounds w₀ [("text", v)]) :
    Twins caller rounds (World.Beside caller rounds w₀ n names a b) (fitByMember i kind v) (fitByMember j kind v)
      fun _ => True := by
  exact twins_byMember (fun w hw => (hw.wraps hij.left).fit) (fun w hw => (hw.wraps hij.right).fit)
    (twins_fitControl hn hij kind hshown hinspected hlogged)

/-- The kind of control that suits an element. -/
def suitingKind (v : Value) : Prog ControlKind := do
  let tag ← lowered "" (← attributeOf "tag_name" v)
  if tag = "select" then pure .selectList
  else if tag = "input" then do
    let type ← lowered "text" (← callMember v "get_attribute" [.text "type"])
    pure (inputKind type)
  else pure .textField

/-- The control of an element is one of the kind that suits it. -/
theorem editable_element (n : String) :
    editable (.element n) = (suitingKind (.element n)).bind fun kind => makeControl kind (.element n) := by
  simp only [editable, suitingKind, bind_eq, bind_assoc]
  refine congrArg (Prog.bind _) (funext fun tag => congrArg (Prog.bind _) (funext fun word => ?_))
  split
  · rfl
  · split
    · simp only [bind_assoc]
      rfl
    · rfl

/-- Both programs find the kind of control that suits the element. -/
theorem twins_suitingKind (hn : n ∈ names) :
    Twins caller rounds (World.Beside caller rounds w₀ n names a b) (suitingKind (.element n))
      (suitingKind (.element n)) fun _ => True := by
  refine Twins.bind (P := fun v => (truth v).Standing caller rounds w₀) (twins_use hn .tagName ?_) fun tag htag => ?_
  · rintro e he _ ⟨⟩
    exact he.tag
  refine Twins.bind (twins_lowered "" htag) fun tag _ => ?_
  refine Twins.ite (twins_done trivial) (Twins.ite ?_ (twins_done trivial))
  refine Twins.bind (P := fun v => (truth v).Standing caller rounds w₀)
    (twins_callMember (u := .getAttribute (.text "type")) hn (by decide) (by decide) rfl ?_) fun type htype => ?_
  · intro e he v hv
    refine he.type v ?_
    simp only [Element.use] at hv
    split at hv
    · rename_i hattribute
      rw [hattribute]
      cases hv
      rfl
    · cases hv
  · exact Twins.bind (twins_lowered "text" htype) fun _ _ => twins_done trivial

/-- Both programs fit the element. -/
theorem twins_fit_element (hn : n ∈ names) (hv : v.isNone = false) (hshown : (shown v).Standing caller rounds w₀)
    (hinspected : (inspected v).Standing caller rounds w₀)
    (hlogged : Log.Context.Standing caller rounds w₀ [("text", v)]) :
    Twins caller rounds (World.Beside caller rounds w₀ n names a b) (fit (.element n) v) (fit (.element n) v)
      fun _ => True := by
  rw [fit_of_given hv, editable_element, bind_assoc]
  refine Twins.bind (twins_suitingKind hn) fun kind _ w w' hw => ?_
  -- the two controls have different numbers
  have hmade := hw.aside (w.since_withControl n) (w'.since_withControl n) rfl rfl
  obtain ⟨r, v, v', hrun, hrun', hend, hr⟩ :=
    twins_fitByMember hn (.fresh caller rounds w₀ w w' n) kind hshown hinspected hlogged _ _ hmade.here
  exact ⟨r, v, v', hrun, hrun', hmade.trans hend, hr⟩

/-- Both programs fit the same control. -/
theorem twins_fit_control (hn : n ∈ names) (hii : World.Paired caller rounds w₀ a b n i i) (kind : ControlKind)
    (hv : v.isNone = false) (hshown : (shown v).Standing caller rounds w₀)
    (hinspected : (inspected v).Standing caller rounds w₀)
    (hlogged : Log.Context.Standing caller rounds w₀ [("text", v)]) :
    Twins caller rounds (World.Beside caller rounds w₀ n names a b) (fit (.control i kind) v) (fit (.control i kind) v)
      fun _ => True := by
  rw [fit_of_given hv]
  exact twins_fitByMember hn hii kind hshown hinspected hlogged

end Prog

/-! ## What is reached -/

/-- What is fitted stands for an element: it is the element, or a control that wraps it. -/
inductive Scene.Targets (s : Scene) (n : String) : Value → Prop where
  | element : Targets s n (.element n)
  | control {i : Nat} {kind : ControlKind} : s.Wraps i n → Targets s n (.control i kind)

/-- The element that what is fitted stands for. -/
def Scene.target? (s : Scene) : Value → Option String
  | .element n => some n
  | .control i _ =>
    match s.field? i wrappedField with
    | some (.element n) => some n
    | _ => none
  | _ => none

theorem Scene.Targets.target? {s : Scene} {n : String} {c : Value} (h : s.Targets n c) : s.target? c = some n := by
  cases h with
  | element => rfl
  | control hwraps => rw [Scene.target?, hwraps.wrapped]

/-- The name of an element. -/
def Value.elementName? : Value → Option String
  | .element n => some n
  | _ => Option.none

/-- The elements that an element names as its options. -/
def Scene.offered (s : Scene) (n : String) : List String :=
  match (s.elements.lookup n).bind fun e => (e.field? "options").bind s.members? with
  | some vs => vs.filterMap fun v => (s.readNamed v).toOption.bind Value.elementName?
  | none => []

/-- The elements that a fit has to do with: the one that is fitted, and its options. -/
def Scene.reach (s : Scene) (c : Value) : List String :=
  match s.target? c with
  | some n => n :: s.offered n
  | none => []

/-- An element whose options are elements offers those that it names. -/
theorem Scene.OffersElements.offers {w : World} {n : String} (h : w.scene.OffersElements n) {e : Element}
    (he : w.scene.elements.lookup n = some e) : e.Offers w (n :: w.scene.offered n) := by
  intro named hnamed
  refine ⟨fun w' hw' => hw'.members? fun i hi => h.made e i he (hi ▸ hnamed), fun vs hvs v hv held hheld => ?_⟩
  obtain ⟨m, rfl⟩ := h.elements e named vs he hnamed hvs v hv held hheld
  refine ⟨m, List.mem_cons_of_mem _ ?_, rfl⟩
  rw [offered, he, Option.bind_some, hnamed, Option.bind_some, hvs]
  exact List.mem_filterMap.mpr ⟨v, hv, by rw [hheld]; rfl⟩

/-- What is fitted, and to what: an element, alone or in a control, whose options are elements, and a value that
is shown the same all the time, as is the kind that the control keeps of its own, if any.  What these
elements answer about themselves counts as true or not all the time. -/
structure World.Fillable (caller : Caller) (rounds : Nat) (w : World) (c v : Value) : Prop where
  target : ∃ n, w.scene.Targets n c ∧ w.scene.OffersElements n
  kind : ∀ i k v, c = .control i k → w.scene.field? i "kind" = some v →
    Log.Context.Standing caller rounds w [("kind", v)]
  answers : ∀ m ∈ w.scene.reach c, ∀ e, w.scene.elements.lookup m = some e → e.Answers caller rounds w
  shown : (Prog.shown v).Standing caller rounds w
  inspected : (Prog.inspected v).Standing caller rounds w
  logged : Log.Context.Standing caller rounds w [("text", v)]

/-- A program has to do with some elements only: wherever these are the same it comes to the same with
them, and it leaves all others alone. -/
def Prog.LocalTo (caller : Caller) (rounds : Nat) (w₀ : World) (names : List String) (p : Prog Unit) : Prop :=
  ∀ w, w₀.Since w → (∀ m ∈ names, w.scene.elements.lookup m = w₀.scene.elements.lookup m) →
    (p.run caller rounds w).1 = (p.run caller rounds w₀).1 ∧ w.Confined names (p.run caller rounds w).2 ∧
      ∀ m ∈ names,
        (p.run caller rounds w).2.scene.elements.lookup m = (p.run caller rounds w₀).2.scene.elements.lookup m

/-- Programs that come to the same beside each other are local. -/
theorem Prog.localTo_of_twins {caller : Caller} {rounds : Nat} {w₀ : World} {n : String} {names : List String}
    {p : Prog Unit} (hanswers : ∀ m ∈ names, ∀ e, w₀.scene.elements.lookup m = some e → e.Answers caller rounds w₀)
    (hoffers : ∀ e, w₀.scene.elements.lookup n = some e → e.Offers w₀ names)
    (h : ∀ w, w₀.Since w → Twins caller rounds (World.Beside caller rounds w₀ n names w₀ w) p p fun _ => True) :
    p.LocalTo caller rounds w₀ names := by
  intro w hw hsame
  obtain ⟨r, v, v', hrun, hrun', hend, -⟩ := h w hw w₀ w
    ⟨.refl w₀, hw, .refl names w₀, .refl names w, hsame, hanswers, hoffers⟩
  rw [hrun, hrun']
  exact ⟨rfl, hend.right, hend.same⟩

/-- **Fits are local**: a fit has to do with the element that is fitted and its options only, whatever it
comes to. -/
theorem Prog.localTo_fit {caller : Caller} {rounds : Nat} {w : World} {c v : Value}
    (h : v.isNone = false → w.Fillable caller rounds c v) :
    (fit c v).LocalTo caller rounds w (w.scene.reach c) := by
  by_cases hv : v.isNone = true
  · obtain rfl := Value.isNone_iff.mp hv
    rw [fit_none]
    exact fun w' _ hsame => ⟨rfl, .refl _ w', hsame⟩
  · have hv : v.isNone = false := by simpa using hv
    obtain ⟨⟨n, htarget, hoffers⟩, hkind, hanswers, hshown, hinspected, hlogged⟩ := h hv
    have hreach : w.scene.reach c = n :: w.scene.offered n := by rw [Scene.reach, htarget.target?]
    rw [hreach] at hanswers ⊢
    refine localTo_of_twins hanswers (fun e he => hoffers.offers he) fun w' hw' => ?_
    cases htarget with
    | element => exact twins_fit_element List.mem_cons_self hv hshown hinspected hlogged
    | control hwraps =>
      have hpaired : World.Paired caller rounds w w w' n _ _ :=
        ⟨hwraps, hw'.wraps hwraps, hw'.field? hwraps _, fun v => hkind _ _ v rfl⟩
      exact twins_fit_control List.mem_cons_self hpaired _ hv hshown hinspected hlogged

end PageObjects
