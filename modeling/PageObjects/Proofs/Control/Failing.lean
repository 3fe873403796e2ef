import PageObjects.Proofs.Control.Using
import PageObjects.Proofs.Program.Endings
import PageObjects.Proofs.Program.Frames

/-!
# Fits that fail

Whatever is wrong with a control or with a value is found out before an element is changed, and
a click is the last thing that a fit does.  So a fit that fails leaves every element with the
value and in the state that it had, if the calls do that it makes on the way.

There is one way to leave a text field empty: the text of the value is found once before the
field is cleared, and once more after that.  A value that does not give its text for the second
time leaves nothing in the field.

Main definitions:

- `World.Undisturbed`: all elements have the values and the states that they had.
- `World.Emptied`: a text field has been left empty.
- `Prog.EndsSince`, `Prog.Spares`: how runs end, and runs that disturb nothing.
- `World.Fitting`: the ways to fit an element.

Main results:

- Theorem `Prog.Spares.bind`: what follows a part that disturbs nothing.
- Theorem `Prog.ends_fitControl`: how the fit of a control may fail.
- Theorem `fit_failingSpares`: a fit that fails disturbs nothing, but for that one way.
-/

namespace PageObjects

open Prog

/-! ## What is left undisturbed -/

/-- What an element names as its options stands for elements.  It is nothing that an instance keeps
which is still to be made. -/
structure Scene.OffersElements (s : Scene) (n : String) : Prop where
  made : ∀ e i, s.elements.lookup n = some e → e.field? "options" = some (.mapping (.fields i)) → i < s.instances.length
  elements : ∀ e named names, s.elements.lookup n = some e → e.field? "options" = some named →
    s.members? named = some names → ∀ v ∈ names, ∀ held, s.readNamed v = .ok held → ∃ m, held = .element m

/-- All elements have the values and the states that they had.  Controls wrap what they wrapped, and
options that were elements are elements. -/
structure World.Undisturbed (w w' : World) : Prop where
  states : ∀ n e, w.scene.elements.lookup n = some e →
    ∃ e', w'.scene.elements.lookup n = some e' ∧ e'.value = e.value ∧ e'.selected = e.selected
  controls : ∀ i v, w.scene.field? i wrappedField = some v → w'.scene.field? i wrappedField = some v
  options : ∀ n, w.scene.OffersElements n → w'.scene.OffersElements n

/-- A control wraps an element, whose options are elements. -/
structure World.Encloses (w : World) (i : Nat) (n : String) : Prop where
  wrapped : w.scene.field? i wrappedField = some (.element n)
  options : w.scene.OffersElements n

/-- What an instance keeps in the place of a member is called, if it keeps anything there: it is no
operation on an element or a driver by itself. -/
def Scene.Defers (s : Scene) (i : Nat) (name : String) : Prop :=
  ∀ f args named, s.field? i name = some f → directOp? f args named = none

/-- An instance that keeps nothing in the place of a member. -/
theorem Scene.defers_of_none {s : Scene} {i : Nat} {name : String} (h : s.field? i name = none) : s.Defers i name :=
  fun _ _ _ hf => nomatch h.symm.trans hf

namespace World.Undisturbed

variable {w w' w'' : World}

/-- What only leaves a trace, or counts, disturbs nothing. -/
theorem of_trace {events : List Event} {counters : List (String × Nat)}
    (h : w'.scene = { w.scene with events, counters }) : w.Undisturbed w' where
  states n e he := ⟨e, by rw [h]; exact he, rfl, rfl⟩
  controls i v hv := by
    rw [h]
    exact hv
  options n hn := by
    rw [h]
    exact ⟨hn.made, hn.elements⟩

theorem refl (w : World) : w.Undisturbed w := .of_trace rfl

theorem trans (h : w.Undisturbed w') (h' : w'.Undisturbed w'') : w.Undisturbed w'' where
  states n e he := by
    obtain ⟨e', he', hvalue, hselected⟩ := h.states n e he
    obtain ⟨e'', he'', hvalue', hselected'⟩ := h'.states n e' he'
    exact ⟨e'', he'', hvalue'.trans hvalue, hselected'.trans hselected⟩
  controls i v hv := h'.controls i v (h.controls i v hv)
  options n hn := h'.options n (h.options n hn)

theorem resting : Resting World.Undisturbed := ⟨fun h => .of_trace (h.trans rfl), trans⟩

theorem encloses (h : w.Undisturbed w') {i : Nat} {n : String} (hi : w.Encloses i n) : w'.Encloses i n :=
  ⟨h.controls i _ hi.wrapped, h.options n hi.options⟩

/-- To make an instance disturbs nothing. -/
theorem addInstance (w : World) (i : Instance) : w.Undisturbed ((Op.addInstance i).run w).2 := by
  have hprefix : w.scene.instances <+: (((Op.addInstance i).run w).2).scene.instances := List.prefix_append _ _
  refine ⟨fun n e he => ⟨e, he, rfl, rfl⟩, fun j v hv => ?_, fun n hn => ⟨?_, ?_⟩⟩
  · rw [Scene.field?_of_prefix hprefix (Scene.lt_of_field? hv)]
    exact hv
  · intro e j he hj
    show j < (w.scene.instances ++ [i]).length
    rw [List.length_append]
    exact Nat.lt_add_right _ (hn.made e j he hj)
  · intro e named names he hnamed hnames
    refine hn.elements e named names he hnamed ?_
    rw [← hnames]
    cases named with
    | mapping place =>
      cases place with
      | fields j =>
        have hsame := Scene.fieldsOf_of_prefix hprefix (hn.made e j he hnamed)
        simp only [Scene.members?, Scene.entries?, Scene.entriesAt, hsame]
        rfl
      | _ => rfl
    | _ => rfl

end World.Undisturbed

/-- A text field is empty that was not so before, and nothing else has been disturbed.  The value
gave its text before the field was cleared, and did not give it afterwards. -/
structure World.Emptied (caller : Caller) (rounds : Nat) (n : String) (v : Value) (w w' : World) : Prop where
  field : ∃ e, w'.scene.elements.lookup n = some e ∧ e.value = .text ""
  others : ∀ m e, w.scene.elements.lookup m = some e →
    ∃ e', w'.scene.elements.lookup m = some e' ∧ (m ≠ n → e'.value = e.value) ∧ e'.selected = e.selected
  given : ∃ w₁ w₂ t, w.Undisturbed w₁ ∧ (shown v).run caller rounds w₁ = (.ok t, w₂)
  refused : ∃ w₂ r, (shown v).run caller rounds w₂ = (.error r, w')

/-- What comes before that disturbs nothing makes no difference. -/
theorem World.Emptied.since {caller : Caller} {rounds : Nat} {n : String} {v : Value} {w w' w'' : World}
    (h : w'.Emptied caller rounds n v w'') (hw : w.Undisturbed w') : w.Emptied caller rounds n v w'' where
  field := h.field
  others m e he := by
    obtain ⟨e', he', hvalue, hselected⟩ := hw.states m e he
    obtain ⟨e'', he'', hvalue', hselected'⟩ := h.others m e' he'
    exact ⟨e'', he'', fun hm => (hvalue' hm).trans hvalue, hselected'.trans hselected⟩
  given := by
    obtain ⟨w₁, w₂, t, hw₁, hrun⟩ := h.given
    exact ⟨w₁, w₂, t, hw.trans hw₁, hrun⟩
  refused := h.refused

/-! ## Uses -/

/-- Uses that only ask an element about itself. -/
def ElementUse.isReading : ElementUse → Bool
  | .tagName | .text | .isEnabled | .isSelected | .getAttribute _ => true
  | _ => false

namespace Element

variable {cells : Cells} {e : Element}

/-- To ask an element about itself leaves it as it is. -/
theorem use_asking {u : ElementUse} (h : u.isReading = true) : (e.use cells u).2 = e := by
  cases u with
  | clear | sendKeys | click | isDisplayed => cases h
  | getAttribute name =>
    simp only [use]
    split <;> rfl
  | _ => rfl

/-- A click that fails leaves an element as it is. -/
theorem use_click_failed {r : Raised} (h : (e.use cells .click).1 = .error r) : (e.use cells .click).2 = e := by
  simp only [use, clicking] at h ⊢
  split
  · rfl
  · rename_i hfault
    rw [hfault] at h
    cases hflips : e.flips cells with
    | error fault => rfl
    | ok flips =>
      rw [hflips] at h
      cases h

end Element

/-! ## How runs end -/

namespace Prog

variable {caller : Caller} {called : CallChronicle} {rounds : Nat} {α β : Type} {p : Prog α} {w₀ w : World}

/-- How a run ends that starts where nothing has been disturbed since a world, if the calls that it
makes disturb nothing. -/
def EndsSince (caller : Caller) (called : CallChronicle) (rounds : Nat) (p : Prog α) (w₀ : World)
    (Q : α → World → Prop) (E : World → Prop) : Prop :=
  ∀ w, w₀.Undisturbed w → (p.chronicle caller called rounds w).Respects World.Undisturbed →
    p.Ends caller rounds w Q E

/-- Such a run disturbs nothing, and answers with what `Q` holds for. -/
def Spares (caller : Caller) (called : CallChronicle) (rounds : Nat) (p : Prog α) (w₀ : World) (Q : α → Prop) : Prop :=
  p.EndsSince caller called rounds w₀ (fun a w => Q a ∧ w₀.Undisturbed w) w₀.Undisturbed

/-- If such a run fails, it has disturbed nothing. -/
def FailsSafely (caller : Caller) (called : CallChronicle) (rounds : Nat) (p : Prog α) (w₀ : World) : Prop :=
  p.EndsSince caller called rounds w₀ (fun _ _ => True) w₀.Undisturbed

section Ends

variable {Q Q' : α → World → Prop} {R : β → World → Prop} {E E' : World → Prop} {k : α → Prog β}

/-- What holds at the end of a run has weaker things hold there. -/
theorem EndsSince.mono (h : p.EndsSince caller called rounds w₀ Q E) (hQ : ∀ a w, Q a w → Q' a w)
    (hE : ∀ w, E w → E' w) : p.EndsSince caller called rounds w₀ Q' E' :=
  fun w hw hcalls => (h w hw hcalls).mono hQ hE

/-- A program that goes on ends as what it goes on with does, or as its first part if that
fails.  Both make no calls but those of the program. -/
theorem ends_bind_calls (hcalls : ((p.bind k).chronicle caller called rounds w).Respects World.Undisturbed)
    (h : (p.chronicle caller called rounds w).Respects World.Undisturbed → p.Ends caller rounds w Q E)
    (hk : ∀ a w', Q a w' → ((k a).chronicle caller called rounds w').Respects World.Undisturbed →
      (k a).Ends caller rounds w' R E) : (p.bind k).Ends caller rounds w R E := by
  obtain ⟨hfirst, hrest⟩ := respects_bind.mp hcalls
  have hends := h hfirst
  rw [Ends] at hends ⊢
  rw [run_bind]
  rcases hrun : p.run caller rounds w with ⟨_ | a, w'⟩
  · rw [hrun] at hends
    exact hends
  · rw [hrun] at hends hrest
    exact hk a w' hends hrest

theorem EndsSince.bind (h : p.EndsSince caller called rounds w₀ Q E)
    (hk : ∀ a w, Q a w → ((k a).chronicle caller called rounds w).Respects World.Undisturbed →
      (k a).Ends caller rounds w R E) : (p.bind k).EndsSince caller called rounds w₀ R E :=
  fun w hw hcalls => ends_bind_calls hcalls (h w hw) hk

theorem EndsSince.view_bind {f : Scene → α}
    (h : ∀ w, w₀.Undisturbed w → (k (f w.scene)).EndsSince caller called rounds w₀ R E) :
    ((view f).bind k).EndsSince caller called rounds w₀ R E := fun w hw hcalls => h w hw w hw hcalls

/-- What follows a part that disturbs nothing ends as it would have ended before. -/
theorem Spares.bind {P : α → Prop} (h : p.Spares caller called rounds w₀ P) (hE : ∀ w, w₀.Undisturbed w → E w)
    (hk : ∀ a, P a → (k a).EndsSince caller called rounds w₀ R E) :
    (p.bind k).EndsSince caller called rounds w₀ R E :=
  EndsSince.bind (h.mono (fun _ _ hP => hP) hE) fun a w hP => hk a hP.1 w hP.2

theorem Spares.mono {P P' : α → Prop} (h : p.Spares caller called rounds w₀ P) (hP : ∀ a, P a → P' a) :
    p.Spares caller called rounds w₀ P' :=
  EndsSince.mono h (fun _ _ ha => ⟨hP _ ha.1, ha.2⟩) fun _ hw => hw

/-- What disturbs nothing has disturbed nothing if it fails. -/
theorem Spares.safely {P : α → Prop} (h : p.Spares caller called rounds w₀ P) :
    p.FailsSafely caller called rounds w₀ :=
  EndsSince.mono h (fun _ _ _ => trivial) fun _ hw => hw

/-- What is done after parts that disturb nothing has disturbed nothing if it fails. -/
theorem Spares.bind_safely {P : α → Prop} (h : p.Spares caller called rounds w₀ P)
    (hk : ∀ a, P a → (k a).FailsSafely caller called rounds w₀) : (p.bind k).FailsSafely caller called rounds w₀ :=
  h.bind (fun _ hw => hw) hk

theorem FailsSafely.ite {c : Prop} [Decidable c] {p q : Prog α} (hp : p.FailsSafely caller called rounds w₀)
    (hq : q.FailsSafely caller called rounds w₀) : (if c then p else q).FailsSafely caller called rounds w₀ := by
  by_cases h : c
  · rwa [if_pos h]
  · rwa [if_neg h]

/-- An answer that is given at once. -/
theorem spares_done {P : α → Prop} {a : α} (h : P a) : (done a).Spares caller called rounds w₀ P :=
  fun _ hw _ => ⟨h, hw⟩

theorem failsSafely_done {a : α} : (done a).FailsSafely caller called rounds w₀ := fun _ _ _ => trivial

/-- A program that only looks, calls and logs disturbs nothing. -/
theorem Quiet.spares (hp : p.Quiet) :
    p.Spares caller called rounds w₀ fun a => ∃ w w', w₀.Undisturbed w ∧ p.run caller rounds w = (.ok a, w') := by
  intro w hw hcalls
  have hrun : w.Undisturbed (p.run caller rounds w).2 := run_quiet World.Undisturbed.resting hp w hcalls
  exact (ends_of_world hrun).mono (fun a w' h => ⟨⟨w, w', hw, h.2⟩, hw.trans h.1⟩) fun w' h => hw.trans h.1

end Ends

/-! ## Parts of fits -/

variable {n : String} {i : Nat} {v : Value} {kind : ControlKind}

/-- What a use leaves undisturbed that leaves its element as it is. -/
theorem undisturbed_useElement {u : ElementUse}
    (h : ∀ e, w.scene.elements.lookup n = some e → (e.use w.scene.cells u).2 = e) :
    w.Undisturbed ((performing (.useElement n u)).run caller rounds w).2 := by
  cases he : w.scene.elements.lookup n with
  | none =>
    rw [run_useElement_unset he _]
    exact .refl w
  | some e =>
    rw [run_useElement he, h e he, Assoc.put_of_lookup he]
    exact .of_trace rfl

/-- To ask an element about itself disturbs nothing. -/
theorem spares_reading {u : ElementUse} (h : u.isReading = true) :
    (performing (.useElement n u)).Spares caller called rounds w₀ fun _ => True := by
  intro w hw _
  have hused : w.Undisturbed ((performing (.useElement n u)).run caller rounds w).2 :=
    undisturbed_useElement fun _ _ => Element.use_asking h
  exact (ends_of_world hused).mono (fun _ _ h => ⟨trivial, hw.trans h.1⟩) fun _ h => hw.trans h.1

/-- A member of an element that only asks it disturbs nothing. -/
theorem spares_callMember {name : String} {args : List Value} {u : ElementUse}
    (hname : name ≠ "tag_name" ∧ name ≠ "text") (hmember : ElementUse.memberNames.contains name = true)
    (hu : ElementUse.ofCall? name args [] = some u) (hreading : u.isReading = true) :
    (callMember (.element n) name args).Spares caller called rounds w₀ fun _ => True := by
  rw [callMember_element n hname hmember hu]
  exact spares_reading hreading

/-- A click that fails has disturbed nothing. -/
theorem failsSafely_click : (callMember (.element n) "click" []).FailsSafely caller called rounds w₀ := by
  rw [callMember_element (u := .click) n (by decide) (by decide) rfl]
  intro w hw _
  rw [Ends]
  rcases hrun : (performing (.useElement n .click)).run caller rounds w with ⟨r | a, w'⟩
  · refine hw.trans ?_
    have hused : w.Undisturbed ((performing (.useElement n .click)).run caller rounds w).2 := by
      refine undisturbed_useElement fun e he => Element.use_click_failed (r := r) ?_
      rw [run_useElement he] at hrun
      exact congrArg Prod.fst hrun
    rw [hrun] at hused
    exact hused
  · exact trivial

/-- To click and do no more. -/
theorem failsSafely_clicking {a : α} :
    ((callMember (.element n) "click" []).bind fun _ => done a).FailsSafely caller called rounds w₀ :=
  EndsSince.bind failsSafely_click fun _ _ _ _ => trivial

/-- A control finds what it wraps. -/
theorem spares_wrappedIn (h : w₀.Encloses i n) :
    (wrappedIn i).Spares caller called rounds w₀ (· = .element n) :=
  fun _ hw _ => Ends.of_run (run_wrappedIn (hw.encloses h).wrapped) ⟨rfl, hw⟩

/-- The note that a control is being fitted is quiet. -/
theorem fitting_quiet (message : String) (i : Nat) (kind : ControlKind) (context : Log.Context) :
    (fitting message i kind context).Quiet := .view_bind fun _ => .log _

theorem refuseWriting_quiet (i : Nat) (kind : ControlKind) : (refuseWriting i kind).Quiet :=
  .bind (.inspected _) fun _ => .raise _

theorem wantedState_quiet (v : Value) : (wantedState v).Quiet := by
  unfold wantedState
  split
  · exact .done _
  · exact .bind (.inspected v) fun _ => .raise _

theorem lowered_quiet (instead : String) (v : Value) : (lowered instead v).Quiet := by
  refine .bind (.truth v) fun b => .ite ?_ (.done _)
  split
  · exact .done _
  · exact .raise _

/-! ## Check boxes and radio buttons -/

/-- To fit a check box disturbs nothing if it fails. -/
theorem failsSafely_fitCheckBox (h : w₀.Encloses i n) (v : Value) :
    (fitCheckBox i v).FailsSafely caller called rounds w₀ := by
  refine (wantedState_quiet v).spares.bind_safely fun wanted _ => ?_
  refine (spares_wrappedIn h).bind_safely ?_
  rintro _ rfl
  refine (spares_callMember (u := .isSelected) (by decide) (by decide) rfl rfl).bind_safely fun selected _ => ?_
  refine EndsSince.view_bind fun w _ => failsSafely_done.ite ?_
  refine (fitting_quiet _ _ _ _).spares.bind_safely fun _ _ => ?_
  refine (spares_wrappedIn h).bind_safely ?_
  rintro _ rfl
  exact failsSafely_clicking

/-- To fit a radio button disturbs nothing if it fails. -/
theorem failsSafely_fitRadioButton (h : w₀.Encloses i n) (v : Value) :
    (fitRadioButton i v).FailsSafely caller called rounds w₀ := by
  refine (wantedState_quiet v).spares.bind_safely fun wanted _ => ?_
  cases wanted with
  | clear => exact (Quiet.raise _).spares.safely
  | set =>
    refine (spares_wrappedIn h).bind_safely ?_
    rintro _ rfl
    refine (spares_callMember (u := .isSelected) (by decide) (by decide) rfl rfl).bind_safely fun selected _ => ?_
    refine (Quiet.truth selected).spares.bind_safely fun chosen _ => ?_
    refine failsSafely_done.ite ?_
    refine (fitting_quiet _ _ _ _).spares.bind_safely fun _ _ => ?_
    refine (spares_wrappedIn h).bind_safely ?_
    rintro _ rfl
    exact failsSafely_clicking

/-! ## Lists of choices -/

/-- What variables hold that are named is found without a trace. -/
theorem ends_namedValues (names : List Value) (w : World) :
    (namedValues names).Ends caller rounds w
      (fun held w' => w' = w ∧ ∀ o ∈ held, ∃ v ∈ names, w.scene.readNamed v = .ok o) (· = w) := by
  induction names with
  | nil => exact ends_done ⟨rfl, fun _ h => nomatch h⟩
  | cons v names ih =>
    refine ends_view_bind ?_
    cases hv : w.scene.readNamed v with
    | error r => exact Ends.of_fail rfl (rfl : w = w)
    | ok first =>
      refine Ends.bind (Q := fun a w' => a = first ∧ w' = w) (ends_done ⟨rfl, rfl⟩) ?_
      rintro _ _ ⟨rfl, rfl⟩
      refine Ends.bind ih ?_
      rintro others _ ⟨rfl, hothers⟩
      refine ends_done ⟨rfl, fun o ho => ?_⟩
      rcases List.mem_cons.mp ho with rfl | ho
      · exact ⟨v, List.mem_cons_self, hv⟩
      · obtain ⟨v', hv', heq⟩ := hothers o ho
        exact ⟨v', List.mem_cons_of_mem _ hv', heq⟩

/-- The options of an element are found without a trace. -/
theorem spares_optionsOf (h : w₀.scene.OffersElements n) :
    (optionsOf (.element n)).Spares caller called rounds w₀ fun options => ∀ o ∈ options, ∃ m, o = .element m := by
  intro w hw _
  have hends : (optionsOf (.element n)).Ends caller rounds w
      (fun options w' => w' = w ∧ ∀ o ∈ options, ∃ m, o = .element m) (· = w) := by
    refine Ends.bind (Q := fun named w' =>
      ((w.scene.elements.lookup n).bind fun e => e.field? "options") = some named ∧ w' = w) ?_ ?_
    · refine ends_view_bind ?_
      rw [show Scene.plainAttribute? (.element n) "options" = none from rfl, Option.or_none]
      exact ends_ofOption _ _ w
    · rintro named _ ⟨hnamed, rfl⟩
      obtain ⟨e, he, hfield⟩ := Option.bind_eq_some_iff.mp hnamed
      refine ends_view_bind (Ends.bind (ends_ofOption _ _ _) ?_)
      rintro names _ ⟨hnames, rfl⟩
      refine (ends_namedValues names _).mono ?_ fun _ hw => hw
      rintro options _ ⟨rfl, hheld⟩
      refine ⟨rfl, fun o ho => ?_⟩
      obtain ⟨v, hv, hread⟩ := hheld o ho
      exact (hw.options n h).elements e named names he hfield hnames v hv o hread
  refine hends.mono ?_ ?_
  · rintro options _ ⟨rfl, hoptions⟩
    exact ⟨hoptions, hw⟩
  · rintro _ rfl
    exact hw

/-- A search by a pattern disturbs nothing if it fails, wherever in the list. -/
theorem failsSafely_chooseMatching (source : String) (pattern : Pattern.Compiled) {options : List Value}
    (h : ∀ o ∈ options, ∃ m, o = .element m) :
    (chooseMatching source pattern options).FailsSafely caller called rounds w₀ := by
  induction options with
  | nil => exact (Quiet.raise _).spares.safely
  | cons o options ih =>
    obtain ⟨m, rfl⟩ := h o List.mem_cons_self
    refine (spares_reading (u := .text) rfl).bind_safely fun text _ => ?_
    refine (Quiet.ofOption _ _).spares.bind_safely fun text _ => ?_
    refine (Quiet.ofFault _).spares.bind_safely fun found _ => ?_
    refine FailsSafely.ite ?_ (ih fun x hx => h x (List.mem_cons_of_mem _ hx))
    refine (spares_callMember (u := .isSelected) (by decide) (by decide) rfl rfl).bind_safely fun selected _ => ?_
    refine (Quiet.truth selected).spares.bind_safely fun chosen _ => ?_
    exact failsSafely_done.ite failsSafely_clicking

/-- A search by a text disturbs nothing if it fails, wherever in the list. -/
theorem failsSafely_chooseTexted (v : Value) {options : List Value} (h : ∀ o ∈ options, ∃ m, o = .element m) :
    (chooseTexted v options).FailsSafely caller called rounds w₀ := by
  induction options with
  | nil => exact (Quiet.bind (.shown v) fun _ => .raise _).spares.safely
  | cons o options ih =>
    obtain ⟨m, rfl⟩ := h o List.mem_cons_self
    refine (spares_reading (u := .text) rfl).bind_safely fun text _ => ?_
    exact EndsSince.view_bind fun w _ =>
      FailsSafely.ite failsSafely_clicking (ih fun x hx => h x (List.mem_cons_of_mem _ hx))

/-- To fit a list of choices disturbs nothing if it fails. -/
theorem failsSafely_fitChoice (h : w₀.Encloses i n) (v : Value) : (fitChoice i v).FailsSafely caller called rounds w₀ := by
  have htexted : ∀ v, ((fitting "select by text" i .selectList [("text", v)]).bind fun _ =>
      (optionsOf (.element n)).bind fun options => chooseTexted v options).FailsSafely caller called rounds w₀ :=
    fun v => (fitting_quiet _ _ _ _).spares.bind_safely fun _ _ =>
      (spares_optionsOf h.options).bind_safely fun _ => failsSafely_chooseTexted v
  refine (spares_wrappedIn h).bind_safely ?_
  rintro _ rfl
  refine (spares_reading (u := .tagName) rfl).bind_safely fun tag _ => ?_
  split
  · exact (Quiet.raise _).spares.safely
  · refine FailsSafely.ite ?_ (Quiet.raise _).spares.safely
    split
    · rename_i source
      refine (fitting_quiet _ _ _ _).spares.bind_safely fun _ _ => ?_
      split
      · exact (spares_optionsOf h.options).bind_safely fun _ => failsSafely_chooseMatching source _
      · exact (Quiet.raise _).spares.safely
    · exact htexted _

/-! ## Text fields -/

/-- To ask whether a text field may be written to disturbs nothing. -/
theorem spares_assertWritable (h : w₀.Encloses i n) (kind : ControlKind) :
    (assertWritable i kind).Spares caller called rounds w₀ fun _ => True := by
  have hrefuse : (refuseWriting i kind).Spares caller called rounds w₀ fun _ => True :=
    (refuseWriting_quiet i kind).spares.mono fun _ _ => trivial
  refine (spares_wrappedIn h).bind (fun _ hw => hw) ?_
  rintro _ rfl
  refine (spares_callMember (u := .isEnabled) (by decide) (by decide) rfl rfl).bind (fun _ hw => hw) fun enabled _ => ?_
  refine (Quiet.truth enabled).spares.bind (fun _ hw => hw) fun b _ => ?_
  split
  · refine (spares_callMember (u := .getAttribute (.text "readonly")) (by decide) (by decide) rfl rfl).bind
      (fun _ hw => hw) fun readonly _ => ?_
    refine EndsSince.view_bind fun w _ => ?_
    split
    · exact spares_done trivial
    · exact hrefuse
  · exact hrefuse

/-- A field that has been cleared is empty, and nothing else is disturbed by that. -/
theorem ends_clear (w : World) :
    (performing (.useElement n .clear)).Ends caller rounds w
      (fun _ w' => (∃ e, w'.scene.elements.lookup n = some e ∧ e.value = .text "") ∧
        (∀ m e, w.scene.elements.lookup m = some e →
          ∃ e', w'.scene.elements.lookup m = some e' ∧ (m ≠ n → e'.value = e.value) ∧ e'.selected = e.selected) ∧
        ∀ i v, w.scene.field? i wrappedField = some v → w'.scene.field? i wrappedField = some v)
      (· = w) := by
  cases he : w.scene.elements.lookup n with
  | none =>
    exact Ends.of_fail (run_useElement_unset he _) rfl
  | some e =>
    obtain ⟨w', hrun, hhandled⟩ : ∃ w', run caller rounds (performing (.useElement n .clear)) w = (.ok .none, w') ∧
        w.Handled n [.clear] { e with value := .text "" } w' := run_use he rfl
    refine Ends.of_run hrun ⟨⟨_, hhandled.element, rfl⟩, fun m e' he' => ?_, fun i v hv => ?_⟩
    · by_cases hm : m = n
      · subst hm
        obtain rfl := Option.some.inj (he.symm.trans he')
        exact ⟨_, hhandled.element, fun hne => absurd rfl hne, rfl⟩
      · exact ⟨e', (hhandled.others m hm).trans he', fun _ => rfl, rfl⟩
    · rw [Scene.field?_of_prefix hhandled.instances (Scene.lt_of_field? hv)]
      exact hv

/-- Keys can be sent to a field that is empty. -/
theorem ends_sendKeys {e : Element} (he : w.scene.elements.lookup n = some e) (hvalue : e.value = .text "")
    (t : String) {E : World → Prop} :
    (callValue (.member (.element n) "send_keys") [.text t] []).Ends caller rounds w (fun _ _ => True) E := by
  rw [callValue_member (u := .sendKeys [.text t]) n rfl]
  exact (run_use he (Element.use_sendKeys _ hvalue t)).elim fun w' hused => Ends.of_run hused.1 trivial

/-- A text field that has been cleared is filled, unless the value does not give its text again. -/
theorem endsSince_retyping (h : w₀.Encloses i n)
    (hgiven : ∃ w₁ w₂ t, w₀.Undisturbed w₁ ∧ (shown v).run caller rounds w₁ = (.ok t, w₂)) :
    ((callMember (.element n) "clear" []).bind fun _ => (wrappedIn i).bind fun element =>
      (attributeOf "send_keys" element).bind fun sendKeys => (shown v).bind fun typed =>
        (callValue sendKeys [.text typed] []).bind fun _ => done ()).EndsSince caller called rounds w₀
          (fun _ _ => True) fun w => w₀.Undisturbed w ∨ w₀.Emptied caller rounds n v w := by
  rw [callMember_element (u := .clear) n (by decide) (by decide) rfl]
  intro w hw hcalls
  refine ends_bind_calls hcalls (fun _ => (ends_clear w).mono (fun _ _ h => h) ?_) fun _ w₁ hcleared hcalls => ?_
  · rintro _ rfl
    exact .inl hw
  obtain ⟨⟨e, he, hempty⟩, hothers, hwrapped⟩ := hcleared
  refine ends_bind_calls (Q := fun a w' => a = .element n ∧ w₁ = w') hcalls (fun _ => ?_) ?_
  · exact Ends.of_run (run_wrappedIn (hwrapped i _ (hw.encloses h).wrapped)) ⟨rfl, rfl⟩
  rintro _ _ ⟨rfl, rfl⟩ hcalls
  rw [attributeOf_member n (by decide) (by decide)] at hcalls ⊢
  change (((shown v).bind _).chronicle caller called rounds w₁).Respects World.Undisturbed at hcalls
  change ((shown v).bind _).Ends caller rounds w₁ _ _
  refine ends_bind_calls (Q := fun _ w' => w₁.Undisturbed w') hcalls (fun hcalls => ?_) fun t w₂ hw₂ hcalls => ?_
  · have hrun : w₁.Undisturbed ((shown v).run caller rounds w₁).2 :=
      run_quiet World.Undisturbed.resting (.shown v) w₁ hcalls
    refine (ends_of_world hrun).mono (fun _ _ h => h.1) fun w₂ h => ?_
    -- the value has not given its text again
    obtain ⟨hw₂, r, hrefused⟩ := h
    refine .inr ⟨?_, fun m e' he' => ?_, hgiven, w₁, r, hrefused⟩
    · obtain ⟨e', he', hvalue, -⟩ := hw₂.states n e he
      exact ⟨e', he', hvalue.trans hempty⟩
    · obtain ⟨e₀, he₀, hvalue₀, hselected₀⟩ := hw.states m e' he'
      obtain ⟨e₁, he₁, hvalue₁, hselected₁⟩ := hothers m e₀ he₀
      obtain ⟨e₂, he₂, hvalue₂, hselected₂⟩ := hw₂.states m e₁ he₁
      exact ⟨e₂, he₂, fun hm => hvalue₂.trans ((hvalue₁ hm).trans hvalue₀),
        hselected₂.trans (hselected₁.trans hselected₀)⟩
  · obtain ⟨e', he', hvalue, -⟩ := hw₂.states n e he
    exact Ends.bind (ends_sendKeys he' (hvalue.trans hempty) t) fun _ _ _ => ends_done trivial

/-- What is done in the place of a member of a control disturbs nothing, if what is usual does not. -/
theorem ends_byMember {name : String} {args : List Value} {usual : Prog Unit} {Q : Unit → World → Prop}
    {E : World → Prop} (hown : w.scene.Defers i name)
    (hcalls : ((byMember i name args usual).chronicle caller called rounds w).Respects World.Undisturbed)
    (hcalled : ∀ w', w.Undisturbed w' → Q () w' ∧ E w')
    (husual : (usual.chronicle caller called rounds w).Respects World.Undisturbed → usual.Ends caller rounds w Q E) :
    (byMember i name args usual).Ends caller rounds w Q E := by
  rw [byMember, bind_eq, respects_view_bind] at hcalls
  refine ends_view_bind ?_
  cases hf : w.scene.field? i name with
  | none =>
    rw [hf] at hcalls
    exact husual hcalls
  | some f =>
    rw [hf] at hcalls
    have hquiet : ((callValue f args []).bind fun _ => done ()).Quiet := by
      rw [callValue, hown f args [] hf]
      exact .bind (.call f args []) fun _ => .done _
    have hrun := run_quiet World.Undisturbed.resting hquiet w hcalls
    exact (ends_of_world hrun).mono (fun _ w' h => (hcalled w' h.1).1) fun w' h => (hcalled w' h.1).2

/-- To fit a text field may leave it empty, and disturbs nothing otherwise, if it fails. -/
theorem ends_fitText (h : w.Encloses i n) (hown : w.scene.Defers i writableMember) (v : Value)
    (hcalls : ((fitText i v).chronicle caller called rounds w).Respects World.Undisturbed) :
    (fitText i v).Ends caller rounds w (fun _ _ => True)
      fun w' => w.Undisturbed w' ∨ w.Emptied caller rounds n v w' := by
  refine ends_bind_calls (Q := fun _ w' => w.Undisturbed w') hcalls (fun hcalls => ?_) fun _ w₁ hw₁ hcalls => ?_
  · exact ends_byMember hown hcalls (fun _ hw' => ⟨hw', .inl hw'⟩) fun hcalls =>
      (spares_assertWritable h .textField w (.refl w) hcalls).mono (fun _ _ h => h.2) fun _ hw' => .inl hw'
  refine (Quiet.shown v).spares.bind (fun _ hw => .inl hw) (fun text hgiven => ?_) w₁ hw₁ hcalls
  refine (fitting_quiet _ _ _ _).spares.bind (fun _ hw => .inl hw) fun _ _ => ?_
  refine (spares_wrappedIn h).bind (fun _ hw => .inl hw) ?_
  rintro _ rfl
  obtain ⟨w₁, w₂, hw₁, hrun⟩ := hgiven
  exact endsSince_retyping h ⟨w₁, w₂, text, hw₁, hrun⟩

/-! ## Controls and elements -/

/-- To fit a control may leave a text field empty, and disturbs nothing otherwise, if it fails. -/
theorem ends_fitControl (h : w.Encloses i n) (hown : w.scene.Defers i writableMember) (kind : ControlKind) (v : Value)
    (hcalls : ((fitControl i kind v).chronicle caller called rounds w).Respects World.Undisturbed) :
    (fitControl i kind v).Ends caller rounds w (fun _ _ => True)
      fun w' => w.Undisturbed w' ∨ kind = .textField ∧ w.Emptied caller rounds n v w' := by
  have hsafe : ∀ {p : Prog Unit}, p.FailsSafely caller called rounds w →
      (p.chronicle caller called rounds w).Respects World.Undisturbed → p.Ends caller rounds w (fun _ _ => True)
        fun w' => w.Undisturbed w' ∨ kind = .textField ∧ w.Emptied caller rounds n v w' :=
    fun hp hcalls => (hp w (.refl w) hcalls).mono (fun _ _ _ => trivial) fun _ hw => .inl hw
  cases kind with
  | control => exact hsafe (Quiet.raise _).spares.safely hcalls
  | textField =>
    have heq : fitControl i .textField v = if v.isNone = true then done () else fitText i v := rfl
    by_cases hv : v.isNone = true
    · rw [heq, if_pos hv]
      exact ends_done trivial
    · rw [heq, if_neg hv] at hcalls ⊢
      exact (ends_fitText h hown v hcalls).mono (fun _ _ _ => trivial) fun _ hw => hw.imp id fun hw => ⟨rfl, hw⟩
  | selectList => exact hsafe (failsSafely_done.ite (failsSafely_fitChoice h v)) hcalls
  | checkBox => exact hsafe (failsSafely_done.ite (failsSafely_fitCheckBox h v)) hcalls
  | radioButton => exact hsafe (failsSafely_done.ite (failsSafely_fitRadioButton h v)) hcalls

/-- What is done in the place of the member that fits a control may leave a text field empty, and
disturbs nothing otherwise, if it fails. -/
theorem ends_fitByMember (h : w.Encloses i n) (hfit : w.scene.Defers i fittingMember)
    (hwritable : w.scene.Defers i writableMember)
    (hcalls : ((fitByMember i kind v).chronicle caller called rounds w).Respects World.Undisturbed) :
    (fitByMember i kind v).Ends caller rounds w (fun _ _ => True)
      fun w' => w.Undisturbed w' ∨ kind = .textField ∧ w.Emptied caller rounds n v w' :=
  ends_byMember hfit hcalls (fun _ hw => ⟨trivial, .inl hw⟩) fun hcalls => ends_fitControl h hwritable kind v hcalls

/-- A control that is made of an element wraps it, and keeps nothing in the place of its members. -/
theorem endsSince_makeControl (h : w₀.scene.OffersElements n) (kind : ControlKind) :
    (makeControl kind (.element n)).EndsSince caller called rounds w₀
      (fun c w => ∃ i kind, c = .control i kind ∧ w₀.Undisturbed w ∧ w.Encloses i n ∧
        w.scene.Defers i fittingMember ∧ w.scene.Defers i writableMember)
      w₀.Undisturbed := by
  intro w hw _
  have hmade := hw.trans (World.Undisturbed.addInstance w { fields := [(wrappedField, .element n)] })
  have hfields : (((Op.addInstance { fields := [(wrappedField, .element n)] }).run w).2).scene.fieldsOf
      w.scene.instances.length = [(wrappedField, .element n)] := World.fieldsOf_addInstance ..
  refine Ends.of_run rfl ⟨w.scene.instances.length, kind, rfl, hmade, ⟨?_, hmade.options n h⟩,
    Scene.defers_of_none ?_, Scene.defers_of_none ?_⟩
  · rw [Scene.field?]
    exact congrArg (List.lookup wrappedField) hfields
  · rw [Scene.field?]
    exact congrArg (List.lookup fittingMember) hfields
  · rw [Scene.field?]
    exact congrArg (List.lookup writableMember) hfields

/-- To find the control that suits an element disturbs nothing. -/
theorem endsSince_editable (h : w₀.scene.OffersElements n) :
    (editable (.element n)).EndsSince caller called rounds w₀
      (fun c w => ∃ i kind, c = .control i kind ∧ w₀.Undisturbed w ∧ w.Encloses i n ∧
        w.scene.Defers i fittingMember ∧ w.scene.Defers i writableMember)
      w₀.Undisturbed := by
  refine (spares_reading (u := .tagName) rfl).bind (fun _ hw => hw) fun tag _ => ?_
  refine (lowered_quiet "" tag).spares.bind (fun _ hw => hw) fun tag _ => ?_
  split
  · exact endsSince_makeControl h _
  · split
    · refine (spares_callMember (u := .getAttribute (.text "type")) (by decide) (by decide) rfl rfl).bind
        (fun _ hw => hw) fun type _ => ?_
      exact (lowered_quiet "text" type).spares.bind (fun _ hw => hw) fun type _ => endsSince_makeControl h _
    · exact endsSince_makeControl h _

end Prog

/-! ## Fits that fail -/

/-- The ways to fit an element to a value: alone, in a control, or by the member of the control.  What
the control keeps in the place of its members is called. -/
inductive World.Fitting (w : World) (n : String) (v : Value) : Value → Prog Unit → Prop where
  | element : w.scene.OffersElements n → w.Fitting n v (.element n) (fit (.element n) v)
  | control {i : Nat} {kind : ControlKind} : w.Encloses i n → w.scene.Defers i fittingMember →
      w.scene.Defers i writableMember → w.Fitting n v (.control i kind) (fit (.control i kind) v)
  | member {i : Nat} {kind : ControlKind} : w.Encloses i n → w.scene.Defers i writableMember →
      w.Fitting n v (.control i kind) (fitControl i kind v)

/-- A value that is not absent is handed to the control that suits what is fitted. -/
theorem Prog.fit_of_given {v : Value} (h : v.isNone = false) (c : Value) :
    fit c v = (editable c).bind fun c =>
      match c with
      | .control id kind => fitByMember id kind v
      | _ => raise .noSuchName := by
  rw [fit, h]
  rfl

/-- **What fails changes nothing**: an element is fitted to a value, alone or in a control of any
kind, and no call that is made on the way disturbs the page.  If the fit fails, all elements, the
options among them, have the values and the states that they had before.  There is one exception:
a text field is left empty whose value gave its text before the field was cleared, and failed to
give it again. -/
theorem fit_failingSpares {caller : Caller} {called : CallChronicle} {rounds : Nat} {w : World} {n : String}
    {v c : Value} {p : Prog Unit} (h : w.Fitting n v c p)
    (hcalls : (p.chronicle caller called rounds w).Respects World.Undisturbed) {r : Raised} {w' : World}
    (hrun : p.run caller rounds w = (.error r, w')) :
    w.Undisturbed w' ∨
      (∃ i w₁, (editable c).run caller rounds w = (.ok (.control i .textField), w₁)) ∧
        w.Emptied caller rounds n v w' := by
  have hgiven : ∀ {c : Value}, p = fit c v → v.isNone = false := by
    rintro c rfl
    cases hv : v.isNone with
    | false => rfl
    | true =>
      rw [Value.isNone_iff.mp hv, fit_none] at hrun
      cases hrun
  cases h with
  | @member i kind hcontrol hwritable =>
    rcases (ends_fitControl hcontrol hwritable kind v hcalls).fault hrun with hw | ⟨rfl, hw⟩
    · exact .inl hw
    · exact .inr ⟨⟨i, w, rfl⟩, hw⟩
  | @control i kind hcontrol hfit hwritable =>
    rw [fit_of_given (hgiven rfl)] at hcalls hrun
    rcases (ends_fitByMember hcontrol hfit hwritable hcalls).fault hrun with hw | ⟨rfl, hw⟩
    · exact .inl hw
    · exact .inr ⟨⟨i, w, rfl⟩, hw⟩
  | element hoffers =>
    rw [fit_of_given (hgiven rfl)] at hcalls hrun
    obtain ⟨hfirst, hrest⟩ := respects_bind.mp hcalls
    have hmade := endsSince_editable hoffers w (.refl w) hfirst
    rw [run_bind] at hrun
    rcases heditable : (editable (.element n)).run caller rounds w with ⟨fault | c, w₁⟩
    · rw [heditable] at hrun
      cases hrun
      exact .inl (hmade.fault heditable)
    · rw [heditable] at hrun hrest
      obtain ⟨i, kind, rfl, hw₁, hcontrol, hfit, hwritable⟩ := hmade.answer heditable
      rcases (ends_fitByMember hcontrol hfit hwritable hrest).fault hrun with hw | ⟨rfl, hw⟩
      · exact .inl (hw₁.trans hw)
      · exact .inr ⟨⟨i, w₁, rfl⟩, hw.since hw₁⟩

/-- A text field, and one that is disabled. -/
def failingSetting : Setting where
  elements := [("name", { tag := .text "textarea", value := .text "Ada", attributes := .map 1 }),
    ("closed", { tag := .text "textarea", value := .text "Ada", enabled := .bool false })]

/-- A record that gives its text once, and fails to give it again. -/
def fleetingValue : Value := .object 0 (some ⟨0, "Fleeting"⟩)

/-- The world with that record. -/
def failingWorld : World :=
  failingSetting.world.after
    [.op (.addFunction (.call (.text "__getitem__") (.request (.const (.text " A"))) [.request (.count "asked")] [])),
     .op (.addRecordType { name := "Fleeting", plain := false, members := [(textMember, .method textMember 0)] }),
     .op (.addInstance {})]

theorem failingWorld_fitting {n : String} (hn : n ∈ ["name", "closed"]) (v : Value) :
    failingWorld.Fitting n v (.element n) (fit (.element n) v) := by
  have hnone : ∀ e, failingWorld.scene.elements.lookup n = some e → e.field? "options" = some .none := by
    intro e he
    simp only [List.mem_cons, List.not_mem_nil, or_false] at hn
    rcases hn with rfl | rfl
    all_goals
      obtain rfl := Option.some.inj he
      rfl
  refine .element ⟨fun e i he hoptions => ?_, fun e named names he hnamed hnames => ?_⟩
  · rw [hnone e he] at hoptions
    cases hoptions
  · obtain rfl := Option.some.inj ((hnone e he).symm.trans hnamed)
    cases hnames

/-- The disabled field stays as it was, and the other one is left empty. -/
theorem failingWorld_spares :
    (∃ r w', (fit (.element "closed") (.text "Bob")).run (callAt 1 10) 1 failingWorld = (.error r, w') ∧
      failingWorld.Undisturbed w') ∧
    ∃ r w', (fit (.element "name") fleetingValue).run (callAt 1 10) 1 failingWorld = (.error r, w') ∧
      failingWorld.Emptied (callAt 1 10) 1 "name" fleetingValue w' := by
  constructor
  · have hcalls : ((fit (.element "closed") (.text "Bob")).chronicle (callAt 1 10) (callChronicle 1 10) 1
        failingWorld).Respects World.Undisturbed := by
      intro call hcall
      cases (hcall : call ∈ [])
    refine ⟨_, _, rfl, ?_⟩
    rcases fit_failingSpares (failingWorld_fitting (by simp) _) hcalls rfl with hw | ⟨-, hw⟩
    · exact hw
    · obtain ⟨w₂, r, hrefused⟩ := hw.refused
      cases hrefused
  · have hcalls : ((fit (.element "name") fleetingValue).chronicle (callAt 1 10) (callChronicle 1 10) 1
        failingWorld).Respects World.Undisturbed := by
      obtain ⟨w₁, w₂, hcalls⟩ : ∃ w₁ w₂, ((fit (.element "name") fleetingValue).chronicle (callAt 1 10)
          (callChronicle 1 10) 1 failingWorld).calls =
            [(w₁, { w₁ with scene := { w₁.scene with counters := [("asked", 1)] } }),
              (w₂, { w₂ with scene := { w₂.scene with counters := [("asked", 2)] } })] := ⟨_, _, rfl⟩
      rw [Chronicle.Respects, hcalls]
      simp only [List.forall_mem_cons, List.not_mem_nil, false_implies, implies_true, and_true]
      exact ⟨.of_trace rfl, .of_trace rfl⟩
    refine ⟨_, _, rfl, ?_⟩
    rcases fit_failingSpares (failingWorld_fitting (by simp) _) hcalls rfl with hw | ⟨-, hw⟩
    · obtain ⟨e, he, hvalue, -⟩ := hw.states "name" _ rfl
      cases he
      exact absurd (Value.text.inj hvalue) (by decide)
    · exact hw

end PageObjects
