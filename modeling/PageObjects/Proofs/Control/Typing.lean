import PageObjects.Proofs.Control.Using
import PageObjects.Proofs.Program.Endings

/-!
# Typing into text fields

To fit a text field is to replace its text by the text of a value.  Whatever comes of it,
nothing else is changed on the page, nothing but the field is used, and everything outside
of the page stays as it was.

Main definitions:

- `World.TypesInto`: nothing has changed but the texts of some elements.
- `Element.IsTextField`: elements that are fitted as text fields.
- `Steady`: values that show one text as long as only the page and one record change.

Main results:

- Theorem `Prog.ends_fit`: what comes of fitting a text field.
-/

namespace PageObjects

/-! ## What is left alone -/

/-- Nothing has changed but the texts of some elements, and nothing but these has been used.
There may be more instances. -/
structure World.TypesInto (names : List String) (w w' : World) : Prop where
  surroundings : w'.scene.surroundings = w.scene.surroundings
  instances : w.scene.instances <+: w'.scene.instances
  others : ∀ n, n ∉ names → w'.scene.elements.lookup n = w.scene.elements.lookup n
  values : ∀ n e, w.scene.elements.lookup n = some e →
    ∃ v, w'.scene.elements.lookup n = some { e with value := v }
  events : ∃ more, w'.scene.events = more ++ w.scene.events ∧ ∀ e ∈ more, ∃ n ∈ names, ∃ u, e = .element n u

/-- Nothing has changed but the page and one instance.  There may be more instances. -/
structure World.Near (id : Nat) (w w' : World) : Prop where
  surroundings : w'.scene.surroundings = w.scene.surroundings
  instances : w.scene.instances.length ≤ w'.scene.instances.length
  others : ∀ i, i < w.scene.instances.length → i ≠ id → w'.scene.instances[i]? = w.scene.instances[i]?

namespace World.TypesInto

variable {names names' : List String} {w w' w'' : World}

theorem refl (names : List String) (w : World) : w.TypesInto names w :=
  ⟨rfl, List.prefix_rfl, fun _ _ => rfl, fun _ e h => ⟨e.value, h⟩, [], rfl, fun _ h => nomatch h⟩

theorem trans (h : w.TypesInto names w') (h' : w'.TypesInto names w'') : w.TypesInto names w'' where
  surroundings := h'.surroundings.trans h.surroundings
  instances := h.instances.trans h'.instances
  others n hn := (h'.others n hn).trans (h.others n hn)
  values n e he := by
    obtain ⟨v, hv⟩ := h.values n e he
    obtain ⟨v', hv'⟩ := h'.values n _ hv
    exact ⟨v', hv'⟩
  events := by
    obtain ⟨more, hmore, huses⟩ := h.events
    obtain ⟨more', hmore', huses'⟩ := h'.events
    refine ⟨more' ++ more, by rw [hmore', hmore, List.append_assoc], fun e he => ?_⟩
    rcases List.mem_append.mp he with he | he
    · exact huses' e he
    · exact huses e he

/-- What leaves some elements alone leaves fewer alone. -/
theorem mono (h : w.TypesInto names w') (hnames : ∀ n ∈ names, n ∈ names') : w.TypesInto names' w' where
  surroundings := h.surroundings
  instances := h.instances
  others n hn := h.others n fun hmem => hn (hnames n hmem)
  values := h.values
  events := by
    obtain ⟨more, hmore, huses⟩ := h.events
    refine ⟨more, hmore, fun e he => ?_⟩
    obtain ⟨n, hn, u, hu⟩ := huses e he
    exact ⟨n, hnames n hn, u, hu⟩

/-- A change of the journal alone leaves all elements alone. -/
theorem write (names : List String) (w : World) (e : Log.Entry) : w.TypesInto names (w.write e) :=
  ⟨rfl, List.prefix_rfl, fun _ _ => rfl, fun _ e h => ⟨e.value, h⟩, [], rfl, fun _ h => nomatch h⟩

theorem cells (h : w.TypesInto names w') : w'.scene.cells = w.scene.cells := by
  show w'.scene.surroundings.cells = w.scene.surroundings.cells
  rw [h.surroundings]

/-- To type into elements changes nothing but the page. -/
theorem near (h : w.TypesInto names w') (id : Nat) : w.Near id w' where
  surroundings := h.surroundings
  instances := h.instances.length_le
  others i hi _ := by
    obtain ⟨more, hmore⟩ := h.instances
    rw [← hmore, List.getElem?_append_left hi]

end World.TypesInto

namespace World.Near

variable {id : Nat} {w w' w'' : World}

theorem refl (id : Nat) (w : World) : w.Near id w := ⟨rfl, Nat.le_refl _, fun _ _ _ => rfl⟩

theorem trans (h : w.Near id w') (h' : w'.Near id w'') : w.Near id w'' where
  surroundings := h'.surroundings.trans h.surroundings
  instances := Nat.le_trans h.instances h'.instances
  others i hi hne := (h'.others i (Nat.lt_of_lt_of_le hi h.instances) hne).trans (h.others i hi hne)

end World.Near

/-- The text of a value is found, or not, without anything else being done, and it is the
same as long as nothing changes but the page and one instance. -/
def Steady (caller : Caller) (rounds : Nat) (id : Nat) (w : World) (v : Value) (text : Except Raised String) : Prop :=
  ∀ w', w.Near id w' → (Prog.shown v).run caller rounds w' = (text, w')

/-- What is steady stays so. -/
theorem Steady.near {caller : Caller} {rounds id : Nat} {w w' : World} {v : Value} {text : Except Raised String}
    (h : Steady caller rounds id w v text) (hw : w.Near id w') : Steady caller rounds id w' v text :=
  fun w'' hw' => h w'' (hw.trans hw')

/-- Values with a text of their own are steady. -/
theorem steady_of_plainText {v : Value} {t : String} (h : v.plainText? = some t) (caller : Caller) (rounds id : Nat)
    (w : World) : Steady caller rounds id w v (.ok t) := by
  intro w' _
  rw [Prog.shown, Prog.run_prog]
  simp only [Asking.shown, Showing.text, h]
  rfl

/-! ## Text fields -/

/-- Elements that are fitted as text fields: no lists of choices, no check boxes and no radio
buttons.  What they answer about themselves is data. -/
structure Element.IsTextField (cells : Cells) (e : Element) : Prop where
  tag : Prog.instanceOf? e.tag = none
  enabled : Prog.instanceOf? e.enabled = none
  type : ∀ v, e.getAttribute cells (.text "type") = .ok v → Prog.instanceOf? v = none
  noList : ∀ t, e.tag.word? = some t → Text.lowercaseString t ≠ "select"
  noToggle : ∀ t, e.tag.word? = some t → Text.lowercaseString t = "input" → ∀ v,
    e.getAttribute cells (.text "type") = .ok v → ∀ u, v.word? = some u →
      Prog.inputKind (Text.lowercaseString u) = .textField

/-- What is typed into a text field leaves it one. -/
theorem Element.IsTextField.typed {cells : Cells} {e : Element} (h : e.IsTextField cells) (v : Value) :
    { e with value := v }.IsTextField cells :=
  ⟨h.tag, h.enabled, h.type, h.noList, h.noToggle⟩

/-- Uses of an element that change nothing but its text. -/
def ElementUse.isTextual : ElementUse → Bool
  | .click | .isDisplayed => false
  | _ => true

/-- A use changes nothing but the text of an element. -/
theorem Element.use_value {cells : Cells} {e : Element} {u : ElementUse} (h : u.isTextual = true) :
    ∃ v, (e.use cells u).2 = { e with value := v } := by
  cases u with
  | click | isDisplayed => cases h
  | clear => exact ⟨.text "", rfl⟩
  | sendKeys keys =>
    simp only [use]
    split
    · exact ⟨_, rfl⟩
    · exact ⟨e.value, rfl⟩
  | getAttribute name =>
    refine ⟨e.value, ?_⟩
    simp only [use]
    split <;> rfl
  | _ => exact ⟨e.value, rfl⟩

namespace Prog

variable {caller : Caller} {rounds : Nat} {w w₀ : World} {n : String} {e : Element}

/-- To use an element for its text changes nothing else. -/
theorem ends_use {u : ElementUse} (hu : u.isTextual = true) (h : w₀.TypesInto [n] w)
    (he : w₀.scene.elements.lookup n = some e) {Q : Value → World → Prop} {E : World → Prop}
    (hends : ∀ v w', w₀.TypesInto [n] w' → w'.scene.instances = w.scene.instances →
      w.scene.elements.lookup n = some { e with value := v } →
      w'.scene.elements.lookup n = some ({ e with value := v }.use w₀.scene.cells u).2 →
      match ({ e with value := v }.use w₀.scene.cells u).1 with
      | .ok a => Q a w'
      | .error _ => E w') :
    (performing (.useElement n u)).Ends caller rounds w Q E := by
  obtain ⟨v, hv⟩ := h.values n e he
  have hrun : (performing (.useElement n u)).run caller rounds w = _ := run_useElement hv u
  rw [h.cells] at hrun
  obtain ⟨v', hv'⟩ : ∃ v', ({ e with value := v }.use w₀.scene.cells u).2 = { e with value := v' } :=
    Element.use_value hu
  have hused : w.TypesInto [n] { w with scene := { w.scene.note (.element n u) with
      elements := Assoc.put n ({ e with value := v }.use w₀.scene.cells u).2 w.scene.elements } } := by
    refine ⟨rfl, List.prefix_rfl, ?_, ?_, [.element n u], rfl, ?_⟩
    · intro m hm
      have hm : (m == n) = false := by simpa using hm
      simp only [Assoc.lookup_put, hm]
      rfl
    · intro m e' he'
      simp only [Assoc.lookup_put]
      by_cases hm : m = n
      · subst hm
        obtain rfl := Option.some.inj (hv.symm.trans he')
        exact ⟨v', by simp [hv']⟩
      · exact ⟨e'.value, by simp [hm, he']⟩
    · intro event hevent
      obtain rfl := List.mem_singleton.mp hevent
      exact ⟨n, List.mem_singleton_self n, u, rfl⟩
  have hends := hends v _ (h.trans hused) rfl hv (by simp [Assoc.lookup_put])
  rw [Ends, hrun]
  cases hanswer : ({ e with value := v }.use w₀.scene.cells u).1 with
  | ok a =>
    rw [hanswer] at hends
    exact hends
  | error r =>
    rw [hanswer] at hends
    exact hends

/-- A text in lower case is one of a word, or the one that is taken instead. -/
theorem ends_lowered {v : Value} (h : instanceOf? v = none) (instead : String) (w : World) :
    (lowered instead v).Ends caller rounds w
      (fun t w' => w' = w ∧ (t = instead ∨ ∃ u, v.word? = some u ∧ t = Text.lowercaseString u)) (· = w) := by
  refine Ends.bind (Ends.of_run (run_truth h w) ⟨rfl, rfl⟩) (Q := fun b w' => b = w.scene.truthy v ∧ w' = w) ?_
  rintro truthy w' ⟨-, rfl⟩
  split
  · split
    · rename_i s hs
      exact ends_done ⟨rfl, .inr ⟨s, hs, rfl⟩⟩
    · exact ends_raise rfl
  · exact ends_done ⟨rfl, .inl rfl⟩

/-! ## Fitting -/

/-- What has been typed into an element by a control that wraps it. -/
structure Typing (w₀ : World) (n : String) (i : Nat) (w : World) : Prop where
  typed : w₀.TypesInto [n] w
  control : w.scene.fieldsOf i = [(wrappedField, .element n)]

/-- What the control wraps is there. -/
theorem Typing.run_wrappedIn {i : Nat} (h : Typing w₀ n i w) :
    (wrappedIn i).run caller rounds w = (.ok (.element n), w) := by
  refine Prog.run_wrappedIn ?_
  rw [Scene.field?, h.control]
  rfl

/-- To use the element leaves the control as it is. -/
theorem Typing.ends_use {i : Nat} (h : Typing w₀ n i w) {u : ElementUse} (hu : u.isTextual = true)
    (he : w₀.scene.elements.lookup n = some e) {Q : Value → World → Prop} {E : World → Prop}
    (hends : ∀ v w', Typing w₀ n i w' → w.scene.elements.lookup n = some { e with value := v } →
      w'.scene.elements.lookup n = some ({ e with value := v }.use w₀.scene.cells u).2 →
      match ({ e with value := v }.use w₀.scene.cells u).1 with
      | .ok a => Q a w'
      | .error _ => E w') :
    (performing (.useElement n u)).Ends caller rounds w Q E := by
  refine Prog.ends_use hu h.typed he fun v w' hw' hinstances hbefore hafter => hends v w' ⟨hw', ?_⟩ hbefore hafter
  rw [Scene.fieldsOf, hinstances]
  exact h.control

/-- A control of a text field wraps it, and changes nothing on the page. -/
theorem ends_makeTextField (hw : w₀.TypesInto [n] w) :
    (makeControl .textField (.element n)).Ends caller rounds w
      (fun c w' => ∃ i, c = .control i .textField ∧ Typing w₀ n i w') (w₀.TypesInto [n] ·) := by
  have hrun : (makeControl .textField (.element n)).run caller rounds w =
      (.ok (.control w.scene.instances.length .textField),
        ((Op.addInstance { fields := [(wrappedField, .element n)] }).run w).2) := rfl
  refine Ends.of_run hrun ⟨w.scene.instances.length, rfl, hw.trans ?_, ?_⟩
  · exact ⟨rfl, List.prefix_append _ _, fun _ _ => rfl, fun _ e he => ⟨e.value, he⟩, [], rfl, fun _ h => nomatch h⟩
  · exact World.fieldsOf_addInstance ..

/-- An element that is a text field gets a control of that kind. -/
theorem ends_editable (he : w.scene.elements.lookup n = some e) (htext : e.IsTextField w.scene.cells) :
    (editable (.element n)).Ends caller rounds w
      (fun c w' => ∃ i, c = .control i .textField ∧ Typing w n i w') (w.TypesInto [n] ·) := by
  show ((performing (.useElement n .tagName)).bind fun tag => _).Ends caller rounds w _ _
  refine Ends.bind (Q := fun a w' => a = e.tag ∧ w.TypesInto [n] w')
    (ends_use rfl (.refl [n] w) he fun v w' hw' _ _ _ => ⟨rfl, hw'⟩) ?_
  rintro _ w₁ ⟨rfl, hw₁⟩
  refine Ends.bind ((ends_lowered htext.tag "" w₁).mono (fun _ _ h => h) ?_) ?_
  · rintro _ rfl
    exact hw₁
  rintro tag _ ⟨rfl, htag⟩
  have hselect : tag ≠ "select" := by
    rcases htag with rfl | ⟨u, hu, rfl⟩
    · decide
    · exact htext.noList u hu
  rw [if_neg hselect]
  split
  · rename_i hinput
    rw [callMember_element (u := .getAttribute (.text "type")) n (by decide) (by decide) rfl]
    refine Ends.bind (Q := fun a w' => e.getAttribute w.scene.cells (.text "type") = .ok a ∧ w.TypesInto [n] w')
      (ends_use rfl hw₁ he ?_) ?_
    · intro v w' hw' _ _ _
      simp only [Element.use]
      cases htype : ({ e with value := v } : Element).getAttribute w.scene.cells (.text "type") with
      | ok a => exact ⟨htype, hw'⟩
      | error fault => exact hw'
    · rintro a w₂ ⟨ha, hw₂⟩
      refine Ends.bind ((ends_lowered (htext.type a ha) "text" w₂).mono (fun _ _ h => h) ?_) ?_
      · rintro _ rfl
        exact hw₂
      rintro type _ ⟨rfl, htype⟩
      have hkind : inputKind type = .textField := by
        rcases htype with rfl | ⟨u, hu, rfl⟩
        · decide
        · rcases htag with rfl | ⟨t, ht, rfl⟩
          · exact absurd hinput (by decide)
          · exact htext.noToggle t ht hinput a ha u hu
      rw [hkind]
      exact ends_makeTextField hw₂
  · exact ends_makeTextField hw₁

/-- To refuse to write to a control shows what it wraps. -/
theorem Typing.ends_refuseWriting {i : Nat} (h : Typing w₀ n i w) {Q : Unit → World → Prop} :
    (refuseWriting i .textField).Ends caller rounds w Q (w₀.TypesInto [n] ·) := by
  have hfield : w.scene.field? i "element" = some (.element n) := by
    rw [Scene.field?, h.control]
    rfl
  refine Ends.bind (Ends.of_run (run_inspected_control hfield .textField) (Q := fun _ w' => w' = w) rfl) ?_
  rintro t _ rfl
  exact ends_raise h.typed

/-- To find out whether a field may be written to changes nothing. -/
theorem Typing.ends_assertWritable {i : Nat} (h : Typing w₀ n i w) (he : w₀.scene.elements.lookup n = some e)
    (htext : e.IsTextField w₀.scene.cells) :
    (assertWritable i .textField).Ends caller rounds w (fun _ w' => Typing w₀ n i w') (w₀.TypesInto [n] ·) := by
  refine Ends.bind (Ends.of_run h.run_wrappedIn (Q := fun a w' => a = .element n ∧ w' = w) ⟨rfl, rfl⟩) ?_
  rintro _ _ ⟨rfl, rfl⟩
  rw [callMember_element (u := .isEnabled) n (by decide) (by decide) rfl]
  refine Ends.bind (Q := fun a w' => a = e.enabled ∧ Typing w₀ n i w')
    (h.ends_use rfl he fun v w' hw' _ _ => ⟨rfl, hw'⟩) ?_
  rintro _ w₁ ⟨rfl, hw₁⟩
  refine Ends.bind (Ends.of_run (run_truth htext.enabled w₁) (Q := fun _ w' => w' = w₁) rfl) ?_
  rintro enabled _ rfl
  split
  · rw [callMember_element (u := .getAttribute (.text "readonly")) n (by decide) (by decide) rfl]
    refine Ends.bind (Q := fun _ w' => Typing w₀ n i w') (hw₁.ends_use rfl he ?_) ?_
    · intro v w' hw' _ _
      simp only [Element.use]
      cases ({ e with value := v } : Element).getAttribute w₀.scene.cells (.text "readonly") with
      | ok a => exact hw'
      | error fault => exact hw'.typed
    · intro readonly w₂ hw₂
      refine ends_view_bind ?_
      split
      · exact ends_done hw₂
      · exact hw₂.ends_refuseWriting
  · exact hw₁.ends_refuseWriting

/-- The text of a steady value is found without anything else being done. -/
theorem ends_shown {id : Nat} {v : Value} {text : Except Raised String} (h : Steady caller rounds id w₀ v text)
    (hw : w₀.TypesInto [n] w) :
    (shown v).Ends caller rounds w (fun t w' => text = .ok t ∧ w' = w) (fun w' => w' = w) := by
  have hrun := h w (hw.near id)
  cases text with
  | ok t => exact Ends.of_run hrun ⟨rfl, rfl⟩
  | error r => exact Ends.of_fail hrun rfl

/-- A note that a control is being fitted is logged at once. -/
theorem Typing.ends_fitting {i : Nat} (h : Typing w₀ n i w) (message : String) (length : Nat) :
    (fitting message i .textField [("chars", .text (toString length))]).Ends caller rounds w
      (fun _ w' => Typing w₀ n i w') (w₀.TypesInto [n] ·) := by
  have hkind : w.scene.field? i "kind" = none := by
    rw [Scene.field?, h.control]
    rfl
  exact Ends.of_run (run_fitting hkind (List.forall_mem_singleton.mpr rfl) message)
    ⟨h.typed.trans (.write [n] w _), h.control⟩

/-- To fit a text field replaces its text by that of the value. -/
theorem Typing.ends_fitText {id i : Nat} (h : Typing w₀ n i w) (he : w₀.scene.elements.lookup n = some e)
    (htext : e.IsTextField w₀.scene.cells) {v : Value} {text : Except Raised String}
    (hsteady : Steady caller rounds id w₀ v text) :
    (fitText i v).Ends caller rounds w
      (fun _ w' => w₀.TypesInto [n] w' ∧
        ∃ t, text = .ok t ∧ w'.scene.elements.lookup n = some { e with value := .text t })
      (w₀.TypesInto [n] ·) := by
  have hown : w.scene.field? i writableMember = none := by
    rw [Scene.field?, h.control]
    rfl
  have hwritable : (byMember i writableMember [] (assertWritable i .textField)).Ends caller rounds w
      (fun _ w' => Typing w₀ n i w') (w₀.TypesInto [n] ·) := by
    rw [Ends, run_byMember hown]
    exact h.ends_assertWritable he htext
  refine Ends.bind hwritable fun _ w₁ hw₁ => ?_
  refine Ends.bind ((ends_shown hsteady hw₁.typed).mono (fun _ _ h => h) fun _ hw => hw ▸ hw₁.typed) ?_
  rintro t _ ⟨ht, rfl⟩
  refine Ends.bind (hw₁.ends_fitting _ _) fun _ w₂ hw₂ => ?_
  refine Ends.bind (Ends.of_run hw₂.run_wrappedIn (Q := fun a w' => a = .element n ∧ w' = w₂) ⟨rfl, rfl⟩) ?_
  rintro _ _ ⟨rfl, rfl⟩
  rw [callMember_element (u := .clear) n (by decide) (by decide) rfl]
  refine Ends.bind (Q := fun _ w' => Typing w₀ n i w' ∧
    w'.scene.elements.lookup n = some { e with value := .text "" }) (hw₂.ends_use rfl he ?_) ?_
  · intro _ w' hw' _ hcleared
    exact ⟨hw', hcleared⟩
  rintro _ w₃ ⟨hw₃, hcleared⟩
  refine Ends.bind (Ends.of_run hw₃.run_wrappedIn (Q := fun a w' => a = .element n ∧ w₃ = w') ⟨rfl, rfl⟩) ?_
  rintro _ _ ⟨rfl, rfl⟩
  rw [attributeOf_member n (by decide) (by decide)]
  refine Ends.bind (ends_done (Q := fun f w' => f = .member (.element n) "send_keys" ∧ w₃ = w') ⟨rfl, rfl⟩) ?_
  rintro _ _ ⟨rfl, rfl⟩
  refine Ends.bind ((ends_shown hsteady hw₃.typed).mono (fun _ _ h => h) fun _ hw => hw ▸ hw₃.typed) ?_
  rintro t' _ ⟨ht', rfl⟩
  obtain rfl : t = t' := Except.ok.inj (ht.symm.trans ht')
  rw [callValue_member (u := .sendKeys [.text t]) n rfl]
  refine Ends.bind (Q := fun _ w' => w₀.TypesInto [n] w' ∧
    w'.scene.elements.lookup n = some { e with value := .text t }) (hw₃.ends_use rfl he ?_) ?_
  · intro v' w' hw' hbefore hafter
    obtain rfl : v' = .text "" := by
      have heq := Option.some.inj (hbefore.symm.trans hcleared)
      exact congrArg Element.value heq
    have hkeys : (({ e with value := .text "" } : Element).use w₀.scene.cells (.sendKeys [.text t])) =
        (.ok .none, { e with value := .text t }) := by
      rw [Element.use_sendKeys _ rfl, String.empty_append]
    rw [hkeys] at hafter ⊢
    exact ⟨hw'.typed, hafter⟩
  rintro _ w₄ ⟨hw₄, htyped⟩
  exact ends_done ⟨hw₄, t, ht, htyped⟩

/-- To fit an element that is a text field replaces its text by that of the value; whatever
comes of it, nothing else changes on the page, and nothing outside of it. -/
theorem ends_fit {id : Nat} (he : w.scene.elements.lookup n = some e) (htext : e.IsTextField w.scene.cells)
    {v : Value} (hv : v.isNone = false) {text : Except Raised String} (hsteady : Steady caller rounds id w v text) :
    (fit (.element n) v).Ends caller rounds w
      (fun _ w' => w.TypesInto [n] w' ∧
        ∃ t, text = .ok t ∧ w'.scene.elements.lookup n = some { e with value := .text t })
      (w.TypesInto [n] ·) := by
  rw [fit, hv]
  refine Ends.bind (ends_editable he htext) ?_
  rintro _ w₁ ⟨i, rfl, hw₁⟩
  have hfit : w₁.scene.field? i fittingMember = none := by
    rw [Scene.field?, hw₁.control]
    rfl
  show (byMember i fittingMember [v] (fitControl i .textField v)).Ends caller rounds w₁ _ _
  rw [Ends, run_byMember hfit, fitControl, hv]
  exact hw₁.ends_fitText he htext hsteady

end Prog

end PageObjects
