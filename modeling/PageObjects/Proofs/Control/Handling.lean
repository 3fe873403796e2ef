import PageObjects.Proofs.Control.Typing

/-!
# What comes of one fit

A fit of a text field, a check box or a radio button is told by its element alone: whether it
succeeds, how the element is used, and what it is like afterwards.

Main definitions:

- `Element.Obeys`: elements that answer with truth values, and turn over when clicked.
- `Element.fit?`: what comes of fitting an element, as uses and an element.
- `World.ComesTo`: a run that fits an element comes to what is told.

Main results:

- Theorem `Prog.run_fitText`, `Prog.run_fitCheckBox` and `Prog.run_fitRadioButton`: the fits
  of controls of the three kinds.
- Theorem `Prog.run_fitControl`: a control is fitted as its element tells.
-/

namespace PageObjects

open Prog

/-! ## One value -/

/-- The state that a value stands for. -/
def Value.wanted? (v : Value) : Option Toggle := v.word?.bind stateNamed?

/-- Whether a value stands for being chosen. -/
def Value.wantsSet (v : Value) : Bool := v.wanted? == some .set

/-- A value that stands for a state which elements of a kind can be brought into. -/
def Value.StandsFor (v : Value) (kind : ControlKind) : Prop :=
  kind = .checkBox ∧ v.wanted?.isSome = true ∨ kind = .radioButton ∧ v.wantsSet = true

namespace Element

/-- Whether an element is chosen. -/
def chosen (e : Element) : Bool :=
  match e.selected with
  | .bool b => b
  | _ => false

/-- An element with another text. -/
def typed (e : Element) (t : String) : Element := { e with value := .text t }

/-- An element in another state. -/
def turned (e : Element) (b : Bool) : Element := { e with selected := .bool b }

/-- Whether an element is enabled and may be written to. -/
def writable (cells : Cells) (e : Element) : Bool :=
  cells.truthy e.enabled &&
    match e.getAttribute cells (.text "readonly") with
    | .ok readonly => allowsWriting cells readonly
    | .error _ => false

/-- Elements that answer whether they are enabled or chosen with a truth value; a click turns a
check box over, and chooses a radio button. -/
inductive Obeys (cells : Cells) (e : Element) : ControlKind → Prop where
  | textField {b : Bool} : e.enabled = .bool b → Obeys cells e .textField
  | checkBox {b : Bool} : e.selected = .bool b → e.flips cells = .ok true → Obeys cells e .checkBox
  | radioButton {b : Bool} : e.selected = .bool b → e.flips cells = .ok false → Obeys cells e .radioButton

/-- To type a text into an element: the uses, the latest first, and the element after them. -/
def fitText? (cells : Cells) (e : Element) (t : String) : Option (List ElementUse × Element) :=
  if e.writable cells then
    some ([.sendKeys [.text t], .clear, .getAttribute (.text "readonly"), .isEnabled], e.typed t)
  else none

/-- To bring an element into a state. -/
def fitState? (cells : Cells) (e : Element) (b : Bool) : Option (List ElementUse × Element) :=
  if e.chosen = b then some ([.isSelected], e)
  else if (Raised.ofValue? cells e.clickFault).isNone then some ([.click, .isSelected], e.turned b)
  else none

variable (cells : Cells) (kind : ControlKind) (text : Value → Except Raised String)

/-- To fit an element to a value that is not absent. -/
def fit? (e : Element) (v : Value) : Option (List ElementUse × Element) :=
  match kind with
  | .textField => (text v).toOption.bind fun t => e.fitText? cells t
  | .checkBox => v.wanted?.bind fun t => e.fitState? cells (t == .set)
  | .radioButton => if v.wantsSet then e.fitState? cells true else none
  | _ => none

end Element

/-- What a run that fits an element comes to, and how the element has been handled if it succeeds. -/
def World.ComesTo (w : World) (n : String) (r : Result Unit) : Option (List ElementUse × Element) → Prop
  | some (uses, e) => ∃ w', r = (.ok (), w') ∧ w.Handled n uses e w'
  | none => ∃ fault w', r = (.error fault, w')

/-- An element is there, and a control wraps it. -/
structure World.Holds (w : World) (n : String) (i : Nat) (e : Element) : Prop where
  element : w.scene.elements.lookup n = some e
  control : w.scene.fieldsOf i = [(wrappedField, .element n)]

namespace World.Holds

variable {w w' : World} {n : String} {i : Nat} {e e' : Element} {uses : List ElementUse}

theorem wrapped (h : w.Holds n i e) : w.scene.field? i wrappedField = some (.element n) := by
  rw [Scene.field?, h.control]
  rfl

/-- A control keeps nothing but what it wraps. -/
theorem field?_eq_none (h : w.Holds n i e) {name : String} (hname : name ≠ wrappedField) :
    w.scene.field? i name = none := by
  have hne : (name == wrappedField) = false := by simpa using hname
  rw [Scene.field?, h.control, List.lookup_cons, hne]
  rfl

/-- To handle the element leaves the control as it is. -/
theorem handled (h : w.Holds n i e) (hw : w.Handled n uses e' w') : w'.Holds n i e' := by
  refine ⟨hw.element, ?_⟩
  rw [hw.fieldsOf (Scene.lt_of_field? h.wrapped)]
  exact h.control

end World.Holds

/-- To handle an element changes nothing but the page. -/
theorem World.Handled.near {n : String} {uses : List ElementUse} {e : Element} {w w' : World}
    (h : w.Handled n uses e w') (id : Nat) : w.Near id w' where
  surroundings := h.surroundings
  instances := h.instances.length_le
  others i hi _ := by
    obtain ⟨more, hmore⟩ := h.instances
    rw [← hmore, List.getElem?_append_left hi]

/-- What a run comes to after the element has been handled. -/
theorem World.ComesTo.after {w w' : World} {n : String} {uses : List ElementUse} {e : Element} {r : Result Unit}
    {o : Option (List ElementUse × Element)} (h : w'.ComesTo n r o) (hw' : w.Handled n uses e w') :
    w.ComesTo n r (o.map fun more => (more.1 ++ uses, more.2)) := by
  cases o with
  | none => exact h
  | some more =>
    obtain ⟨w'', hrun, hw''⟩ := h
    exact ⟨w'', hrun, hw'.trans hw''⟩

/-- A run that fits an element succeeds if the element can be fitted. -/
theorem World.ComesTo.ok_iff {w : World} {n : String} {r : Result Unit} {o : Option (List ElementUse × Element)}
    (h : w.ComesTo n r o) : r.1 = .ok () ↔ o.isSome = true := by
  cases o with
  | none =>
    obtain ⟨fault, w', rfl⟩ := h
    simp
  | some one =>
    obtain ⟨w', rfl, -⟩ := h
    simp

/-- What two runs come to, one after the other. -/
theorem World.ComesTo.bind {caller : Caller} {rounds : Nat} {w : World} {n : String} {p k : Prog Unit}
    {one : Option (List ElementUse × Element)} {f : Element → Option (List ElementUse × Element)}
    (h : w.ComesTo n (run caller rounds p w) one)
    (hk : ∀ uses e w', one = some (uses, e) → w.Handled n uses e w' →
      w'.ComesTo n (run caller rounds k w') (f e)) :
    w.ComesTo n (run caller rounds (p.bind fun _ => k) w)
      (one.bind fun first => (f first.2).map fun rest => (rest.1 ++ first.1, rest.2)) := by
  rw [run_bind]
  cases one with
  | none =>
    obtain ⟨fault, w', hrun⟩ := h
    exact ⟨fault, w', by rw [hrun, andThen_error]⟩
  | some first =>
    obtain ⟨uses, e⟩ := first
    obtain ⟨w', hrun, hw'⟩ := h
    rw [hrun, andThen_ok, Option.bind_some]
    exact (hk uses e w' rfl hw').after hw'

namespace Prog

variable {caller : Caller} {rounds : Nat} {w : World} {n : String} {i id : Nat} {e : Element} {v : Value}
  {kind : ControlKind} {text : Value → Except Raised String}

/-- To refuse to write ends with a fault. -/
theorem run_refuseWriting (i : Nat) (kind : ControlKind) (w : World) :
    ∃ fault w', run caller rounds (refuseWriting i kind) w = (.error fault, w') := by
  rw [refuseWriting, bind_eq, run_bind]
  rcases run caller rounds (inspected (.control i kind)) w with ⟨fault | t, w'⟩
  · exact ⟨fault, w', rfl⟩
  · exact ⟨_, w', rfl⟩

variable (caller rounds) in
/-- A text field is asked whether it may be written to. -/
theorem run_assertWritable (h : w.Holds n i e) {b : Bool} (henabled : e.enabled = .bool b) :
    w.ComesTo n (run caller rounds (assertWritable i .textField) w)
      (if e.writable w.scene.cells then some ([.getAttribute (.text "readonly"), .isEnabled], e) else none) := by
  obtain ⟨w₁, hrun₁, hw₁⟩ : ∃ w₁, run caller rounds (performing (.useElement n .isEnabled)) w = (.ok (.bool b), w₁) ∧
      w.Handled n [.isEnabled] e w₁ := run_use h.element (by rw [← henabled]; rfl)
  have hwritable : e.writable w.scene.cells = (b && match e.getAttribute w.scene.cells (.text "readonly") with
      | .ok readonly => allowsWriting w.scene.cells readonly
      | .error _ => false) := by
    rw [Element.writable, henabled]
    rfl
  rw [assertWritable, bind_eq, run_bind, run_wrappedIn h.wrapped, andThen_ok,
    callMember_element (u := .isEnabled) n (by decide) (by decide) rfl, bind_eq, run_bind, hrun₁, andThen_ok, bind_eq,
    run_bind, run_truth_bool, andThen_ok, hwritable]
  cases b with
  | false => exact run_refuseWriting i .textField w₁
  | true =>
    rw [if_pos rfl, callMember_element (u := .getAttribute (.text "readonly")) n (by decide) (by decide) rfl,
      bind_eq, run_bind]
    cases hreadonly : e.getAttribute w.scene.cells (.text "readonly") with
    | error fault =>
      rw [run_useElement hw₁.element, hw₁.cells]
      simp only [Element.use, hreadonly]
      exact ⟨_, _, rfl⟩
    | ok readonly =>
      obtain ⟨w₂, hrun₂, hw₂⟩ : ∃ w₂,
          run caller rounds (performing (.useElement n (.getAttribute (.text "readonly")))) w₁ = (.ok readonly, w₂) ∧
            w₁.Handled n [.getAttribute (.text "readonly")] e w₂ := by
        refine run_use hw₁.element ?_
        rw [hw₁.cells]
        simp only [Element.use, hreadonly]
      rw [hrun₂, andThen_ok, bind_eq, run_view_bind, hw₂.cells, hw₁.cells]
      by_cases hallowed : allowsWriting w.scene.cells readonly = true
      · simp only [hallowed, Bool.true_and, if_true]
        exact ⟨w₂, rfl, hw₁.trans hw₂⟩
      · simp only [hallowed, Bool.true_and, if_false, Bool.false_eq_true]
        exact run_refuseWriting i .textField w₂

/-- What a text field does once it is known that it may be written to. -/
def retype (i : Nat) (v : Value) : Prog Unit :=
  (shown v).bind fun text => (fitting "clear + type" i .textField [("chars", .text (toString text.length))]).bind fun _ =>
    (wrappedIn i).bind fun element => (callMember element "clear" []).bind fun _ =>
      (wrappedIn i).bind fun element => (attributeOf "send_keys" element).bind fun sendKeys =>
        (shown v).bind fun typed => (callValue sendKeys [.text typed] []).bind fun _ => .done ()

theorem fitText_eq (i : Nat) (v : Value) :
    fitText i v = (byMember i writableMember [] (assertWritable i .textField)).bind fun _ => retype i v := rfl

variable (caller rounds) in
/-- A note of a control is logged at once. -/
theorem run_note (h : w.Holds n i e) {context : Log.Context} (hplain : context.Plain) (message : String)
    (kind : ControlKind) :
    ∃ w', run caller rounds (fitting message i kind context) w = (.ok (), w') ∧ w.Handled n [] e w' :=
  ⟨_, run_fitting (h.field?_eq_none (by decide)) hplain message, (World.Handled.refl h.element).write _⟩

/-- The text of a value takes the place of that of the element. -/
theorem run_retype (h : w.Holds n i e) (hsteady : Steady caller rounds id w v (text v)) :
    w.ComesTo n (run caller rounds (retype i v) w)
      ((text v).toOption.map fun t => ([.sendKeys [.text t], .clear], e.typed t)) := by
  have hshown := hsteady w (.refl id w)
  rw [retype, run_bind, hshown]
  cases htext : text v with
  | error fault => exact ⟨fault, w, rfl⟩
  | ok t =>
    have hplain : Log.Context.Plain [("chars", .text (toString t.length))] := List.forall_mem_singleton.mpr rfl
    obtain ⟨w₁, hnote, hw₁⟩ := run_note caller rounds h hplain "clear + type" .textField
    obtain ⟨w₂, hclear, hw₂⟩ : ∃ w₂, run caller rounds (performing (.useElement n .clear)) w₁ = (.ok .none, w₂) ∧
        w₁.Handled n [.clear] (e.typed "") w₂ := run_use hw₁.element rfl
    -- the text is found once more when the field has been cleared
    have hagain : run caller rounds (shown v) w₂ = (.ok t, w₂) := by
      rw [hsteady w₂ ((hw₁.trans hw₂).near id), htext]
    obtain ⟨w₃, hkeys, hw₃⟩ : ∃ w₃,
        run caller rounds (performing (.useElement n (.sendKeys [.text t]))) w₂ = (.ok .none, w₃) ∧
          w₂.Handled n [.sendKeys [.text t]] (e.typed t) w₃ := by
      refine run_use hw₂.element ?_
      rw [Element.use_sendKeys _ rfl, String.empty_append]
      rfl
    rw [andThen_ok, run_bind, hnote, andThen_ok, run_bind, run_wrappedIn (h.handled hw₁).wrapped, andThen_ok,
      callMember_element (u := .clear) n (by decide) (by decide) rfl, run_bind, hclear, andThen_ok, run_bind,
      run_wrappedIn ((h.handled hw₁).handled hw₂).wrapped, andThen_ok,
      attributeOf_member n (by decide) (by decide), run_bind, run_done, andThen_ok, run_bind, hagain, andThen_ok,
      callValue_member (u := .sendKeys [.text t]) n rfl, run_bind, hkeys]
    exact ⟨w₃, rfl, (hw₁.trans hw₂).trans hw₃⟩

/-- A text field is fitted as its element says. -/
theorem run_fitText (h : w.Holds n i e) {b : Bool} (henabled : e.enabled = .bool b)
    (hsteady : Steady caller rounds id w v (text v)) :
    w.ComesTo n (run caller rounds (fitText i v) w)
      ((text v).toOption.bind fun t => e.fitText? w.scene.cells t) := by
  have hboth := (run_assertWritable caller rounds h henabled).bind (k := retype i v)
    (f := fun e => (text v).toOption.map fun t => ([.sendKeys [.text t], .clear], e.typed t))
    fun _ _ w' _ hw' => run_retype (h.handled hw') (hsteady.near (hw'.near id))
  have hsame : ((text v).toOption.bind fun t => e.fitText? w.scene.cells t) =
      (if e.writable w.scene.cells then some ([.getAttribute (.text "readonly"), .isEnabled], e) else none).bind
        fun first => ((text v).toOption.map fun t => ([.sendKeys [.text t], .clear], first.2.typed t)).map
          fun rest => (rest.1 ++ first.1, rest.2) := by
    by_cases hwritable : e.writable w.scene.cells = true
    · cases (text v).toOption <;> simp [Element.fitText?, hwritable]
    · cases (text v).toOption <;> simp [Element.fitText?, hwritable]
  have hown : w.scene.field? i writableMember = none := h.field?_eq_none (by decide)
  rw [fitText_eq, run_bind, run_byMember hown, ← run_bind, hsame]
  exact hboth

/-- To turn an element over is to click it. -/
def turnOver (i : Nat) (kind : ControlKind) (message : String) (context : Log.Context) : Prog Unit :=
  (fitting message i kind context).bind fun _ => (wrappedIn i).bind fun element =>
    (callMember element "click" []).bind fun _ => .done ()

variable (caller rounds) in
/-- An element that is clicked is in the other state, unless the click fails. -/
theorem run_turnOver (h : w.Holds n i e) (kind : ControlKind) {context : Log.Context} (hplain : context.Plain)
    (message : String) {b flips : Bool} (hflips : e.flips w.scene.cells = .ok flips)
    (hclicked : e.clicked w.scene.cells flips = e.turned b) :
    w.ComesTo n (run caller rounds (turnOver i kind message context) w)
      (if (Raised.ofValue? w.scene.cells e.clickFault).isNone then some ([.click], e.turned b) else none) := by
  obtain ⟨w₁, hnote, hw₁⟩ := run_note caller rounds h hplain message kind
  rw [turnOver, run_bind, hnote, andThen_ok, run_bind, run_wrappedIn (h.handled hw₁).wrapped, andThen_ok,
    callMember_element (u := .click) n (by decide) (by decide) rfl, run_bind]
  cases hfault : Raised.ofValue? w.scene.cells e.clickFault with
  | some fault =>
    rw [run_useElement hw₁.element, hw₁.cells]
    simp only [Element.use, Element.clicking, hfault]
    exact ⟨_, _, rfl⟩
  | none =>
    obtain ⟨w₂, hclick, hw₂⟩ : ∃ w₂, run caller rounds (performing (.useElement n .click)) w₁ = (.ok .none, w₂) ∧
        w₁.Handled n [.click] (e.turned b) w₂ := by
      refine run_use hw₁.element ?_
      rw [hw₁.cells, ← hclicked]
      simp only [Element.use, Element.clicking, hfault, hflips]
    rw [hclick]
    exact ⟨w₂, rfl, hw₁.trans hw₂⟩

variable (caller rounds) in
/-- An element is asked whether it is chosen, and turned over if it has to be. -/
theorem run_reach (h : w.Holds n i e) (kind : ControlKind) (context : Log.Context) (hplain : context.Plain)
    (message : String) {c b flips : Bool}
    (hselected : e.selected = .bool c) (hflips : e.flips w.scene.cells = .ok flips)
    (hclicked : c ≠ b → e.clicked w.scene.cells flips = e.turned b) :
    ∃ w₁, run caller rounds (callMember (.element n) "is_selected" []) w = (.ok (.bool c), w₁) ∧
      w.Handled n [.isSelected] e w₁ ∧
      w.ComesTo n (run caller rounds (if c = b then .done () else turnOver i kind message context) w₁)
        (e.fitState? w.scene.cells b) := by
  obtain ⟨w₁, hrun, hw₁⟩ : ∃ w₁, run caller rounds (performing (.useElement n .isSelected)) w = (.ok (.bool c), w₁) ∧
      w.Handled n [.isSelected] e w₁ := run_use h.element (by rw [← hselected]; rfl)
  have hchosen : e.chosen = c := by rw [Element.chosen, hselected]
  refine ⟨w₁, ?_, hw₁, ?_⟩
  · rw [callMember_element (u := .isSelected) n (by decide) (by decide) rfl]
    exact hrun
  · rw [Element.fitState?, hchosen]
    by_cases hsame : c = b
    · rw [if_pos hsame, if_pos hsame]
      exact ⟨w₁, rfl, hw₁⟩
    · have hturned := (run_turnOver caller rounds (h.handled hw₁) kind hplain
        message (hw₁.cells ▸ hflips) (hw₁.cells ▸ hclicked hsame)).after hw₁
      rw [hw₁.cells] at hturned
      rw [if_neg hsame, if_neg hsame]
      split at hturned
      · rename_i hclickable
        rw [if_pos hclickable]
        exact hturned
      · rename_i hclickable
        rw [if_neg hclickable]
        exact hturned

variable (caller rounds) in
/-- A value that stands for no state ends with a fault. -/
theorem run_wantedState_none (hv : v.wanted? = none) (w : World) :
    ∃ fault w', run caller rounds (wantedState v) w = (.error fault, w') := by
  rw [wantedState, show v.word?.bind stateNamed? = none from hv]
  simp only [bind_eq, run_bind]
  rcases run caller rounds (inspected v) w with ⟨fault | t, w'⟩
  · exact ⟨fault, w', rfl⟩
  · exact ⟨_, w', rfl⟩

theorem wantedState_some {t : Toggle} (hv : v.wanted? = some t) : wantedState v = .done t := by
  rw [wantedState, show v.word?.bind stateNamed? = some t from hv]
  rfl

/-- Truth values are the same if they are equal. -/
theorem same_bool (cells : Cells) (b c : Bool) : cells.same (.bool b) (.bool c) = decide (b = c) := by
  cases b <;> cases c <;> simp [Cells.same, Cells.sameWithin, Cells.sameBy, Cells.depthLimit, Value.identity]

/-- A check box is fitted as its element says. -/
theorem run_fitCheckBox (h : w.Holds n i e) {c : Bool} (hselected : e.selected = .bool c)
    (hflips : e.flips w.scene.cells = .ok true) :
    w.ComesTo n (run caller rounds (fitCheckBox i v) w)
      (v.wanted?.bind fun t => e.fitState? w.scene.cells (t == .set)) := by
  cases hv : v.wanted? with
  | none =>
    obtain ⟨fault, w', hrun⟩ := run_wantedState_none caller rounds hv w
    rw [fitCheckBox, bind_eq, run_bind, hrun]
    exact ⟨fault, w', rfl⟩
  | some t =>
    have hclicked : c ≠ (t == .set) → e.clicked w.scene.cells true = e.turned (t == .set) := by
      intro hne
      have hnot : (!c) = (t == .set) := by
        cases c <;> cases hset : t == .set <;> simp_all
      rw [Element.clicked, Element.turned, hselected, ← hnot]
      rfl
    obtain ⟨w₁, hrun, hw₁, hcomes⟩ := run_reach caller rounds h .checkBox
      [("to", .text (Value.toggleWord t))] (List.forall_mem_singleton.mpr rfl) "toggle" hselected hflips
      hclicked
    rw [fitCheckBox, wantedState_some hv]
    change w.ComesTo n (run caller rounds ((wrappedIn i).bind fun element => _) w) _
    rw [run_bind, run_wrappedIn h.wrapped, andThen_ok, bind_eq, run_bind, hrun, andThen_ok, bind_eq, run_view_bind,
      same_bool]
    by_cases hsame : c = (t == .set)
    · rw [if_pos hsame] at hcomes
      rw [if_pos (decide_eq_true hsame)]
      exact hcomes
    · rw [if_neg hsame] at hcomes
      rw [if_neg (by simpa using hsame)]
      exact hcomes

/-- A radio button is fitted as its element says. -/
theorem run_fitRadioButton (h : w.Holds n i e) {c : Bool} (hselected : e.selected = .bool c)
    (hflips : e.flips w.scene.cells = .ok false) :
    w.ComesTo n (run caller rounds (fitRadioButton i v) w)
      (if v.wantsSet then e.fitState? w.scene.cells true else none) := by
  cases hv : v.wanted? with
  | none =>
    obtain ⟨fault, w', hrun⟩ := run_wantedState_none caller rounds hv w
    rw [fitRadioButton, bind_eq, run_bind, hrun, Value.wantsSet, hv]
    exact ⟨fault, w', rfl⟩
  | some t =>
    rw [fitRadioButton, wantedState_some hv, Value.wantsSet, hv]
    cases t with
    | clear => exact ⟨_, w, rfl⟩
    | set =>
      obtain ⟨w₁, hrun, hw₁, hcomes⟩ := run_reach caller rounds h .radioButton [] (fun _ hentry => nomatch hentry)
        "select radio" hselected hflips (b := true) fun _ => rfl
      change w.ComesTo n (run caller rounds ((wrappedIn i).bind fun element => _) w) _
      rw [run_bind, run_wrappedIn h.wrapped, andThen_ok, bind_eq, run_bind, hrun, andThen_ok, bind_eq, run_bind,
        run_truth_bool, andThen_ok]
      exact hcomes

/-- A control is fitted as its element says. -/
theorem run_fitControl (h : w.Holds n i e) (hobeys : e.Obeys w.scene.cells kind) (hv : v.isNone = false)
    (hsteady : kind = .textField → Steady caller rounds id w v (text v)) :
    w.ComesTo n (run caller rounds (fitControl i kind v) w) (e.fit? w.scene.cells kind text v) := by
  cases hobeys with
  | textField henabled =>
    have hfit : fitControl i .textField v = fitText i v := if_neg (by simp [hv])
    rw [hfit]
    exact run_fitText h henabled (hsteady rfl)
  | checkBox hselected hflips =>
    have hfit : fitControl i .checkBox v = fitCheckBox i v := if_neg (by simp [hv])
    rw [hfit]
    exact run_fitCheckBox h hselected hflips
  | radioButton hselected hflips =>
    have hfit : fitControl i .radioButton v = fitRadioButton i v := if_neg (by simp [hv])
    rw [hfit]
    exact run_fitRadioButton h hselected hflips

theorem run_fitByMember (h : w.Holds n i e) :
    run caller rounds (fitByMember i kind v) w = run caller rounds (fitControl i kind v) w := by
  rw [fitByMember, run_byMember (h.field?_eq_none (by decide))]

end Prog

end PageObjects
