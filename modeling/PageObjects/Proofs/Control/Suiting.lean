import PageObjects.Proofs.Control.Using

/-!
# The control that suits an element

The control of an element is of the kind that its tag, and for an input its type, tell.  To
make it reads the element, and leaves it as it is.

Main definitions:

- `Value.ReadsAs`: how a text that an element gives is read.
- `Element.Suits`: the kind of control that suits an element, and the uses that tell.

Main results:

- Theorem `Prog.run_makeControl`: a control wraps its element.
- Theorem `Prog.run_editable`: an element gets the control that suits it.
-/

namespace PageObjects

open Prog

/-- What an element says about itself is read in lower case; another text is taken instead
of one that is empty or absent. -/
inductive Value.ReadsAs (instead : String) : Value → String → Prop where
  | text {t : String} : t ≠ "" → ReadsAs instead (.text t) (Text.lowercaseString t)
  | empty : ReadsAs instead (.text "") instead
  | absent : ReadsAs instead .none instead

/-- The kind of control that suits an element, and the uses of the element that tell. -/
inductive Element.Suits (cells : Cells) (e : Element) : ControlKind → List ElementUse → Prop where
  | choices : e.tag.ReadsAs "" "select" → Suits cells e .selectList [.tagName]
  | input {type : Value} {word : String} : e.tag.ReadsAs "" "input" →
      e.getAttribute cells (.text "type") = .ok type → type.ReadsAs "text" word →
      Suits cells e (inputKind word) [.getAttribute (.text "type"), .tagName]
  | other {word : String} : e.tag.ReadsAs "" word → word ≠ "select" → word ≠ "input" →
      Suits cells e .textField [.tagName]

namespace Prog

variable {caller : Caller} {rounds : Nat} {w : World} {n : String} {e : Element} {kind : ControlKind}
  {uses : List ElementUse}

/-- How a text that an element gives is read. -/
theorem run_lowered {v : Value} {instead t : String} (h : v.ReadsAs instead t) (w : World) :
    run caller rounds (lowered instead v) w = (.ok t, w) := by
  cases h with
  | text ht =>
    rename_i t
    have htrue : w.scene.truthy (.text t) = true := bne_iff_ne.mpr ht
    change run caller rounds (if w.scene.truthy (.text t) = true then _ else _) w = _
    rw [if_pos htrue]
    rfl
  | empty => rfl
  | absent => rfl

/-- A control that is made of an element that has been handled wraps it. -/
theorem run_makeControl {w₁ : World} (hw₁ : w.Handled n uses e w₁)
    (hfresh : w₁.scene.instances = w.scene.instances) (kind : ControlKind) :
    ∃ w', run caller rounds (makeControl kind (.element n)) w₁ =
        (.ok (.control w.scene.instances.length kind), w') ∧ w.Handled n uses e w' ∧
      w'.scene.fieldsOf w.scene.instances.length = [(wrappedField, .element n)] := by
  refine ⟨((Op.addInstance { fields := [(wrappedField, .element n)] }).run w₁).2, ?_, ?_, ?_⟩
  · rw [← hfresh]
    rfl
  · exact ⟨hw₁.surroundings, hw₁.instances.trans (List.prefix_append _ _), hw₁.element, hw₁.others, hw₁.events⟩
  · rw [← hfresh]
    exact World.fieldsOf_addInstance ..

/-- An element is asked for its tag first. -/
theorem run_editable_tag {word : String} (he : w.scene.elements.lookup n = some e) (htag : e.tag.ReadsAs "" word) :
    run caller rounds (editable (.element n)) w =
      run caller rounds (if word = "select" then makeControl .selectList (.element n)
        else if word = "input" then
          (callMember (.element n) "get_attribute" [.text "type"]).bind fun type =>
            (lowered "text" type).bind fun type => makeControl (inputKind type) (.element n)
        else makeControl .textField (.element n)) (w.asked [.element n .tagName]) := by
  have hread : run caller rounds (performing (.useElement n .tagName)) w =
      (.ok e.tag, w.asked [.element n .tagName]) := run_reading he rfl
  change run caller rounds ((performing (.useElement n .tagName)).bind fun tag =>
    (lowered "" tag).bind fun tag => _) w = _
  rw [run_bind, hread, andThen_ok, run_bind, run_lowered htag, andThen_ok]
  rfl

variable (caller rounds) in
/-- An element gets a control of the kind that suits it, and is left as it is. -/
theorem run_editable (he : w.scene.elements.lookup n = some e) (h : e.Suits w.scene.cells kind uses) :
    ∃ w', run caller rounds (editable (.element n)) w = (.ok (.control w.scene.instances.length kind), w') ∧
      w.Handled n uses e w' ∧ w'.scene.fieldsOf w.scene.instances.length = [(wrappedField, .element n)] := by
  have hasked : w.Handled n [.tagName] e (w.asked [.element n .tagName]) :=
    ⟨rfl, List.prefix_rfl, he, fun _ _ => rfl, rfl⟩
  cases h with
  | choices htag =>
    rw [run_editable_tag he htag, if_pos rfl]
    exact run_makeControl hasked rfl _
  | other htag hselect hinput =>
    rw [run_editable_tag he htag, if_neg hselect, if_neg hinput]
    exact run_makeControl hasked rfl _
  | @input type word htag htype hword =>
    have hread : run caller rounds (performing (.useElement n (.getAttribute (.text "type"))))
        (w.asked [.element n .tagName]) =
          (.ok type, (w.asked [.element n .tagName]).asked [.element n (.getAttribute (.text "type"))]) := by
      refine run_reading he ?_
      change e.use w.scene.cells _ = _
      simp only [Element.use, htype]
    have hasked' : w.Handled n [.getAttribute (.text "type"), .tagName] e
        ((w.asked [.element n .tagName]).asked [.element n (.getAttribute (.text "type"))]) :=
      ⟨rfl, List.prefix_rfl, he, fun _ _ => rfl, rfl⟩
    rw [run_editable_tag he htag, if_neg (by decide), if_pos rfl,
      callMember_element (u := .getAttribute (.text "type")) n (by decide) (by decide) rfl, run_bind, hread, andThen_ok,
      run_bind, run_lowered hword, andThen_ok]
    exact run_makeControl hasked' rfl _

end Prog

end PageObjects
