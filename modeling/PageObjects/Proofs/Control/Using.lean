import PageObjects.Control.Fit
import PageObjects.Proofs.Program.Lines
import PageObjects.Proofs.Scene.Fields

/-!
# Using elements

What the use of an element comes to, and what a control does without a trace on the page.

Main definitions:

- `World.asked`: a world in which elements have only been asked.
- `World.Handled`: nothing has changed but one element, which has been used.

Main results:

- Theorem `Prog.run_useElement`: what comes of the use of an element.
- Theorem `Prog.run_reading`: to read an element leaves it as it is.
- Theorem `World.Handled.trans`: uses that follow each other.
- Theorem `Prog.run_use`: a use that has an answer handles its element.
-/

namespace PageObjects

/-- To put under a key what is there already changes nothing. -/
theorem Assoc.put_of_lookup {α β : Type} [BEq α] [LawfulBEq α] {key : α} {value : β} {entries : List (α × β)}
    (h : entries.lookup key = some value) : put key value entries = entries := by
  induction entries with
  | nil => cases h
  | cons entry rest ih =>
    obtain ⟨k, v⟩ := entry
    by_cases hk : k = key
    · subst hk
      rw [List.lookup_cons_self] at h
      cases h
      simp [put]
    · have hne : (key == k) = false := by simpa using fun heq => hk heq.symm
      rw [List.lookup_cons, hne] at h
      simp [put, hk, ih h]

/-! ## What is left of uses -/

/-- A scene without the elements, the events and the instances. -/
def Scene.surroundings (s : Scene) : Scene := { s with elements := [], events := [], instances := [] }

/-- A world in which elements have been asked, the latest first. -/
def World.asked (w : World) (events : List Event) : World :=
  { w with scene := { w.scene with events := events ++ w.scene.events } }

@[simp] theorem World.asked_asked (w : World) (events events' : List Event) :
    (w.asked events).asked events' = w.asked (events' ++ events) := by
  simp [asked]

/-- Nothing has changed but one element, which has been used, the latest use first, and is now as
given.  There may be more instances. -/
structure World.Handled (n : String) (uses : List ElementUse) (e : Element) (w w' : World) : Prop where
  surroundings : w'.scene.surroundings = w.scene.surroundings
  instances : w.scene.instances <+: w'.scene.instances
  element : w'.scene.elements.lookup n = some e
  others : ∀ m, m ≠ n → w'.scene.elements.lookup m = w.scene.elements.lookup m
  events : w'.scene.events = uses.map (Event.element n) ++ w.scene.events

namespace World.Handled

variable {n : String} {uses uses' : List ElementUse} {e e' : Element} {w w' w'' : World}

theorem refl (h : w.scene.elements.lookup n = some e) : w.Handled n [] e w :=
  ⟨rfl, List.prefix_rfl, h, fun _ _ => rfl, rfl⟩

/-- Uses that follow each other. -/
theorem trans (h : w.Handled n uses e w') (h' : w'.Handled n uses' e' w'') : w.Handled n (uses' ++ uses) e' w'' where
  surroundings := h'.surroundings.trans h.surroundings
  instances := h.instances.trans h'.instances
  element := h'.element
  others m hm := (h'.others m hm).trans (h.others m hm)
  events := by rw [h'.events, h.events, List.map_append, List.append_assoc]

/-- A change of the journal alone leaves the element as it is. -/
theorem write (h : w.Handled n uses e w') (entry : Log.Entry) : w.Handled n uses e (w'.write entry) :=
  ⟨h.surroundings, h.instances, h.element, h.others, h.events⟩

theorem cells (h : w.Handled n uses e w') : w'.scene.cells = w.scene.cells := by
  show w'.scene.surroundings.cells = w.scene.surroundings.cells
  rw [h.surroundings]

/-- What instances keep that were there stays as it is. -/
theorem fieldsOf (h : w.Handled n uses e w') {i : Nat} (hi : i < w.scene.instances.length) :
    w'.scene.fieldsOf i = w.scene.fieldsOf i := Scene.fieldsOf_of_prefix h.instances hi

end World.Handled

namespace Prog

variable {caller : Caller} {rounds : Nat} {w : World} {n : String} {e : Element}

/-! ## Uses -/

/-- What comes of the use of an element. -/
theorem run_useElement (h : w.scene.elements.lookup n = some e) (u : ElementUse) :
    (performing (.useElement n u)).run caller rounds w =
      ((e.use w.scene.cells u).1,
        { w with scene := { w.scene.note (.element n u) with
            elements := Assoc.put n (e.use w.scene.cells u).2 w.scene.elements } }) := by
  have hop : (Op.useElement n u).run w =
      ((e.use w.scene.cells u).1,
        { w with scene := { w.scene.note (.element n u) with
            elements := Assoc.put n (e.use w.scene.cells u).2 w.scene.elements } }) := by
    simp only [Op.run, World.withScene, Scene.useElement, h]
  show run caller rounds (ofExcept ((Op.useElement n u).run w).1) ((Op.useElement n u).run w).2 = _
  rw [hop]
  cases (e.use w.scene.cells u).1 <;> rfl

/-- An element that is not there cannot be used. -/
theorem run_useElement_unset (h : w.scene.elements.lookup n = none) (u : ElementUse) :
    (performing (.useElement n u)).run caller rounds w = (.error { fault := .unset }, w) := by
  show run caller rounds (ofExcept ((Op.useElement n u).run w).1) ((Op.useElement n u).run w).2 = _
  simp only [Op.run, World.withScene, Scene.useElement, h]
  rfl

/-- To read an element leaves it as it is. -/
theorem run_reading {n : String} {e : Element} {u : ElementUse} {v : Value} (h : w.scene.elements.lookup n = some e)
    (hread : e.use w.scene.cells u = (.ok v, e)) :
    run caller rounds (performing (.useElement n u)) w = (.ok v, w.asked [.element n u]) := by
  rw [run_useElement h, hread, Assoc.put_of_lookup h]
  rfl

/-- A use that has an answer handles its element. -/
theorem run_use {u : ElementUse} {a : Value} {e' : Element} (h : w.scene.elements.lookup n = some e)
    (huse : e.use w.scene.cells u = (.ok a, e')) :
    ∃ w', run caller rounds (performing (.useElement n u)) w = (.ok a, w') ∧ w.Handled n [u] e' w' := by
  refine ⟨{ w with scene := { w.scene.note (.element n u) with elements := Assoc.put n e' w.scene.elements } }, ?_,
    rfl, List.prefix_rfl, ?_, fun m hm => ?_, rfl⟩
  · rw [run_useElement h, huse]
  · simp [Assoc.lookup_put]
  · have hne : (m == n) = false := by simpa using hm
    simp [Assoc.lookup_put, hne]

/-- The members of an element that can be called are found without a trace. -/
theorem attributeOf_member {name : String} (n : String) (hname : name ≠ "tag_name" ∧ name ≠ "text")
    (hmember : ElementUse.memberNames.contains name = true) :
    attributeOf name (.element n) = .done (.member (.element n) name) := by
  rw [attributeOf_element, elementAttribute]
  · rw [if_pos hmember]
  · exact hname.1
  · exact hname.2

/-- To call a member of an element is to use the element. -/
theorem callValue_member {name : String} {args : List Value} {u : ElementUse} (n : String)
    (hu : ElementUse.ofCall? name args [] = some u) :
    callValue (.member (.element n) name) args [] = performing (.useElement n u) := by
  simp only [callValue, directOp?, hu, Option.map_some]

/-- The members of an element that can be called are uses of it. -/
theorem callMember_element {name : String} {args : List Value} {u : ElementUse} (n : String)
    (hname : name ≠ "tag_name" ∧ name ≠ "text") (hmember : ElementUse.memberNames.contains name = true)
    (hu : ElementUse.ofCall? name args [] = some u) :
    callMember (.element n) name args = performing (.useElement n u) := by
  rw [callMember, attributeOf_member n hname hmember]
  exact callValue_member n hu

/-! ## What controls do at once -/

/-- What is data counts as true or not without being asked. -/
theorem run_truth {v : Value} (h : instanceOf? v = none) (w : World) :
    (truth v).run caller rounds w = (.ok (w.scene.truthy v), w) := by
  cases v with
  | page | control | object => cases h
  | _ => rfl

/-- What is selected counts as true without being asked. -/
theorem run_truth_bool (b : Bool) (w : World) : run caller rounds (truth (.bool b)) w = (.ok b, w) := rfl

/-- What a control wraps is there. -/
theorem run_wrappedIn {i : Nat} {v : Value} (h : w.scene.field? i wrappedField = some v) :
    (wrappedIn i).run caller rounds w = (.ok v, w) := by
  simp only [wrappedIn, bind_eq, run_view_bind, h]
  rfl

/-- What a control has nothing in the place of is done as usual. -/
theorem run_byMember {i : Nat} {name : String} (h : w.scene.field? i name = none) (args : List Value)
    (usual : Prog Unit) : (byMember i name args usual).run caller rounds w = usual.run caller rounds w := by
  rw [byMember, bind_eq, run_view_bind, h]

/-- An element is shown at once, whatever is being shown already. -/
theorem run_inspectAt_element (depth : Nat) (path : List Key) (n : String) (w : World) :
    (Asking.showing.inspectAt (depth + 1) path (.element n)).run caller w =
      (.ok (Value.element n).inspectPlain, w) := by
  have hagain : Showing.loopText? path (.element n) = none := ite_self _
  unfold Showing.inspectAt
  rw [hagain]
  rfl

/-- A control that wraps an element is shown with it. -/
theorem run_inspected_control {i : Nat} (h : w.scene.field? i wrappedField = some (.element n)) (kind : ControlKind) :
    (inspected (.control i kind)).run caller rounds w =
      (.ok ("<" ++ kind.typeName ++ " " ++ wrappedField ++ "=" ++ (Value.element n).inspectPlain ++ ">"), w) := by
  have hdepth : Cells.depthLimit = 958 + 1 + 1 := rfl
  rw [inspected, run_prog, Asking.inspected, Showing.inspect, hdepth]
  unfold Showing.inspectAt
  show ((Asking.showing.inspectAt (958 + 1) [_] ((w.scene.field? i wrappedField).getD .none)).bind _).run caller w = _
  rw [h, Asking.run_bind, Option.getD_some, run_inspectAt_element]
  rfl

/-- A note that a control is being fitted is logged at once if its context is plain. -/
theorem run_fitting {i : Nat} {kind : ControlKind} {context : Log.Context} (hkind : w.scene.field? i "kind" = none)
    (hplain : context.Plain) (message : String) :
    (fitting message i kind context).run caller rounds w =
      (.ok (), w.write (Log.diagnostic .fit message (("kind", .text kind.word) :: context))) := by
  have hall : Log.Context.Plain (("kind", .text kind.word) :: context) := List.forall_mem_cons.mpr ⟨rfl, hplain⟩
  simp only [fitting, bind_eq, run_view_bind, hkind, Option.getD_none]
  exact run_log_of_plain hall w

end Prog

end PageObjects
