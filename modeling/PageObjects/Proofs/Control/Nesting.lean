import PageObjects.Proofs.Control.Typing
import PageObjects.Proofs.Dispatch.Reach

/-!
# Controls inside of controls

A control that wraps a control hands on to it what it does not have itself, and that
control hands it on in turn.  So a name that no kind of control has leads through any number
of controls to what the last one wraps, unless one of them keeps something of its own under
it, or there are more of them than a name is handed on.

Main definitions:

- `ControlKind.IsForeign`: the names that no kind of control has.
- `Scene.Leads`: a name leads through controls to a value.
- `Prog.wrapAll`: make controls around each other.
- `World.withInstances`: a world with more instances.

Main results:

- Theorem `ControlKind.isForeign_iff`: which names are foreign.
- Theorem `Prog.run_attributeAt_leading`: what a name comes to that leads through controls.
- Theorem `Prog.run_attributeAt_tooDeep`: too many controls.
- Theorem `Prog.run_wrapAll`: names lead through the controls that have just been made.
-/

namespace PageObjects

open Prog

/-! ## Names -/

namespace ControlKind

/-- The members of controls whose names are not guarded. -/
def ownNames : List String := ["kind", "fit", "assert_writable"]

/-- The names that no kind of control has, and that are not guarded. -/
def IsForeign (name : String) : Prop :=
  PageType.isGuarded name = false ∧ ∀ owner kind, Scene.controlMember? owner kind name = none

/-- All that things have in common has guarded names. -/
theorem isGuarded_common {name : String} (h : (PageType.commonNames.contains name || name == furtherName) = true) :
    PageType.isGuarded name = true := by
  have hall : ∀ n ∈ furtherName :: PageType.commonNames, PageType.isGuarded n = true := by decide +kernel
  refine hall name (List.mem_cons.mpr ?_)
  rcases Bool.or_eq_true_iff.mp h with h | h
  · exact .inr (List.contains_iff_mem.mp h)
  · exact .inl (beq_iff_eq.mp h)

/-- Whatever a control has itself is one of its own members, or has a guarded name. -/
theorem own_or_isGuarded {owner v : Value} {kind : ControlKind} {name : String}
    (h : Scene.controlMember? owner kind name = some v) : name ∈ ownNames ∨ PageType.isGuarded name = true := by
  unfold Scene.controlMember? at h
  split at h
  · exact .inl (by decide)
  · exact .inl (by decide)
  · exact .inl (by decide)
  · exact .inr (by decide +kernel)
  · exact .inr (by decide +kernel)
  · exact .inr (by decide +kernel)
  · exact .inr (by decide +kernel)
  · split at h
    · exact .inr (isGuarded_common ‹_›)
    · cases h

/-- Foreign names are those that are not guarded, and not among the few members that controls have. -/
theorem isForeign_iff {name : String} : IsForeign name ↔ PageType.isGuarded name = false ∧ name ∉ ownNames := by
  constructor
  · rintro ⟨hguarded, hnone⟩
    refine ⟨hguarded, fun hmem => ?_⟩
    -- a text field has all of these members
    simp only [ownNames, List.mem_cons, List.not_mem_nil, or_false] at hmem
    rcases hmem with rfl | rfl | rfl <;> cases hnone .none .textField
  · rintro ⟨hguarded, hown⟩
    refine ⟨hguarded, fun owner kind => ?_⟩
    cases hmember : Scene.controlMember? owner kind name with
    | none => rfl
    | some v =>
      rcases own_or_isGuarded hmember with hmem | hguarded'
      · exact absurd hmem hown
      · rw [hguarded] at hguarded'
        cases hguarded'

end ControlKind

/-! ## Controls around each other -/

/-- A name leads through a number of controls to a value: each of them wraps the next, and keeps
nothing under the name. -/
inductive Scene.Leads (s : Scene) (name : String) (inner : Value) : Nat → Value → Prop where
  | here : s.Leads name inner 0 inner
  | through {depth : Nat} {v : Value} {i : Nat} {kind : ControlKind} :
      s.field? i wrappedField = some v → s.field? i name = none → s.Leads name inner depth v →
      s.Leads name inner (depth + 1) (.control i kind)

namespace Scene

variable {s s' : Scene} {name : String} {inner v : Value} {depth i : Nat} {kind : ControlKind}

/-- Names lead where they led when there are more instances. -/
theorem Leads.mono (h : s.Leads name inner depth v) (hmore : s.instances <+: s'.instances) :
    s'.Leads name inner depth v := by
  induction h with
  | here => exact .here
  | through hwrapped hown _ ih =>
    have hkept := field?_of_prefix hmore (lt_of_field? hwrapped)
    exact .through ((hkept _).trans hwrapped) ((hkept _).trans hown) ih

/-- A control has nothing of its own under a foreign name that it keeps nothing under. -/
theorem resolveControl_foreign {owner : Value} (hname : ControlKind.IsForeign name) (hown : s.field? i name = none) :
    s.resolveControl owner i kind name =
      match s.field? i wrappedField with
      | some wrapped => .forwarded wrapped
      | none => .refused .noSuchName := by
  have hpart : thingPart? i (.systemType kind.typeName) name = none := by
    cases hp : thingPart? i (.systemType kind.typeName) name with
    | none => rfl
    | some part =>
      have hguarded := hname.1
      rw [(of_thingPart? hp).1] at hguarded
      cases hguarded
  simp only [resolveControl, hpart, hown, hname.2 owner kind, hname.1, Option.or_none, Bool.false_eq_true, if_false]
  rfl

end Scene

namespace Prog

variable {caller : Caller} {rounds : Nat} {w : World} {name : String} {inner v : Value} {depth i : Nat}
  {kind : ControlKind}

/-- A control hands a foreign name on to what it wraps. -/
theorem run_attributeAt_control (hname : ControlKind.IsForeign name)
    (hwrapped : w.scene.field? i wrappedField = some v) (hown : w.scene.field? i name = none) (more : Nat) :
    run caller rounds (attributeAt (more + 1) name (.control i kind)) w =
      run caller rounds (attributeAt more name v) w := by
  rw [attributeAt, bind_eq, run_view_bind, Scene.resolveControl_foreign hname hown, hwrapped]
  rfl

/-- A foreign name is looked up on what it leads to.  Each control takes one more time to hand it on. -/
theorem run_attributeAt_leading (hname : ControlKind.IsForeign name) (h : w.scene.Leads name inner depth v)
    (more : Nat) :
    run caller rounds (attributeAt (more + depth) name v) w = run caller rounds (attributeAt more name inner) w := by
  induction h with
  | here => rfl
  | through hwrapped hown _ ih => exact (run_attributeAt_control hname hwrapped hown _).trans ih

/-- A name that leads through more controls than it is handed on is not found. -/
theorem run_attributeAt_tooDeep (hname : ControlKind.IsForeign name) (h : w.scene.Leads name inner depth v)
    {times : Nat} (htimes : times ≤ depth) :
    run caller rounds (attributeAt times name v) w = (.error { fault := .tooDeep }, w) := by
  induction h generalizing times with
  | here =>
    obtain rfl := Nat.le_zero.mp htimes
    rfl
  | through hwrapped hown _ ih =>
    cases times with
    | zero => rfl
    | succ times =>
      rw [run_attributeAt_control hname hwrapped hown]
      exact ih (Nat.le_of_succ_le_succ htimes)

/-- A control that wraps nothing has no attribute under a foreign name. -/
theorem run_attributeAt_bare (hname : ControlKind.IsForeign name) (hbare : w.scene.field? i wrappedField = none)
    (hown : w.scene.field? i name = none) (more : Nat) :
    run caller rounds (attributeAt (more + 1) name (.control i kind)) w = (.error { fault := .noSuchName }, w) := by
  rw [attributeAt, bind_eq, run_view_bind, Scene.resolveControl_foreign hname hown, hbare]
  rfl

/-- What a name comes to that leads through no more controls than it is handed on. -/
theorem run_attributeOf_leading (hname : ControlKind.IsForeign name) (h : w.scene.Leads name inner depth v)
    (hdepth : depth ≤ handingLimit) :
    run caller rounds (attributeOf name v) w =
      run caller rounds (attributeAt (handingLimit - depth + 1) name inner) w := by
  have htimes : handingLimit + 1 = handingLimit - depth + 1 + depth := by omega
  rw [attributeOf, htimes]
  exact run_attributeAt_leading hname h _

/-- A foreign name that leads to an element is looked up on the element. -/
theorem run_attributeOf_nested {n : String} (hname : ControlKind.IsForeign name)
    (h : w.scene.Leads name (.element n) depth v) (hdepth : depth ≤ handingLimit) :
    run caller rounds (attributeOf name v) w = run caller rounds (attributeOf name (.element n)) w :=
  run_attributeOf_leading hname h hdepth

/-- To show a control leaves the world as it is if to show what it wraps does. -/
theorem run_inspectAt_control (hwrapped : w.scene.field? i wrappedField = some v)
    (h : ∀ fuel path, ((Asking.showing.inspectAt fuel path v).run caller w).2 = w) (fuel : Nat) (path : List Key) :
    ((Asking.showing.inspectAt fuel path (.control i kind)).run caller w).2 = w := by
  cases fuel with
  | zero => rfl
  | succ fuel =>
    have hagain : Showing.loopText? path (.control i kind) = none := ite_self _
    unfold Showing.inspectAt
    rw [hagain]
    change (((Asking.showing.inspectAt fuel _ ((w.scene.field? i wrappedField).getD .none)).bind _).run caller w).2 = w
    rw [hwrapped, Asking.run_bind, Option.getD_some]
    have hinner := h fuel ((Value.control i kind).identity :: path)
    rcases hrun : (Asking.showing.inspectAt fuel ((Value.control i kind).identity :: path) v).run caller w
      with ⟨_ | text, w'⟩ <;> rwa [hrun] at hinner

/-- To show controls around an element leaves the world as it is, also if there are too many of them. -/
theorem run_inspectAt_nested {n : String} (h : w.scene.Leads name (.element n) depth v) (fuel : Nat)
    (path : List Key) : ((Asking.showing.inspectAt fuel path v).run caller w).2 = w := by
  induction h generalizing fuel path with
  | here =>
    cases fuel with
    | zero => rfl
    | succ fuel => rw [run_inspectAt_element]
  | through hwrapped _ _ ih => exact run_inspectAt_control hwrapped ih fuel path

/-! ## Making controls -/

/-- Make controls around a value, the innermost first. -/
def wrapAll : List ControlKind → Value → Prog Value
  | [], v => .done v
  | kind :: outer, v => do
    let wrapped ← makeControl kind v
    wrapAll outer wrapped

end Prog

/-- A world with more instances. -/
def World.withInstances (w : World) (made : List Instance) : World :=
  { w with scene := { w.scene with instances := w.scene.instances ++ made } }

theorem World.withInstances_nil (w : World) : w.withInstances [] = w := by
  rw [withInstances, List.append_nil]

theorem World.withInstances_cons (w : World) (i : Instance) (made : List Instance) :
    w.withInstances (i :: made) = (w.withInstances [i]).withInstances made := by
  simp only [withInstances, List.append_assoc, List.singleton_append]

namespace Prog

variable {caller : Caller} {rounds : Nat} {w : World} {name : String} {inner v : Value} {depth : Nat}

theorem run_makeControl_eq (kind : ControlKind) (v : Value) (w : World) :
    run caller rounds (makeControl kind v) w =
      (.ok (.control w.scene.instances.length kind), w.withInstances [{ fields := [(wrappedField, v)] }]) := rfl

/-- Names lead through a control that has just been made. -/
theorem leads_withControl (kind : ControlKind) (hname : name ≠ wrappedField) (h : w.scene.Leads name inner depth v) :
    (w.withInstances [{ fields := [(wrappedField, v)] }]).scene.Leads name inner (depth + 1)
      (.control w.scene.instances.length kind) := by
  have hfields : (w.withInstances [{ fields := [(wrappedField, v)] }]).scene.fieldsOf w.scene.instances.length =
      [(wrappedField, v)] := w.fieldsOf_addInstance { fields := [(wrappedField, v)] }
  have hne : (name == wrappedField) = false := by simpa using hname
  refine .through ?_ ?_ (h.mono (List.prefix_append _ _))
  · rw [Scene.field?, hfields]
    rfl
  · rw [Scene.field?, hfields, List.lookup_cons, hne]
    rfl

variable (caller rounds) in
/-- All names but one lead through controls that have just been made, and nothing else is changed. -/
theorem run_wrapAll (kinds : List ControlKind) (v : Value) (w : World) :
    ∃ outer made, run caller rounds (wrapAll kinds v) w = (.ok outer, w.withInstances made) ∧
      ∀ name inner depth, name ≠ wrappedField → w.scene.Leads name inner depth v →
        (w.withInstances made).scene.Leads name inner (depth + kinds.length) outer := by
  induction kinds generalizing v w with
  | nil =>
    refine ⟨v, [], ?_⟩
    rw [w.withInstances_nil]
    exact ⟨rfl, fun name inner depth _ h => h⟩
  | cons kind kinds ih =>
    obtain ⟨outer, made, hrun, hleads⟩ := ih (.control w.scene.instances.length kind)
      (w.withInstances [{ fields := [(wrappedField, v)] }])
    refine ⟨outer, { fields := [(wrappedField, v)] } :: made, ?_⟩
    rw [w.withInstances_cons]
    refine ⟨?_, fun name inner depth hname h => ?_⟩
    · rw [wrapAll, bind_eq, run_bind, run_makeControl_eq, andThen_ok, hrun]
    · have hall := hleads name inner (depth + 1) hname (leads_withControl kind hname h)
      rwa [Nat.add_assoc, Nat.add_comm 1] at hall

end Prog

end PageObjects
