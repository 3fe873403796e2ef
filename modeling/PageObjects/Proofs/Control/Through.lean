import PageObjects.Proofs.Control.Handling
import PageObjects.Proofs.Control.Nesting
import PageObjects.Proofs.Program.Parallel

/-!
# Fitting through controls

A field that is fitted asks what it wraps for a few members, and calls them.  Where these
names lead through controls to an element, the element is used as if the field wrapped it
itself.  So the field and one around the bare element are fitted in parallel.

Main definitions:

- `ControlKind.isField`: the kinds of fields.
- `ControlKind.asks`: the members that a field asks for what it wraps.
- `World.Alongside`: a control around controls, and one around the element inside of them.
- `ControlKind.Fits`: the ways to fit a control.

Main results:

- Theorem `Prog.parallel_callMember`: members are called through controls as on the element.
- Theorem `Prog.parallel_fitControl`, `ControlKind.Fits.parallel`: fits run in parallel.
- Theorem `controls_transparent`: controls around an element come to what the element comes to.
-/

namespace PageObjects

open Prog

/-- The members of what it wraps that a field asks for when it is fitted. -/
def ControlKind.asks : ControlKind → List String
  | .textField => ["is_enabled", "get_attribute", "clear", "send_keys"]
  | .checkBox | .radioButton => ["is_selected", "click"]
  | _ => []

/-- The kinds of controls that are fields.  The others cannot be fitted, or choose among options. -/
def ControlKind.isField : ControlKind → Bool
  | .textField | .checkBox | .radioButton => true
  | _ => false

/-- What fields ask for are members that can be called, and foreign to all controls. -/
theorem ControlKind.of_mem_asks {kind : ControlKind} {name : String} (h : name ∈ kind.asks) :
    (name ≠ "tag_name" ∧ name ≠ "text") ∧ ElementUse.memberNames.contains name = true ∧ IsForeign name := by
  have hall : ∀ n ∈ kind.asks, (n ≠ "tag_name" ∧ n ≠ "text") ∧ ElementUse.memberNames.contains n = true ∧
      PageType.isGuarded n = false ∧ n ∉ ownNames := by
    cases kind <;> decide +kernel
  obtain ⟨hread, hmember, hforeign⟩ := hall name h
  exact ⟨hread, hmember, isForeign_iff.mpr hforeign⟩

/-- A control wraps a value, and another one of its kind the element to which all that is asked for
when they are fitted leads from that value.  What they keep in the place of their own members is the
same. -/
structure World.Alongside (w : World) (kind : ControlKind) (n : String) (v : Value) (i j : Nat) : Prop where
  outer : w.scene.field? i wrappedField = some v
  plain : w.scene.field? j wrappedField = some (.element n)
  same : ∀ name ∈ ControlKind.ownNames, w.scene.field? j name = w.scene.field? i name
  leads : ∀ name ∈ kind.asks, ∃ depth ≤ handingLimit, w.scene.Leads name (.element n) depth v

/-- All of that stays so when there are more instances. -/
theorem World.Alongside.of_keeps {w w' : World} {kind : ControlKind} {n : String} {v : Value} {i j : Nat}
    (h : w.Alongside kind n v i j) (hkeeps : w.Keeps w') : w'.Alongside kind n v i j := by
  have houter := Scene.field?_of_prefix hkeeps.instances (Scene.lt_of_field? h.outer)
  have hplain := Scene.field?_of_prefix hkeeps.instances (Scene.lt_of_field? h.plain)
  refine ⟨(houter _).trans h.outer, (hplain _).trans h.plain, fun name hname => ?_, fun name hname => ?_⟩
  · rw [houter, hplain, h.same name hname]
  · obtain ⟨depth, hdepth, hleads⟩ := h.leads name hname
    exact ⟨depth, hdepth, hleads.mono hkeeps.instances⟩

namespace Prog

variable {caller : Caller} {called : CallChronicle} {rounds : Nat} {kind : ControlKind} {n : String} {v value : Value}
  {i j : Nat} {w : World}

/-! ## Members -/

/-- A modest program is the same beside both controls. -/
theorem Modest.alongside {α : Type} {p : Prog α} (hp : p.Modest) :
    Parallel caller called rounds (World.Alongside · kind n v i j) p p Eq :=
  hp.parallel fun _ _ hkeeps hw => hw.of_keeps hkeeps

/-- One control finds what it wraps, and the other the element. -/
theorem parallel_wrappedIn :
    Parallel caller called rounds (World.Alongside · kind n v i j) (wrappedIn i) (wrappedIn j)
      fun a b => a = v ∧ b = .element n := by
  intro w hw _
  rw [run_wrappedIn hw.outer, run_wrappedIn hw.plain]
  exact .answered ⟨rfl, rfl⟩ hw

/-- A member is found through controls as it is found on the element. -/
theorem parallel_attributeOf {name : String} (hname : name ∈ kind.asks) :
    Parallel caller called rounds (World.Alongside · kind n v i j) (attributeOf name v)
      (attributeOf name (.element n)) Eq := by
  obtain ⟨hread, hmember, hforeign⟩ := ControlKind.of_mem_asks hname
  intro w hw _
  obtain ⟨depth, hdepth, hleads⟩ := hw.leads name hname
  rw [run_attributeOf_nested hforeign hleads hdepth, attributeOf_member n hread hmember]
  exact .answered rfl hw

/-- A member is called through controls as it is called on the element. -/
theorem parallel_callMember {name : String} (hname : name ∈ kind.asks) (args : List Value) :
    Parallel caller called rounds (World.Alongside · kind n v i j) (callMember v name args)
      (callMember (.element n) name args) Eq := by
  refine (parallel_attributeOf hname).bind ?_
  rintro member _ rfl
  exact (Modest.callValue member args []).alongside

/-! ## Notes and faults -/

/-- The same is noted of both controls. -/
theorem parallel_fitting (message : String) (noted : ControlKind) (context : Log.Context) :
    Parallel caller called rounds (World.Alongside · kind n v i j) (fitting message i noted context)
      (fitting message j noted context) Eq := by
  refine (parallel_view fun w hw => ?_).bind ?_
  · rw [hw.same "kind" (by decide)]
  · rintro shown _ rfl
    exact (Quiet.log _).modest.alongside

variable (caller rounds) in
/-- To refuse to write shows a control with what it wraps, and leaves the world as it is. -/
theorem run_refuseWriting_nested (shown : ControlKind) {name : String} {depth : Nat}
    (hwrapped : w.scene.field? i wrappedField = some v) (h : w.scene.Leads name (.element n) depth v) :
    ∃ r, run caller rounds (refuseWriting i shown) w = (.error r, w) := by
  have hshown : (run caller rounds (inspected (.control i shown)) w).2 = w := by
    rw [inspected, run_prog]
    exact run_inspectAt_control hwrapped (run_inspectAt_nested h) _ _
  rw [refuseWriting, bind_eq, run_bind]
  rcases hrun : run caller rounds (inspected (.control i shown)) w with ⟨r | text, w'⟩
  all_goals
    rw [hrun] at hshown
    obtain rfl := hshown
    exact ⟨_, rfl⟩

/-- Both controls refuse to be written to, though they are shown differently. -/
theorem parallel_refuseWriting (name : String) (hname : name ∈ kind.asks) (shown : ControlKind) :
    Parallel caller called rounds (World.Alongside · kind n v i j) (refuseWriting i shown) (refuseWriting j shown)
      Eq := by
  intro w hw _
  obtain ⟨depth, -, hleads⟩ := hw.leads name hname
  have hhere : w.scene.Leads name (.element n) 0 (.element n) := .here
  obtain ⟨r, hr⟩ := run_refuseWriting_nested caller rounds shown hw.outer hleads
  obtain ⟨s, hs⟩ := run_refuseWriting_nested caller rounds shown hw.plain hhere
  rw [hr, hs]
  exact .failed

/-! ## Members that controls keep -/

/-- Both controls do what they keep in the place of a member, or what is usual. -/
theorem parallel_byMember {name : String} (hname : name ∈ ControlKind.ownNames) (args : List Value) {p q : Prog Unit}
    (h : Parallel caller called rounds (World.Alongside · kind n v i j) p q Eq) :
    Parallel caller called rounds (World.Alongside · kind n v i j) (byMember i name args p) (byMember j name args q)
      Eq := by
  refine (parallel_view fun w hw => hw.same name hname).bind ?_
  rintro own _ rfl
  cases own with
  | some f => exact (Modest.callValue f _ _).alongside.bind fun _ _ _ => parallel_done rfl
  | none => exact h

/-! ## The three kinds of fields -/

/-- Both fields are asked whether they may be written to. -/
theorem parallel_assertWritable :
    Parallel caller called rounds (World.Alongside · .textField n v i j) (assertWritable i .textField)
      (assertWritable j .textField) Eq := by
  refine parallel_wrappedIn.bind ?_
  rintro _ _ ⟨rfl, rfl⟩
  refine (parallel_callMember (by decide) _).bind ?_
  rintro enabled _ rfl
  refine (Quiet.truth enabled).modest.alongside.bind ?_
  rintro writable _ rfl
  refine .ite ?_ (parallel_refuseWriting "is_enabled" (by decide) _)
  refine (parallel_callMember (by decide) _).bind ?_
  rintro readonly _ rfl
  refine (parallel_view fun _ _ => rfl).bind ?_
  rintro allowed _ rfl
  exact .ite (parallel_done rfl) (parallel_refuseWriting "is_enabled" (by decide) _)

/-- Text fields are fitted alike. -/
theorem parallel_fitText :
    Parallel caller called rounds (World.Alongside · .textField n v i j) (fitText i value) (fitText j value) Eq := by
  refine (parallel_byMember (by decide) _ parallel_assertWritable).bind fun _ _ _ => ?_
  refine (Modest.shown value).alongside.bind ?_
  rintro text _ rfl
  refine (parallel_fitting _ _ _).bind fun _ _ _ => ?_
  refine parallel_wrappedIn.bind ?_
  rintro _ _ ⟨rfl, rfl⟩
  refine (parallel_callMember (by decide) _).bind fun _ _ _ => ?_
  refine parallel_wrappedIn.bind ?_
  rintro _ _ ⟨rfl, rfl⟩
  refine (parallel_attributeOf (by decide)).bind ?_
  rintro sendKeys _ rfl
  -- the text is found once more, and may be another one
  refine (Modest.shown value).alongside.bind ?_
  rintro typed _ rfl
  exact (Modest.callValue sendKeys _ _).alongside.bind fun _ _ _ => parallel_done rfl

/-- To find out which state is wanted changes nothing itself. -/
theorem Modest.wantedState (value : Value) : (Prog.wantedState value).Modest := by
  unfold Prog.wantedState
  split
  · exact .done _
  · exact .bind (.inspected value) fun _ => .raise _

/-- Elements are turned over alike. -/
theorem parallel_turnOver (hclick : "click" ∈ kind.asks) (noted : ControlKind) (message : String)
    (context : Log.Context) :
    Parallel caller called rounds (World.Alongside · kind n v i j) (turnOver i noted message context)
      (turnOver j noted message context) Eq := by
  refine (parallel_fitting _ _ _).bind fun _ _ _ => ?_
  refine parallel_wrappedIn.bind ?_
  rintro _ _ ⟨rfl, rfl⟩
  exact (parallel_callMember hclick _).bind fun _ _ _ => parallel_done rfl

/-- Check boxes are fitted alike. -/
theorem parallel_fitCheckBox :
    Parallel caller called rounds (World.Alongside · .checkBox n v i j) (fitCheckBox i value) (fitCheckBox j value)
      Eq := by
  refine (Modest.wantedState value).alongside.bind ?_
  rintro wanted _ rfl
  refine parallel_wrappedIn.bind ?_
  rintro _ _ ⟨rfl, rfl⟩
  refine (parallel_callMember (by decide) _).bind ?_
  rintro selected _ rfl
  refine (parallel_view fun _ _ => rfl).bind ?_
  rintro reached _ rfl
  exact .ite (parallel_done rfl) (parallel_turnOver (by decide) .checkBox "toggle" _)

/-- Radio buttons are fitted alike. -/
theorem parallel_fitRadioButton :
    Parallel caller called rounds (World.Alongside · .radioButton n v i j) (fitRadioButton i value)
      (fitRadioButton j value) Eq := by
  refine (Modest.wantedState value).alongside.bind ?_
  rintro wanted _ rfl
  cases wanted with
  | clear => exact parallel_fail _ _
  | set =>
    refine parallel_wrappedIn.bind ?_
    rintro _ _ ⟨rfl, rfl⟩
    refine (parallel_callMember (by decide) _).bind ?_
    rintro selected _ rfl
    refine (Quiet.truth selected).modest.alongside.bind ?_
    rintro chosen _ rfl
    exact .ite (parallel_done rfl) (parallel_turnOver (by decide) .radioButton "select radio" _)

/-- A control of any of the three kinds of fields is fitted alike. -/
theorem parallel_fitControl (hkind : kind.isField = true) :
    Parallel caller called rounds (World.Alongside · kind n v i j) (fitControl i kind value) (fitControl j kind value)
      Eq := by
  cases kind with
  | control | selectList => cases hkind
  | textField => exact .ite (parallel_done rfl) parallel_fitText
  | checkBox => exact .ite (parallel_done rfl) parallel_fitCheckBox
  | radioButton => exact .ite (parallel_done rfl) parallel_fitRadioButton

/-- Both controls are fitted by what they keep in the place of their member, or by that member. -/
theorem parallel_fitByMember (hkind : kind.isField = true) :
    Parallel caller called rounds (World.Alongside · kind n v i j) (fitByMember i kind value)
      (fitByMember j kind value) Eq :=
  parallel_byMember (by decide) _ (parallel_fitControl hkind)

end Prog

/-- The ways to fit controls of a kind: by their member, or as what is fitted. -/
inductive ControlKind.Fits (kind : ControlKind) (value : Value) : (Nat → Prog Unit) → Prop where
  | member : kind.Fits value fun id => fitControl id kind value
  | given : kind.Fits value fun id => fit (.control id kind) value

/-- In whichever way fields are fitted, they are fitted alike. -/
theorem ControlKind.Fits.parallel {caller : Caller} {called : CallChronicle} {rounds : Nat} {kind : ControlKind}
    {n : String} {v value : Value} {i j : Nat} {p : Nat → Prog Unit} (h : kind.Fits value p)
    (hkind : kind.isField = true) :
    Parallel caller called rounds (World.Alongside · kind n v i j) (p i) (p j) Eq := by
  cases h with
  | member => exact parallel_fitControl hkind
  | given => exact .ite (parallel_done rfl) (parallel_fitByMember hkind)

/-! ## Transparency -/

/-- **Controls are transparent.**  A foreign name that leads through controls to an element comes to what
it comes to on the element, with the same uses, if there are not more controls than a name is handed
on.  If it leads to a control that wraps nothing, there is no such attribute.  And a field around
controls is fitted as one of its kind around the element itself: both leave the same world, and
either both fail or neither does, if what is called meanwhile leaves the controls as they are. -/
theorem controls_transparent (caller : Caller) (called : CallChronicle) (rounds : Nat) :
    (∀ name n v depth w, ControlKind.IsForeign name → depth ≤ handingLimit →
      w.scene.Leads name (.element n) depth v →
      run caller rounds (attributeOf name v) w = run caller rounds (attributeOf name (.element n)) w) ∧
    (∀ name i kind v depth w, ControlKind.IsForeign name → depth ≤ handingLimit →
      w.scene.field? i wrappedField = none → w.scene.field? i name = none →
      w.scene.Leads name (.control i kind) depth v →
      run caller rounds (attributeOf name v) w = (.error { fault := .noSuchName }, w)) ∧
    ∀ (kind : ControlKind) (value v : Value) (p : Nat → Prog Unit) (n : String) (i j : Nat) (w : World),
      kind.isField = true → kind.Fits value p → w.Alongside kind n v i j →
      ((p i).chronicle caller called rounds w).Respects
        (fun before after => before.Alongside kind n v i j → after.Alongside kind n v i j) →
      ((p i).run caller rounds w).2 = ((p j).run caller rounds w).2 ∧
        ((p i).run caller rounds w).1.isOk = ((p j).run caller rounds w).1.isOk := by
  refine ⟨?_, ?_, ?_⟩
  · intro name n v depth w hname hdepth hleads
    exact run_attributeOf_nested hname hleads hdepth
  · intro name i kind v depth w hname hdepth hbare hown hleads
    rw [run_attributeOf_leading hname hleads hdepth]
    exact run_attributeAt_bare hname hbare hown _
  · intro kind value v p n i j w hkind hfits hw hcalls
    have hend := hfits.parallel hkind w hw hcalls
    exact ⟨hend.world, hend.isOk⟩

/-- The text that an element has as its value when a program has been run in a world. -/
def World.valueAfter (w : World) (p : Prog Unit) (n : String) : Option String :=
  ((p.run (callAt 1 10) 1 w).2.scene.elements.lookup n).bind fun e => e.value.text?

/-- Two fields, the first of which is wrapped in controls. -/
def nestedSetting : Setting where
  elements := [("x", { text := .text "hi", value := .text "Ada", attributes := .map 1 }),
    ("y", { value := .text "Eve", attributes := .map 1 })]

/-- A record that counts how often it is asked for its text. -/
def askedValue : Value := .object 5 (some ⟨0, "Asked"⟩)

/-- A world with two controls around the first field, text fields around these and around the field
itself, a control that wraps nothing, and that record. -/
def nestedWorld : World :=
  nestedSetting.world.after
    [.op (.addInstance { fields := [(wrappedField, .element "x")] }),
     .op (.addInstance { fields := [(wrappedField, .control 0 .checkBox)] }),
     .op (.addInstance { fields := [(wrappedField, .control 1 .control)] }),
     .op (.addInstance { fields := [(wrappedField, .element "x")] }),
     .op (.addInstance {}),
     .op (.addInstance {}),
     .op (.addFunction (.sequence [.request (.count "asked"), .request (.const (.text "Bob"))])),
     .op (.addRecordType { name := "Asked", plain := false, members := [(textMember, .method textMember 0)] })]

/-- All names but one lead through the controls to the field. -/
theorem nestedWorld_leads {name : String} (hname : name ≠ wrappedField) :
    nestedWorld.scene.Leads name (.element "x") 2 (.control 1 .control) := by
  have hnone : ∀ v : Value, List.lookup name [(wrappedField, v)] = none := fun v => by
    rw [List.lookup_cons, show (name == wrappedField) = false by simpa using hname]
    rfl
  exact .through rfl (hnone _) (.through rfl (hnone _) .here)

/-- The text fields around the controls and around the field are there. -/
theorem nestedWorld_alongside : nestedWorld.Alongside .textField "x" (.control 1 .control) 2 3 where
  outer := rfl
  plain := rfl
  same := by
    simp only [ControlKind.ownNames, List.forall_mem_cons, List.not_mem_nil, false_implies, implies_true, and_true]
    exact ⟨rfl, rfl, rfl⟩
  leads name hname := by
    refine ⟨2, by decide, nestedWorld_leads ?_⟩
    rintro rfl
    exact absurd hname (by decide)

/-- Names are looked up through two controls, and on one that wraps nothing.  The field is fitted
through two controls as without them, to a record that is asked for its text twice. -/
theorem controls_transparent_nested :
    run (callAt 1 10) 1 (attributeOf "text" (.control 1 .control)) nestedWorld =
        run (callAt 1 10) 1 (attributeOf "text" (.element "x")) nestedWorld ∧
      run (callAt 1 10) 1 (attributeOf "text" (.control 4 .control)) nestedWorld =
        (.error { fault := .noSuchName }, nestedWorld) ∧
      ((fit (.control 2 .textField) askedValue).run (callAt 1 10) 1 nestedWorld).2 =
        ((fit (.control 3 .textField) askedValue).run (callAt 1 10) 1 nestedWorld).2 ∧
      ((fit (.control 2 .textField) askedValue).run (callAt 1 10) 1 nestedWorld).1.isOk =
        ((fit (.control 3 .textField) askedValue).run (callAt 1 10) 1 nestedWorld).1.isOk ∧
      nestedWorld.valueAfter (fit (.control 2 .textField) askedValue) "x" = some "Bob" := by
  have htext : ControlKind.IsForeign "text" := ControlKind.isForeign_iff.mpr (by decide +kernel)
  have hcalls : ((fit (.control 2 .textField) askedValue).chronicle (callAt 1 10) (callChronicle 1 10) 1
      nestedWorld).Respects fun before after => before.Alongside .textField "x" (.control 1 .control) 2 3 →
        after.Alongside .textField "x" (.control 1 .control) 2 3 := by
    obtain ⟨w₁, w₂, hcalls⟩ : ∃ w₁ w₂, ((fit (.control 2 .textField) askedValue).chronicle (callAt 1 10)
        (callChronicle 1 10) 1 nestedWorld).calls =
          [(w₁, { w₁ with scene := { w₁.scene with counters := [("asked", 1)] } }),
            (w₂, { w₂ with scene := { w₂.scene with counters := [("asked", 2)] } })] := by
      with_unfolding_all exact ⟨_, _, rfl⟩
    rw [Chronicle.Respects, hcalls]
    simp only [List.forall_mem_cons, List.not_mem_nil, false_implies, implies_true, and_true]
    exact ⟨fun hw => hw.of_keeps (.of_eq rfl rfl rfl rfl), fun hw => hw.of_keeps (.of_eq rfl rfl rfl rfl)⟩
  obtain ⟨hlookups, hbare, hfits⟩ := controls_transparent (callAt 1 10) (callChronicle 1 10) 1
  obtain ⟨hworld, hok⟩ := hfits .textField askedValue (.control 1 .control) _ "x" 2 3 nestedWorld rfl .given
    nestedWorld_alongside hcalls
  exact ⟨hlookups "text" "x" (.control 1 .control) 2 nestedWorld htext (by decide) (nestedWorld_leads (by decide)),
    hbare "text" 4 .control (.control 4 .control) 0 nestedWorld htext (by decide) rfl rfl .here,
    hworld, hok, by decide +kernel⟩

/-- That world, with a text of its own for the innermost control. -/
def ownWorld : World := nestedWorld.after [.op (.setField 0 "text" (.text "own"))]

/-- A record that wraps a control around another field whenever it is asked for its text. -/
def movingValue : Value := .object 3 (some ⟨0, "Moving"⟩)

/-- A world with that control, text fields around it and around what it wraps, and that record. -/
def movingWorld : World :=
  nestedSetting.world.after
    [.op (.addInstance { fields := [(wrappedField, .element "x")] }),
     .op (.assign "c" (.control 0 .control)),
     .op (.addInstance { fields := [(wrappedField, .control 0 .control)] }),
     .op (.addInstance { fields := [(wrappedField, .element "x")] }),
     .op (.addInstance {}),
     .op (.addFunction (.sequence [.setItem (.get (.text "__dict__") (.request (.held "c"))) (.text wrappedField)
       (.request (.held "y")), .request (.const (.text "Bob"))])),
     .op (.addRecordType { name := "Moving", plain := false, members := [(textMember, .method textMember 0)] })]

/-- Controls are not always transparent.  A name is not found through more controls than it is handed
on.  What a control keeps itself hides what it wraps.  And what is called while a field is fitted
may have controls wrap something else, so that another element is typed into. -/
theorem controls_opaque :
    ControlKind.IsForeign "text" ∧
    (∃ outer made w', run (callAt 1 10) 1 (wrapAll (List.replicate 1000 .control) (.element "x")) nestedWorld =
        (.ok outer, nestedWorld.withInstances made) ∧
      run (callAt 1 10) 1 (attributeOf "text" outer) (nestedWorld.withInstances made) =
        (.error { fault := .tooDeep }, nestedWorld.withInstances made) ∧
      run (callAt 1 10) 1 (attributeOf "text" (.element "x")) (nestedWorld.withInstances made) =
        (.ok (.text "hi"), w')) ∧
    (run (callAt 1 10) 1 (attributeOf "text" (.control 1 .control)) ownWorld = (.ok (.text "own"), ownWorld) ∧
      ∃ w', run (callAt 1 10) 1 (attributeOf "text" (.element "x")) ownWorld = (.ok (.text "hi"), w')) ∧
    movingWorld.valueAfter (fit (.control 1 .textField) movingValue) "x" = some "Ada" ∧
    movingWorld.valueAfter (fit (.control 2 .textField) movingValue) "x" = some "Bob" := by
  have htext : ControlKind.IsForeign "text" := ControlKind.isForeign_iff.mpr (by decide +kernel)
  refine ⟨htext, ?_, ⟨by with_unfolding_all rfl, _, rfl⟩, by decide +kernel, by decide +kernel⟩
  obtain ⟨outer, made, hrun, hleads⟩ :=
    run_wrapAll (callAt 1 10) 1 (List.replicate 1000 .control) (.element "x") nestedWorld
  have hdepth := hleads "text" (.element "x") 0 (by decide) .here
  rw [List.length_replicate] at hdepth
  exact ⟨outer, made, _, hrun, run_attributeAt_tooDeep htext hdepth (by decide), rfl⟩

end PageObjects
