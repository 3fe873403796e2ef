import PageObjects.Proofs.Program.Frames

/-!
# Fields of instances

An instance keeps its fields as they are unless something is assigned to them, whatever
else is done.  Instances and record types are there for good.

Main definitions:

- `Deed.Assigns`: whether a deed assigns to a field of an instance.
- `World.Remains`: all record types and instances are still there.

Main results:

- Theorem `Scene.field?_setField`: what a field holds after an assignment.
- Theorem `Deed.perform_field`: what nothing is assigned to stays as it is.
- Theorem `World.after_remains`: record types and instances are there for good.
-/

namespace PageObjects

namespace Scene

/-- An instance that keeps something has been made. -/
theorem lt_of_field? {s : Scene} {i : Nat} {name : String} {v : Value} (h : s.field? i name = some v) :
    i < s.instances.length := by
  refine Nat.lt_of_not_le fun hle => ?_
  rw [field?, fieldsOf, List.getElem?_eq_none hle] at h
  cases h

/-- The fields of instances after one of them is given others. -/
theorem fieldsOf_setFields (s : Scene) (i id : Nat) (fields : List (String × Value)) :
    (s.setFields i fields).fieldsOf id = if i = id ∧ id < s.instances.length then fields else s.fieldsOf id := by
  simp only [fieldsOf, setFields, List.getElem?_set]
  by_cases hi : i = id
  · subst hi
    by_cases hlt : i < s.instances.length
    · simp [hlt]
    · simp [hlt]
  · simp [hi]

/-- What a field of an instance holds after an assignment. -/
theorem field?_setField (s : Scene) (i id : Nat) (field name : String) (v : Value) :
    (s.setField i field v).field? id name =
      if (i = id ∧ field = name) ∧ id < s.instances.length then some v else s.field? id name := by
  rw [field?, setField, fieldsOf_setFields]
  by_cases h : i = id ∧ id < s.instances.length
  · obtain ⟨rfl, hlt⟩ := h
    rw [if_pos ⟨rfl, hlt⟩, Assoc.lookup_put]
    by_cases hname : name = field
    · subst hname
      simp [hlt]
    · simp [hname, Ne.symm hname, field?]
  · rw [if_neg h, if_neg fun hassigned => h ⟨hassigned.1.1, hassigned.2⟩]
    rfl

end Scene

/-- What an instance that has been added keeps. -/
theorem World.fieldsOf_addInstance (w : World) (i : Instance) :
    ((Op.addInstance i).run w).2.scene.fieldsOf w.scene.instances.length = i.fields := by
  simp [Op.run, withScene, Scene.addInstance, Scene.fieldsOf]

/-! ## Assignments -/

/-- Whether a deed assigns to a field of an instance.  To give an instance other fields
assigns to those that change by it. -/
def Deed.Assigns (d : Deed) (id : Nat) (name : String) (w : World) : Prop :=
  match d with
  | .op (.setField i field _) => i = id ∧ field = name
  | .op (.adjust target field _) => Prog.instanceOf? target = some id ∧ field = name
  | .op (.setFields i fields) => i = id ∧ fields.lookup name ≠ w.scene.field? id name
  | _ => False

/-- What is there already is found in what begins with it. -/
theorem Scene.fieldsOf_of_prefix {s s' : Scene} (h : s.instances <+: s'.instances) {id : Nat}
    (hid : id < s.instances.length) : s'.fieldsOf id = s.fieldsOf id := by
  obtain ⟨more, hmore⟩ := h
  rw [fieldsOf, fieldsOf, ← hmore, List.getElem?_append_left hid]

theorem Scene.field?_of_prefix {s s' : Scene} (h : s.instances <+: s'.instances) {id : Nat}
    (hid : id < s.instances.length) (name : String) : s'.field? id name = s.field? id name := by
  rw [field?, field?, fieldsOf_of_prefix h hid]

/-- A field that an operation does not assign to stays as it is. -/
theorem Op.run_field {β : Type} (o : Op β) (w : World) {id : Nat} (hid : id < w.scene.instances.length)
    {name : String} (h : ¬ Deed.Assigns (.op o) id name w) :
    (o.run w).2.scene.field? id name = w.scene.field? id name := by
  by_cases hmodest : o.isModest = true
  · exact Scene.field?_of_prefix (Op.run_keeps hmodest w).instances hid name
  · cases o with
    | setField i field v => exact (Scene.field?_setField _ _ _ _ _ _).trans (if_neg fun hassigned => h hassigned.1)
    | adjust target field v =>
      have hset : ∀ i, Prog.instanceOf? target = some i →
          (w.scene.setField i field v).field? id name = w.scene.field? id name := by
        intro i htarget
        rw [Scene.field?_setField, if_neg]
        rintro ⟨⟨rfl, hfield⟩, -⟩
        exact h ⟨htarget, hfield⟩
      simp only [run, World.setScene]
      unfold Scene.adjust
      split
      · split <;> rfl
      · split <;> rfl
      · exact hset _ rfl
      · exact hset _ rfl
      · exact hset _ rfl
      · rfl
    | setFields i fields =>
      simp only [run, World.setScene]
      rw [Scene.field?, Scene.fieldsOf_setFields]
      split
      · rename_i hassigned
        by_cases hfield : fields.lookup name = w.scene.field? id name
        · exact hfield
        · exact absurd ⟨hassigned.1, hfield⟩ h
      · rfl
    | register catalog key value =>
      simp only [run, World.setScene]
      unfold Scene.register
      split <;> rfl
    | putCell | setCells | openLogFile => rfl
    | _ => exact absurd rfl hmodest

/-- A field that a deed does not assign to stays as it is. -/
theorem Deed.perform_field (d : Deed) (w : World) {id : Nat} (hid : id < w.scene.instances.length)
    {name : String} (h : ¬ d.Assigns id name w) : (d.perform w).scene.field? id name = w.scene.field? id name := by
  cases d with
  | op o => exact o.run_field w hid h
  | record | renew => rfl

/-! ## What is there for good -/

/-- All record types and instances are still there. -/
structure World.Remains (w w' : World) : Prop where
  types : w.scene.recordTypes <+: w'.scene.recordTypes
  instances : w.scene.instances.length ≤ w'.scene.instances.length

namespace World.Remains

theorem refl (w : World) : w.Remains w := ⟨List.prefix_rfl, Nat.le_refl _⟩

theorem trans {w w' w'' : World} (h : w.Remains w') (h' : w'.Remains w'') : w.Remains w'' :=
  ⟨h.types.trans h'.types, Nat.le_trans h.instances h'.instances⟩

/-- A record type that is there is still there. -/
theorem recordType? {w w' : World} (h : w.Remains w') {cls : ClassRef} {t : RecordType}
    (ht : w.scene.recordType? cls = some t) : w'.scene.recordType? cls = some t := by
  obtain ⟨more, hmore⟩ := h.types
  rw [Scene.recordType?] at ht ⊢
  rw [← hmore, List.getElem?_append_left (List.getElem?_eq_some_iff.mp ht).1, ht]

end World.Remains

/-- Deeds leave all record types and instances there. -/
theorem Deed.perform_remains (d : Deed) (w : World) : w.Remains (d.perform w) := by
  cases d with
  | op o => exact ⟨(o.run_touches w).recordTypes_kept, (o.run_touches w).instances_le⟩
  | record | renew => exact ⟨List.prefix_rfl, Nat.le_refl _⟩

/-- Record types and instances are there for good. -/
theorem World.after_remains (w : World) (deeds : List Deed) : w.Remains (w.after deeds) := by
  induction deeds generalizing w with
  | nil => exact .refl w
  | cons d deeds ih => exact (d.perform_remains w).trans (ih _)

end PageObjects
