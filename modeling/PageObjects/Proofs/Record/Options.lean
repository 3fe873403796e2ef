import Mathlib.Data.List.Nodup
import PageObjects.Proofs.Control.Typing
import PageObjects.Proofs.Scene.Fields

/-!
# Copying options to records

Options are copied to a record one after the other, each under its name, and absent ones are
passed over.  Whatever comes of it, only the record changes, and of the record only what the
options name.

Main definitions:

- `World.PassesOver`: nothing has changed but what options name.
- `World.Copies`: an instance keeps options under their names.
- `presentEntries`: the options that are not absent.

Main results:

- Theorem `Value.lookup?_of_mem`: where no key occurs twice, each entry is found.
- Theorem `Prog.setEntries_present`: absent options are passed over.
- Theorem `Prog.ends_setPresent`: what comes of copying options to a record.
-/

namespace PageObjects

/-! ## Keys -/

namespace Value

/-- A word is told apart by its text. -/
theorem identity_of_word {v : Value} {s : String} (h : v.word? = some s) : v.identity = (Value.text s).identity := by
  cases v with
  | text | toggle | bindingKind => simp_all [word?, identity]
  | _ => cases h

/-- Only words are told apart by texts. -/
theorem word_of_identity {v : Value} {s : String} (h : v.identity = (Value.text s).identity) : v.word? = some s := by
  cases v with
  | text | toggle | bindingKind => simp_all [word?, identity]
  | mapping place => cases place <;> simp [identity] at h
  | float x =>
    simp only [identity] at h
    split at h <;> cases h
  | tuple items => cases items <;> simp [identity, identities] at h
  | _ => simp [identity] at h

/-- What is found under a text is the value of an entry with that word. -/
theorem mem_of_lookup? {s : String} {v : Value} {entries : Entries} (h : lookup? (.text s) entries = some v) :
    ∃ key, (key, v) ∈ entries ∧ key.word? = some s := by
  obtain ⟨⟨key, _⟩, hfound, rfl⟩ := Option.map_eq_some_iff.mp h
  exact ⟨key, List.mem_of_find?_eq_some hfound, word_of_identity (by simpa using List.find?_some hfound)⟩

/-- Where no key occurs twice, an entry with a word is what is found under its text. -/
theorem lookup?_of_mem {s : String} {key v : Value} {entries : Entries}
    (hdistinct : (entries.map fun e => e.1.identity).Nodup) (hmem : (key, v) ∈ entries) (hkey : key.word? = some s) :
    lookup? (.text s) entries = some v := by
  induction entries with
  | nil => cases hmem
  | cons e rest ih =>
    obtain ⟨hfirst, hrest⟩ := List.nodup_cons.mp hdistinct
    rcases List.mem_cons.mp hmem with rfl | hmem
    · simp [lookup?, identity_of_word hkey]
    · have hother : (e.1.identity == (Value.text s).identity) = false := by
        rw [beq_eq_false_iff_ne]
        intro heq
        exact hfirst (List.mem_map.mpr ⟨(key, v), hmem, (identity_of_word hkey).trans heq.symm⟩)
      have hskip : lookup? (.text s) (e :: rest) = lookup? (.text s) rest := by
        simp only [lookup?, List.find?_cons, hother]
      rw [hskip]
      exact ih hrest hmem

end Value

/-! ## Copying options to a record -/

/-- Nothing has changed but the fields of an instance. -/
structure World.Updates (id : Nat) (w w' : World) : Prop extends World.Near id w w' where
  elements : w'.scene.elements = w.scene.elements
  events : w'.scene.events = w.scene.events

/-- Names under which a record keeps what is set. -/
def IsFieldName (name : String) : Prop := name ≠ "__dict__" ∧ name ≠ "__class__" ∧ name ≠ "__weakref__"

/-- Nothing has changed but the fields of an instance that options name. -/
structure World.PassesOver (id : Nat) (entries : Value.Entries) (w w' : World) : Prop
    extends World.Updates id w w' where
  kept : ∀ name, (∀ e ∈ entries, e.1.word? ≠ some name) → w'.scene.field? id name = w.scene.field? id name

/-- Nothing else has changed than that an instance keeps options under their names. -/
structure World.Copies (id : Nat) (entries : Value.Entries) (w w' : World) : Prop
    extends World.PassesOver id entries w w' where
  set : ∀ key v name, (key, v) ∈ entries → key.word? = some name →
    IsFieldName name ∧ w'.scene.field? id name = some v

/-- The options that are not absent. -/
def presentEntries (entries : Value.Entries) : Value.Entries := entries.filter fun e => !e.2.isNone

section Copying

variable {id : Nat} {w w' w'' : World} {entries rest : Value.Entries}

theorem World.Updates.refl (id : Nat) (w : World) : w.Updates id w := ⟨.refl id w, rfl, rfl⟩

theorem World.Updates.trans (h : w.Updates id w') (h' : w'.Updates id w'') : w.Updates id w'' :=
  ⟨h.toNear.trans h'.toNear, h'.elements.trans h.elements, h'.events.trans h.events⟩

theorem World.PassesOver.refl (id : Nat) (entries : Value.Entries) (w : World) : w.PassesOver id entries w :=
  ⟨.refl id w, fun _ _ => rfl⟩

/-- One option after the other. -/
theorem World.PassesOver.cons {e : Value × Value} (h : w.PassesOver id [e] w') (h' : w'.PassesOver id rest w'') :
    w.PassesOver id (e :: rest) w'' where
  toUpdates := h.toUpdates.trans h'.toUpdates
  kept name hname := by
    rw [h'.kept name fun e he => hname e (List.mem_cons_of_mem _ he), h.kept name]
    intro e' he'
    obtain rfl := List.mem_singleton.mp he'
    exact hname e' List.mem_cons_self

/-- One option after the other, where no later one has the same name. -/
theorem World.Copies.cons {e : Value × Value} (h : w.Copies id [e] w') (h' : w'.Copies id rest w'')
    (hdistinct : ∀ e' ∈ rest, e'.1.identity ≠ e.1.identity) : w.Copies id (e :: rest) w'' where
  toPassesOver := h.toPassesOver.cons h'.toPassesOver
  set key v name hmem hkey := by
    rcases List.mem_cons.mp hmem with rfl | hmem
    · obtain ⟨hname, hset⟩ := h.set key v name List.mem_cons_self hkey
      refine ⟨hname, ?_⟩
      rw [h'.kept name, hset]
      intro e' he' hsame
      exact hdistinct e' he' ((Value.identity_of_word hsame).trans (Value.identity_of_word hkey).symm)
    · exact h'.set key v name hmem hkey

/-- The types of records do not depend on what has changed. -/
theorem World.Near.recordType? (h : w.Near id w') : w'.scene.recordType? = w.scene.recordType? := by
  show w'.scene.surroundings.recordType? = w.scene.surroundings.recordType?
  rw [h.surroundings]

/-- Neither does what the type of an instance has. -/
theorem World.Near.typeMember? {id' : Nat} {type : Option ClassRef} (h : w.Near id w') (name : String) :
    w'.scene.typeMember? (.object id' type) name = w.scene.typeMember? (.object id' type) name := by
  show w'.scene.surroundings.typeMember? (.object id' type) name =
    w.scene.surroundings.typeMember? (.object id' type) name
  rw [h.surroundings]

end Copying

namespace Prog

variable {caller : Caller} {rounds id : Nat} {type : Option ClassRef} {w : World}

/-- To set an attribute of a record sets a field, unless its type does it otherwise. -/
theorem ends_setAttribute (hid : id < w.scene.instances.length)
    (hsetting : w.scene.typeMember? (.object id type) settingName = none) {key v : Value} {name : String}
    (hkey : key.word? = some name) (hname : name ≠ "__dict__") :
    (setAttribute (.object id type) name v).Ends caller rounds w
      (fun _ w' => w.Copies id [(key, v)] w') (w.PassesOver id [(key, v)] ·) := by
  refine ends_view_bind ?_
  rw [hsetting]
  show (setOwnField id name v).Ends caller rounds w _ _
  rw [setOwnField, if_neg hname]
  split
  · exact ends_raise (.refl id _ w)
  · rename_i hclass
    split
    · exact ends_raise (.refl id _ w)
    · rename_i hweak
      have hrun : (op (.setField id name v)).run caller rounds w = (.ok (), ((Op.setField id name v).run w).2) := rfl
      have hfield : ∀ n, (w.scene.setField id name v).field? id n =
          if name = n then some v else w.scene.field? id n := by
        intro n
        simp [Scene.field?_setField, hid]
      refine Ends.of_run hrun ⟨⟨⟨⟨rfl, (Op.run_touches _ w).instances_le, ?_⟩, rfl, rfl⟩, ?_⟩, ?_⟩
      · intro i _ hne
        exact List.getElem?_set_ne (Ne.symm hne)
      · intro n hn
        refine (hfield n).trans (if_neg ?_)
        rintro rfl
        exact hn (key, v) List.mem_cons_self hkey
      · intro key' v' n hmem hkey'
        cases List.mem_singleton.mp hmem
        obtain rfl := Option.some.inj (hkey.symm.trans hkey')
        exact ⟨⟨hname, hclass, hweak⟩, (hfield name).trans (if_pos rfl)⟩

/-- Absent options are passed over. -/
theorem setEntries_present (record : Value) (entries : Value.Entries) :
    setEntries record entries = setEntries record (presentEntries entries) := by
  induction entries with
  | nil => rfl
  | cons e rest ih =>
    obtain ⟨key, v⟩ := e
    by_cases hv : v.isNone = true
    · rw [setEntries, if_pos hv, ih, presentEntries, presentEntries, List.filter_cons_of_neg (by simp [hv])]
    · rw [setEntries, if_neg hv, ih, presentEntries, presentEntries, List.filter_cons_of_pos (by simpa using hv),
        setEntries, if_neg hv]

/-- What comes of copying options to a record that are not absent. -/
theorem ends_setPresent (hid : id < w.scene.instances.length)
    (hsetting : w.scene.typeMember? (.object id type) settingName = none) {entries : Value.Entries}
    (hpresent : ∀ e ∈ entries, e.2.isNone = false) (hdistinct : (entries.map fun e => e.1.identity).Nodup)
    (hdict : ∀ e ∈ entries, e.1.word? ≠ some "__dict__") :
    (setEntries (.object id type) entries).Ends caller rounds w
      (fun _ w' => w.Copies id entries w') (w.PassesOver id entries ·) := by
  induction entries generalizing w with
  | nil => exact ends_done ⟨.refl id _ w, fun _ _ _ h => nomatch h⟩
  | cons e rest ih =>
    obtain ⟨key, v⟩ := e
    obtain ⟨hfirst, hrest⟩ := List.nodup_cons.mp hdistinct
    have hv : v.isNone = false := hpresent _ List.mem_cons_self
    rw [setEntries, hv]
    show ((setEntry (.object id type) key v).bind fun _ => setEntries (.object id type) rest).Ends caller rounds w _ _
    cases hkey : key.word? with
    | none =>
      simp only [setEntry, hkey]
      exact ends_raise (.refl id _ w)
    | some name =>
      simp only [setEntry, hkey]
      have hname : name ≠ "__dict__" := by
        rintro rfl
        exact hdict _ List.mem_cons_self hkey
      refine Ends.bind ((ends_setAttribute hid hsetting hkey hname).mono (fun _ _ h => h) fun w₁ hw₁ => ?_)
        fun _ w₁ hw₁ => ?_
      · exact hw₁.cons (.refl id rest w₁)
      · have hid₁ : id < w₁.scene.instances.length := Nat.lt_of_lt_of_le hid hw₁.instances
        have hsetting₁ : w₁.scene.typeMember? (.object id type) settingName = none :=
          (hw₁.typeMember? _).trans hsetting
        refine (ih hid₁ hsetting₁ (fun e he => hpresent e (List.mem_cons_of_mem _ he)) hrest
          fun e he => hdict e (List.mem_cons_of_mem _ he)).mono ?_ ?_
        · intro _ w' hw'
          exact hw₁.cons hw' fun e' he' hsame => hfirst (List.mem_map.mpr ⟨e', he', hsame⟩)
        · intro w' hw'
          exact hw₁.toPassesOver.cons hw'

end Prog

end PageObjects
