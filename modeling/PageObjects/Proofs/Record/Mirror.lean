import Mathlib.Tactic.FinCases
import PageObjects.Proofs.Record.Options

/-!
# Forms that mirror records

A record is edited by fitting the fields of a form with options, each with the option of
its name, and by copying the options to the record afterwards.  Both pass over options that
are absent.  So if the fields show the attributes of the record before an edit, they do so
after it; and what is passed over is neither touched on the page nor changed on the record.

Main definitions:

- `FormField`, `Scene.Form`: the fields of a form, and what makes them the form of a record.
- `Prog.fitFields`, `Prog.editForm`: fitting the fields, and the edit of a record.
- `World.Offers`: options that are offered to an edit.
- `World.Mirrors`: the fields show the attributes of the record.
- `Edited`: sequences of successful edits.

Main results:

- Theorem `Prog.ends_updateOptions`: what comes of copying options to the record of a form.
- Theorem `Prog.ends_fitFields`: what comes of fitting the fields.
- Theorem `World.Mirrors.edit`: an edit keeps the form and the record alike.
- Theorem `edits_mirror`: so does any sequence of edits.
-/

namespace PageObjects

/-! ## Forms -/

/-- A field of a form: the attribute that it is for, and its element. -/
structure FormField where
  name : String
  element : String

/-- What makes fields the form of a record: they are text fields, each with an element of its
own, and the record is there and has options copied to it as all records do. -/
structure Scene.Form (s : Scene) (id : Nat) (cls : ClassRef) (fields : List FormField) : Prop where
  there : id < s.instances.length
  type : ∃ t, s.recordType? cls = some t ∧ ∀ name ∈ [settingName, everyName, "update_options"],
    t.members.lookup name = none
  own : s.field? id "update_options" = none
  distinct : (fields.map (·.element)).Nodup
  textual : ∀ f ∈ fields, ∃ e, s.elements.lookup f.element = some e ∧ e.IsTextField s.cells

/-- The option for a field, or the absent value. -/
def FormField.option (f : FormField) (entries : Value.Entries) : Value :=
  (Value.lookup? (.text f.name) entries).getD .none

/-- The elements of the fields that there are options for. -/
def touchedElements (entries : Value.Entries) (fields : List FormField) : List String :=
  (fields.filter fun f => !(f.option entries).isNone).map (·.element)

namespace Prog

/-- Fit the fields of a form with options. -/
def fitFields (options : Value) : List FormField → Prog Unit
  | [] => .done ()
  | f :: rest => do
    let value ← callMember options "get" [.text f.name]
    fit (.element f.element) value
    fitFields options rest

/-- Edit a record: fit the fields of its form, and copy the options to it. -/
def editForm (record options : Value) (fields : List FormField) : Prog Unit := do
  fitFields options fields
  let _ ← callMember record "update_options" [options]

variable {rounds depth id : Nat} {cls : ClassRef} {w : World} {options : Value} {entries : Value.Entries}
  {fields : List FormField}

/-- The option under a name is looked up among the entries. -/
theorem run_get (h : w.scene.entries? options = some entries) (name : String) :
    (callMember options "get" [.text name]).run (callAt rounds (depth + 1)) rounds w =
      (.ok ((Value.lookup? (.text name) entries).getD .none), w) := by
  have hfound : (attributeOf "get" options).run (callAt rounds (depth + 1)) rounds w =
      (.ok (.member options "get"), w) := by
    cases options with
    | map => rfl
    | mapping place => cases place <;> rfl
    | _ => cases h
  have henter : enter (.member options "get") [.text name] [] = callOwnMember options "get" [.text name] [] := by
    cases options with
    | map => rfl
    | mapping place => cases place <;> rfl
    | _ => cases h
  have hdirect : ∀ args named, directOp? (.member options "get") args named = none := by
    cases options with
    | map | mapping => exact fun _ _ => rfl
    | _ => cases h
  rw [run_callMember hfound hdirect, henter]
  cases options with
  | map | mapping =>
    unfold callOwnMember
    simp only [bind_eq, run_view_bind, h]
    rfl
  | _ => cases h

/-- What comes of copying options to the record of a form. -/
theorem ends_updateOptions (hform : w.scene.Form id cls fields) (h : w.scene.entries? options = some entries)
    (hdistinct : (entries.map fun e => e.1.identity).Nodup)
    (hdict : ∀ e ∈ presentEntries entries, e.1.word? ≠ some "__dict__") :
    (callMember (.object id (some cls)) "update_options" [options]).Ends (callAt rounds (depth + 1)) rounds w
      (fun _ w' => w.Copies id (presentEntries entries) w') (w.PassesOver id (presentEntries entries) ·) := by
  obtain ⟨t, ht, hmembers⟩ := hform.type
  have hmember : ∀ name ∈ [settingName, everyName, "update_options"],
      w.scene.typeMember? (.object id (some cls)) name = none := by
    intro name hname
    show w.scene.recordMember? cls name = none
    rw [Scene.recordMember?, ht]
    exact hmembers name hname
  have hresolved : w.scene.resolveInstance (.object id (some cls)) id (some cls) "update_options" =
      .found (.member (.object id (some cls)) "set_options") := by
    simp only [Scene.resolveInstance, hmember "update_options" (by simp), hform.own, Option.bind_some, ht]
    cases hplain : t.plain <;> simp [Scene.sharedMember?, Scene.optionMember?, Scene.thingPart?, hplain]
  have hfound : (attributeOf "update_options" (.object id (some cls))).run (callAt rounds (depth + 1)) rounds w =
      (.ok (.member (.object id (some cls)) "set_options"), w) := by
    show (instanceAttribute (.object id (some cls)) id (some cls) "update_options").run _ _ w = _
    rw [instanceAttribute, bind_eq, run_view_bind, hmember everyName (by simp)]
    simp only [bind_eq, run_view_bind, hresolved]
    rfl
  have hcopied : (silently (setOptions (.object id (some cls)) options)).Ends (callAt rounds depth) rounds w
      (fun _ w' => w.Copies id (presentEntries entries) w') (w.PassesOver id (presentEntries entries) ·) := by
    refine Ends.bind (ends_view_bind ?_) fun _ w' hw' => ends_done hw'
    rw [h]
    simp only [setEntries_present _ entries]
    refine ends_setPresent hform.there (hmember settingName (by simp)) ?_ ?_ hdict
    · intro e he
      simpa using (List.mem_filter.mp he).2
    · exact (List.filter_sublist.map _).nodup hdistinct
  rw [Ends, run_callMember hfound fun _ _ => rfl]
  exact hcopied

end Prog

/-! ## Fitting the fields -/

/-- What comes of fitting the fields: the elements of those that there are options for show
the options, and nothing else has changed. -/
structure World.Fitted (caller : Caller) (rounds id : Nat) (entries : Value.Entries) (fields : List FormField)
    (w w' : World) : Prop where
  typed : w.TypesInto (touchedElements entries fields) w'
  shows : ∀ f ∈ fields, (f.option entries).isNone = false → ∃ e t,
    w.scene.elements.lookup f.element = some e ∧ Steady caller rounds id w (f.option entries) (.ok t) ∧
      w'.scene.elements.lookup f.element = some { e with value := .text t }

/-- Options that are offered to an edit: a mapping that keeps its entries while text is typed
into elements, in which no key occurs twice, and in which the options for the fields are
steady.  It does not replace all attributes at once, nor the member that copies options. -/
structure World.Offers (caller : Caller) (rounds id : Nat) (fields : List FormField) (options : Value)
    (entries : Value.Entries) (w : World) : Prop where
  lasting : ∀ names w', w.TypesInto names w' → w'.scene.entries? options = some entries
  distinct : (entries.map fun e => e.1.identity).Nodup
  names : ∀ e ∈ presentEntries entries, e.1.word? ≠ some "__dict__" ∧ e.1.word? ≠ some "update_options"
  steady : ∀ f ∈ fields, (f.option entries).isNone = false → ∃ text, Steady caller rounds id w (f.option entries) text

/-- A mapping of its own keeps its entries. -/
theorem entries?_map {names : List String} {w w' : World} (h : w.TypesInto names w') (i : Nat) :
    w'.scene.entries? (.map i) = some (w.scene.cells.mapAt i) := by
  rw [Scene.entries?, h.cells]

/-- A text field stays one. -/
theorem World.TypesInto.textual {names : List String} {w w' : World} (h : w.TypesInto names w') {fields : List FormField}
    (htextual : ∀ f ∈ fields, ∃ e, w.scene.elements.lookup f.element = some e ∧ e.IsTextField w.scene.cells) :
    ∀ f ∈ fields, ∃ e, w'.scene.elements.lookup f.element = some e ∧ e.IsTextField w'.scene.cells := by
  intro f hf
  obtain ⟨e, he, htext⟩ := htextual f hf
  obtain ⟨v, hv⟩ := h.values f.element e he
  rw [h.cells]
  exact ⟨_, hv, htext.typed v⟩

/-- Typing into one element and then into others. -/
theorem World.TypesInto.cons {n : String} {names : List String} {w w₁ w' : World} (h : w.TypesInto [n] w₁)
    (h' : w₁.TypesInto names w') : w.TypesInto (n :: names) w' :=
  (h.mono fun _ hm => List.mem_singleton.mp hm ▸ List.mem_cons_self).trans
    (h'.mono fun _ hm => List.mem_cons_of_mem _ hm)

section Touched

variable {entries : Value.Entries} {f : FormField} {fields rest : List FormField}

/-- The elements that are touched are those of fields. -/
theorem mem_of_mem_touchedElements {n : String} (h : n ∈ touchedElements entries fields) :
    n ∈ fields.map (·.element) := by
  obtain ⟨f, hf, rfl⟩ := List.mem_map.mp h
  exact List.mem_map.mpr ⟨f, (List.mem_filter.mp hf).1, rfl⟩

theorem touchedElements_cons_of_none (h : (f.option entries).isNone = true) :
    touchedElements entries (f :: rest) = touchedElements entries rest := by
  simp [touchedElements, h]

theorem touchedElements_cons_of_some (h : (f.option entries).isNone = false) :
    touchedElements entries (f :: rest) = f.element :: touchedElements entries rest := by
  simp [touchedElements, h]

variable {caller : Caller} {rounds id : Nat} {w w₁ w' : World}

/-- A field without an option counts as fitted. -/
theorem World.Fitted.pass (h : w.Fitted caller rounds id entries rest w') (hnone : (f.option entries).isNone = true) :
    w.Fitted caller rounds id entries (f :: rest) w' where
  typed := by
    rw [touchedElements_cons_of_none hnone]
    exact h.typed
  shows g hg hpresent := by
    rcases List.mem_cons.mp hg with rfl | hg
    · rw [hnone] at hpresent
      cases hpresent
    · exact h.shows g hg hpresent

/-- A field that shows its option before the others are fitted does so afterwards. -/
theorem World.Fitted.cons {e : Element} {t : String} (hpresent : (f.option entries).isNone = false)
    (hfirst : f.element ∉ rest.map (·.element)) (he : w.scene.elements.lookup f.element = some e)
    (hshown : Steady caller rounds id w (f.option entries) (.ok t)) (hw₁ : w.TypesInto [f.element] w₁)
    (htyped : w₁.scene.elements.lookup f.element = some { e with value := .text t })
    (hsteady : ∀ g ∈ rest, (g.option entries).isNone = false →
      ∃ text, Steady caller rounds id w (g.option entries) text)
    (h : w₁.Fitted caller rounds id entries rest w') : w.Fitted caller rounds id entries (f :: rest) w' where
  typed := by
    rw [touchedElements_cons_of_some hpresent]
    exact hw₁.cons h.typed
  shows g hg hgpresent := by
    rcases List.mem_cons.mp hg with rfl | hg
    · refine ⟨e, t, he, hshown, ?_⟩
      rw [h.typed.others _ fun hmem => hfirst (mem_of_mem_touchedElements hmem), htyped]
    · -- the other fields have other elements, and what their options show is what it was
      obtain ⟨e', t', he', hshown', htyped'⟩ := h.shows g hg hgpresent
      have hother : g.element ∉ [f.element] := by
        intro hmem
        rw [List.mem_singleton] at hmem
        exact hfirst (List.mem_map.mpr ⟨g, hg, hmem⟩)
      obtain ⟨text, htext⟩ := hsteady g hg hgpresent
      have hsame := (hshown' w₁ (.refl id w₁)).symm.trans (htext w₁ (hw₁.near id))
      obtain rfl : .ok t' = text := (Prod.mk.inj hsame).1
      exact ⟨e', t', (hw₁.others _ hother).symm.trans he', htext, htyped'⟩

end Touched

namespace Prog

variable {rounds depth id : Nat} {w : World} {options : Value} {entries : Value.Entries} {fields : List FormField}

/-- To fit the fields one after the other makes each show its option, if there is one. -/
theorem ends_fitFields (hdistinct : (fields.map (·.element)).Nodup)
    (htextual : ∀ f ∈ fields, ∃ e, w.scene.elements.lookup f.element = some e ∧ e.IsTextField w.scene.cells)
    (hentries : ∀ names w', w.TypesInto names w' → w'.scene.entries? options = some entries)
    (hsteady : ∀ f ∈ fields, (f.option entries).isNone = false →
      ∃ text, Steady (callAt rounds (depth + 1)) rounds id w (f.option entries) text) :
    (fitFields options fields).Ends (callAt rounds (depth + 1)) rounds w
      (fun _ w' => w.Fitted (callAt rounds (depth + 1)) rounds id entries fields w')
      (w.TypesInto (touchedElements entries fields) ·) := by
  induction fields generalizing w with
  | nil => exact ends_done ⟨.refl _ w, fun _ h => nomatch h⟩
  | cons f rest ih =>
    obtain ⟨hfirst, hrest⟩ := List.nodup_cons.mp hdistinct
    obtain ⟨e, he, htext⟩ := htextual f List.mem_cons_self
    have hsteadyRest : ∀ g ∈ rest, (g.option entries).isNone = false →
        ∃ text, Steady (callAt rounds (depth + 1)) rounds id w (g.option entries) text := fun g hg =>
      hsteady g (List.mem_cons_of_mem _ hg)
    have hget : (callMember options "get" [.text f.name]).run (callAt rounds (depth + 1)) rounds w =
        (.ok (f.option entries), w) := run_get (hentries [] w (.refl [] w)) f.name
    refine Ends.bind (Ends.of_run hget (Q := fun v w' => v = f.option entries ∧ w' = w) ⟨rfl, rfl⟩) ?_
    rintro _ w ⟨rfl, rfl⟩
    -- the rest of the fields, once the first has been fitted or passed over
    have hlater : ∀ {names w₁}, w.TypesInto names w₁ →
        (fitFields options rest).Ends (callAt rounds (depth + 1)) rounds w₁
          (fun _ w' => w₁.Fitted (callAt rounds (depth + 1)) rounds id entries rest w')
          (w₁.TypesInto (touchedElements entries rest) ·) := by
      intro names w₁ hw₁
      refine ih hrest (hw₁.textual fun g hg => htextual g (List.mem_cons_of_mem _ hg)) ?_ ?_
      · intro names' w' hw'
        exact hentries (names ++ names') w' ((hw₁.mono fun n hn => List.mem_append_left _ hn).trans
          (hw'.mono fun n hn => List.mem_append_right _ hn))
      · intro g hg hpresent
        obtain ⟨text, htext⟩ := hsteadyRest g hg hpresent
        exact ⟨text, htext.near (hw₁.near id)⟩
    by_cases hnone : (f.option entries).isNone = true
    · have hfit : fit (.element f.element) (f.option entries) = .done () := by
        rw [Value.isNone_iff.mp hnone, fit_none]
      rw [hfit, touchedElements_cons_of_none hnone]
      exact (hlater (.refl [] w)).mono (fun _ _ hw' => hw'.pass hnone) fun _ hw' => hw'
    · have hpresent : (f.option entries).isNone = false := by simpa using hnone
      obtain ⟨text, hshown⟩ := hsteady f List.mem_cons_self hpresent
      rw [touchedElements_cons_of_some hpresent]
      refine Ends.bind ((ends_fit he htext hpresent hshown).mono (fun _ _ h => h)
        fun w₁ hw₁ => hw₁.cons (.refl _ w₁)) ?_
      rintro _ w₁ ⟨hw₁, t, rfl, htyped⟩
      exact (hlater hw₁).mono (fun _ _ hw' => hw'.cons hpresent hfirst he hshown hw₁ htyped hsteadyRest)
        fun _ hw' => hw₁.cons hw'

end Prog

/-! ## Edits -/

/-- Each field shows the text of the attribute of its name. -/
def World.Mirrors (caller : Caller) (rounds id : Nat) (cls : ClassRef) (fields : List FormField) (w : World) : Prop :=
  ∀ f ∈ fields, ∃ e v t, w.scene.elements.lookup f.element = some e ∧
    w.scene.resolveInstance (.object id (some cls)) id (some cls) f.name = .found v ∧
    (Prog.shown v).run caller rounds w = (.ok t, w) ∧ e.value.word? = some t

/-- The attributes that the fields are for are steady. -/
def World.SteadyAttributes (caller : Caller) (rounds id : Nat) (cls : ClassRef) (fields : List FormField)
    (w : World) : Prop :=
  ∀ f ∈ fields, ∀ v, w.scene.resolveInstance (.object id (some cls)) id (some cls) f.name = .found v →
    ∃ text, Steady caller rounds id w v text

section Edits

variable {caller : Caller} {rounds depth id : Nat} {cls : ClassRef} {fields : List FormField} {options : Value}
  {entries : Value.Entries} {w w' w₁ : World}

/-- What a record keeps under a name is its attribute of that name. -/
theorem Scene.resolveInstance_field {s : Scene} {type : Option ClassRef} {name : String} (hname : IsFieldName name)
    {v : Value} (h : s.field? id name = some v) : s.resolveInstance (.object id type) id type name = .found v := by
  have hpart : ∀ t, thingPart? id t name = none := by
    intro t
    rw [thingPart?, if_neg hname.1, if_neg hname.2.1, if_neg hname.2.2]
  simp only [resolveInstance, hpart, ite_self, h, Option.some_or]

/-- An attribute of a record changes only with what is kept under its name. -/
theorem World.Near.resolveInstance (h : w.Near id w') {name : String}
    (hfield : w'.scene.field? id name = w.scene.field? id name) (type : Option ClassRef) :
    w'.scene.resolveInstance (.object id type) id type name = w.scene.resolveInstance (.object id type) id type name := by
  simp only [Scene.resolveInstance, h.typeMember?, h.recordType?, hfield]

/-- The elements of fields without options are not touched. -/
theorem not_mem_touchedElements (hdistinct : (fields.map (·.element)).Nodup) {f : FormField} (hf : f ∈ fields)
    (hnone : (f.option entries).isNone = true) : f.element ∉ touchedElements entries fields := by
  intro hmem
  obtain ⟨g, hg, hsame⟩ := List.mem_map.mp hmem
  obtain ⟨hg, hpresent⟩ := List.mem_filter.mp hg
  obtain rfl := List.inj_on_of_nodup_map hdistinct hg hf hsame
  rw [hnone] at hpresent
  cases hpresent

/-- No option is copied under the name of a field without an option. -/
theorem not_mem_presentEntries (hdistinct : (entries.map fun e => e.1.identity).Nodup) {f : FormField}
    (hnone : (f.option entries).isNone = true) : ∀ e ∈ presentEntries entries, e.1.word? ≠ some f.name := by
  intro e he hkey
  obtain ⟨hmem, hpresent⟩ := List.mem_filter.mp he
  rw [FormField.option, Value.lookup?_of_mem hdistinct hmem hkey, Option.getD_some] at hnone
  rw [hnone] at hpresent
  cases hpresent

/-- The option for a field is copied under its name. -/
theorem World.Copies.option {f : FormField} (h : w.Copies id (presentEntries entries) w')
    (hpresent : (f.option entries).isNone = false) :
    IsFieldName f.name ∧ w'.scene.field? id f.name = some (f.option entries) := by
  cases hlookup : Value.lookup? (.text f.name) entries with
  | none =>
    rw [FormField.option, hlookup] at hpresent
    cases hpresent
  | some v =>
    rw [FormField.option, hlookup, Option.getD_some] at hpresent ⊢
    obtain ⟨key, hmem, hkey⟩ := Value.mem_of_lookup? hlookup
    exact h.set key v f.name (List.mem_filter.mpr ⟨hmem, by simp [hpresent]⟩) hkey

/-- What is kept by an instance that was there stays while text is typed into elements. -/
theorem World.TypesInto.fieldsOf {names : List String} (h : w.TypesInto names w')
    (hid : id < w.scene.instances.length) : w'.scene.fieldsOf id = w.scene.fieldsOf id :=
  Scene.fieldsOf_of_prefix h.instances hid

/-- A form of a record stays one while text is typed into elements. -/
theorem Scene.Form.typed {names : List String} (h : w.scene.Form id cls fields) (hw : w.TypesInto names w') :
    w'.scene.Form id cls fields where
  there := Nat.lt_of_lt_of_le h.there hw.instances.length_le
  type := by
    rw [(hw.near id).recordType?]
    exact h.type
  own := by
    rw [Scene.field?, hw.fieldsOf h.there]
    exact h.own
  distinct := h.distinct
  textual := hw.textual h.textual

/-- A form of a record stays one when options are copied to the record. -/
theorem Scene.Form.copied (h : w.scene.Form id cls fields) (hw : w.PassesOver id entries w')
    (hown : ∀ e ∈ entries, e.1.word? ≠ some "update_options") : w'.scene.Form id cls fields where
  there := Nat.lt_of_lt_of_le h.there hw.instances
  type := by
    rw [hw.recordType?]
    exact h.type
  own := (hw.kept _ hown).trans h.own
  distinct := h.distinct
  textual := by
    have hcells : w'.scene.cells = w.scene.cells := by
      show w'.scene.surroundings.cells = w.scene.surroundings.cells
      rw [hw.surroundings]
    rw [hw.elements, hcells]
    exact h.textual

/-- An attribute with an option is this option once the options have been copied. -/
theorem World.Copies.resolveInstance {f : FormField} (h : w.Copies id (presentEntries entries) w')
    (hpresent : (f.option entries).isNone = false) :
    w'.scene.resolveInstance (.object id (some cls)) id (some cls) f.name = .found (f.option entries) := by
  obtain ⟨hname, hfield⟩ := h.option hpresent
  exact Scene.resolveInstance_field hname hfield

/-- An attribute without an option is what it was before the fields were fitted. -/
theorem World.PassesOver.resolveInstance {names : List String} (hform : w.scene.Form id cls fields)
    (htyped : w.TypesInto names w₁) (hpassed : w₁.PassesOver id (presentEntries entries) w')
    (hdistinct : (entries.map fun e => e.1.identity).Nodup) {f : FormField}
    (hnone : (f.option entries).isNone = true) :
    w'.scene.resolveInstance (.object id (some cls)) id (some cls) f.name =
      w.scene.resolveInstance (.object id (some cls)) id (some cls) f.name := by
  refine World.Near.resolveInstance ((htyped.near id).trans hpassed.toNear) ?_ (some cls)
  rw [hpassed.kept _ (not_mem_presentEntries hdistinct hnone), Scene.field?, htyped.fieldsOf hform.there]
  rfl

/-- What comes of an edit: the fields are fitted, and then the options are copied; if something
fails, it fails while the fields are fitted or while the options are copied. -/
theorem Prog.ends_editForm (hform : w.scene.Form id cls fields)
    (hoffers : w.Offers (callAt rounds (depth + 1)) rounds id fields options entries) :
    (editForm (.object id (some cls)) options fields).Ends (callAt rounds (depth + 1)) rounds w
      (fun _ w' => ∃ w₁, w.Fitted (callAt rounds (depth + 1)) rounds id entries fields w₁ ∧
        w₁.Copies id (presentEntries entries) w')
      (fun w' => ∃ w₁, w.TypesInto (touchedElements entries fields) w₁ ∧
        w₁.PassesOver id (presentEntries entries) w') := by
  refine Ends.bind ((ends_fitFields hform.distinct hform.textual hoffers.lasting hoffers.steady).mono
    (fun _ _ h => h) fun w₁ hw₁ => ⟨w₁, hw₁, .refl id _ w₁⟩) fun _ w₁ hw₁ => ?_
  have hcopied : (callMember (.object id (some cls)) "update_options" [options]).Ends (callAt rounds (depth + 1)) rounds
      w₁ (fun _ w' => w₁.Copies id (presentEntries entries) w') (w₁.PassesOver id (presentEntries entries) ·) :=
    ends_updateOptions (hform.typed hw₁.typed) (hoffers.lasting _ w₁ hw₁.typed) hoffers.distinct
      fun e he => (hoffers.names e he).1
  exact Ends.bind (hcopied.mono (fun _ _ h => h) fun w' hw' => ⟨w₁, hw₁.typed, hw'⟩)
    fun _ w' hw' => ends_done ⟨w₁, hw₁, hw'⟩

/-- An edit that succeeds keeps the form and the record alike, and leaves them as they have
to be for another one. -/
theorem World.Mirrors.edit (hform : w.scene.Form id cls fields)
    (hmirrors : w.Mirrors (callAt rounds (depth + 1)) rounds id cls fields)
    (hsteady : w.SteadyAttributes (callAt rounds (depth + 1)) rounds id cls fields)
    (hoffers : w.Offers (callAt rounds (depth + 1)) rounds id fields options entries)
    (hrun : (Prog.editForm (.object id (some cls)) options fields).run (callAt rounds (depth + 1)) rounds w =
      (.ok (), w')) :
    w'.scene.Form id cls fields ∧ w'.Mirrors (callAt rounds (depth + 1)) rounds id cls fields ∧
      w'.SteadyAttributes (callAt rounds (depth + 1)) rounds id cls fields := by
  obtain ⟨w₁, hfitted, hcopied⟩ := (Prog.ends_editForm hform hoffers).answer hrun
  have hnear : w.Near id w' := (hfitted.typed.near id).trans hcopied.toNear
  have hkept : ∀ f : FormField, (f.option entries).isNone = true →
      w'.scene.resolveInstance (.object id (some cls)) id (some cls) f.name =
        w.scene.resolveInstance (.object id (some cls)) id (some cls) f.name := fun f hnone =>
    hcopied.toPassesOver.resolveInstance hform hfitted.typed hoffers.distinct hnone
  refine ⟨(hform.typed hfitted.typed).copied hcopied.toPassesOver fun e he => (hoffers.names e he).2, ?_, ?_⟩
  · intro f hf
    by_cases hnone : (f.option entries).isNone = true
    · obtain ⟨e, v, t, he, hfound, hshown, hvalue⟩ := hmirrors f hf
      obtain ⟨text, htext⟩ := hsteady f hf v hfound
      have hsame := (htext w (.refl id w)).symm.trans hshown
      refine ⟨e, v, t, ?_, (hkept f hnone).trans hfound, ?_, hvalue⟩
      · rw [hcopied.elements, hfitted.typed.others _ (not_mem_touchedElements hform.distinct hf hnone), he]
      · rw [htext w' hnear, (Prod.mk.inj hsame).1]
    · have hpresent : (f.option entries).isNone = false := by simpa using hnone
      obtain ⟨e, t, -, hshown, htyped⟩ := hfitted.shows f hf hpresent
      refine ⟨{ e with value := .text t }, f.option entries, t, ?_, hcopied.resolveInstance hpresent,
        hshown w' hnear, rfl⟩
      rw [hcopied.elements, htyped]
  · intro f hf v hfound
    by_cases hnone : (f.option entries).isNone = true
    · obtain ⟨text, htext⟩ := hsteady f hf v ((hkept f hnone).symm.trans hfound)
      exact ⟨text, htext.near hnear⟩
    · have hpresent : (f.option entries).isNone = false := by simpa using hnone
      have hsame := (hcopied.resolveInstance hpresent).symm.trans hfound
      cases hsame
      obtain ⟨text, htext⟩ := hoffers.steady f hf hpresent
      exact ⟨text, htext.near hnear⟩

/-- A field without an option is neither touched by an edit nor changed on the record,
whatever comes of the edit. -/
theorem Prog.editForm_passesOver (hform : w.scene.Form id cls fields)
    (hoffers : w.Offers (callAt rounds (depth + 1)) rounds id fields options entries)
    (hw' : ((editForm (.object id (some cls)) options fields).run (callAt rounds (depth + 1)) rounds w).2 = w')
    {f : FormField} (hf : f ∈ fields) (hnone : f.option entries = .none) :
    w'.scene.elements.lookup f.element = w.scene.elements.lookup f.element ∧
      (∃ more, w'.scene.events = more ++ w.scene.events ∧ ∀ u, Event.element f.element u ∉ more) ∧
      w'.scene.resolveInstance (.object id (some cls)) id (some cls) f.name =
        w.scene.resolveInstance (.object id (some cls)) id (some cls) f.name := by
  have hnone : (f.option entries).isNone = true := by
    rw [hnone]
    rfl
  have huntouched := not_mem_touchedElements hform.distinct hf hnone
  have hends : ∃ w₁, w.TypesInto (touchedElements entries fields) w₁ ∧
      w₁.PassesOver id (presentEntries entries) w' := by
    rw [← hw']
    exact (ends_editForm hform hoffers).world (P := fun w' => ∃ w₁, w.TypesInto (touchedElements entries fields) w₁ ∧
      w₁.PassesOver id (presentEntries entries) w')
      (fun _ w' ⟨w₁, hfitted, hcopied⟩ => ⟨w₁, hfitted.typed, hcopied.toPassesOver⟩) fun _ h => h
  obtain ⟨w₁, htyped, hpassed⟩ := hends
  refine ⟨?_, ?_, ?_⟩
  · rw [hpassed.elements, htyped.others _ huntouched]
  · obtain ⟨more, hmore, huses⟩ := htyped.events
    refine ⟨more, hpassed.events.trans hmore, fun u hu => ?_⟩
    obtain ⟨n, hn, u', heq⟩ := huses _ hu
    cases heq
    exact huntouched hn
  · exact hpassed.resolveInstance hform htyped hoffers.distinct hnone

end Edits

/-- What comes of a sequence of successful edits, each with options of its own. -/
inductive Edited (caller : Caller) (rounds id : Nat) (cls : ClassRef) (fields : List FormField) : World → World → Prop
  | refl (w : World) : Edited caller rounds id cls fields w w
  | edit {w w₁ w' : World} (options : Value) (entries : Value.Entries) :
      Edited caller rounds id cls fields w w₁ → w₁.Offers caller rounds id fields options entries →
      (Prog.editForm (.object id (some cls)) options fields).run caller rounds w₁ = (.ok (), w') →
      Edited caller rounds id cls fields w w'

/-- If the fields of a form show the attributes of a record, they do so after every sequence
of successful edits.  A field whose option is absent is neither touched nor changed by an
edit, whatever comes of it.  If fitting a field fails, no attribute of the record has
changed. -/
theorem edits_mirror (rounds depth id : Nat) (cls : ClassRef) (fields : List FormField) (w w' : World)
    (hform : w.scene.Form id cls fields) :
    (w.Mirrors (callAt rounds (depth + 1)) rounds id cls fields →
      w.SteadyAttributes (callAt rounds (depth + 1)) rounds id cls fields →
      Edited (callAt rounds (depth + 1)) rounds id cls fields w w' →
      w'.Mirrors (callAt rounds (depth + 1)) rounds id cls fields) ∧
    ∀ options entries, w.Offers (callAt rounds (depth + 1)) rounds id fields options entries →
      (((Prog.editForm (.object id (some cls)) options fields).run (callAt rounds (depth + 1)) rounds w).2 = w' →
        ∀ f ∈ fields, f.option entries = .none →
          w'.scene.elements.lookup f.element = w.scene.elements.lookup f.element ∧
          (∃ more, w'.scene.events = more ++ w.scene.events ∧ ∀ u, Event.element f.element u ∉ more) ∧
          w'.scene.resolveInstance (.object id (some cls)) id (some cls) f.name =
            w.scene.resolveInstance (.object id (some cls)) id (some cls) f.name) ∧
      ∀ r, (Prog.fitFields options fields).run (callAt rounds (depth + 1)) rounds w = (.error r, w') →
        (Prog.editForm (.object id (some cls)) options fields).run (callAt rounds (depth + 1)) rounds w =
            (.error r, w') ∧
          w'.scene.fieldsOf id = w.scene.fieldsOf id ∧
          ∀ name, w'.scene.resolveInstance (.object id (some cls)) id (some cls) name =
            w.scene.resolveInstance (.object id (some cls)) id (some cls) name := by
  constructor
  · intro hmirrors hsteady hedited
    have hall : w'.scene.Form id cls fields ∧ w'.Mirrors (callAt rounds (depth + 1)) rounds id cls fields ∧
        w'.SteadyAttributes (callAt rounds (depth + 1)) rounds id cls fields := by
      induction hedited with
      | refl => exact ⟨hform, hmirrors, hsteady⟩
      | edit options entries _ hoffers hrun ih =>
        obtain ⟨hform₁, hmirrors₁, hsteady₁⟩ := ih
        exact hmirrors₁.edit hform₁ hsteady₁ hoffers hrun
    exact hall.2.1
  · intro options entries hoffers
    constructor
    · intro hw' f hf hnone
      exact Prog.editForm_passesOver hform hoffers hw' hf hnone
    · intro r hfails
      have htyped : w.TypesInto (touchedElements entries fields) w' :=
        (Prog.ends_fitFields hform.distinct hform.textual hoffers.lasting hoffers.steady).fault hfails
      have hfields : w'.scene.fieldsOf id = w.scene.fieldsOf id := htyped.fieldsOf hform.there
      refine ⟨?_, hfields, fun name => ?_⟩
      · rw [Prog.editForm, Prog.bind_eq, Prog.run_bind_eq, hfails]
        rfl
      · refine (htyped.near id).resolveInstance ?_ (some cls)
        rw [Scene.field?, hfields]
        rfl

/-! ## A form -/

section Users

/-- A type of records. -/
def userType : ClassRef := ⟨0, "User"⟩

/-- The fields of the form of such a record. -/
def userForm : List FormField := [⟨"name", "name"⟩, ⟨"email", "email"⟩, ⟨"code", "code"⟩]

/-- A text field with a text. -/
def textElement (text : String) (enabled : Bool) : Element :=
  { tag := .text "textarea", value := .text text, enabled := .bool enabled, attributes := .map 1 }

/-- Such an element is fitted as a text field. -/
theorem isTextField_textElement {cells : Cells} (hcells : cells.mapAt 1 = []) (text : String) (enabled : Bool) :
    (textElement text enabled).IsTextField cells where
  tag := rfl
  enabled := rfl
  type v hv := by
    have hnone : (textElement text enabled).getAttribute cells (.text "type") = .ok .none := by
      simp [Element.getAttribute, textElement, Cells.entries?, hcells, Value.hashable, Value.lookup?]
    cases hnone.symm.trans hv
    rfl
  noList t ht := by
    cases ht
    decide +kernel
  noToggle t ht hinput := by
    cases ht
    exact absurd hinput (by decide +kernel)

/-- A page with the fields of the form; to one of them nothing can be written. -/
def userSetting : Setting where
  elements := [("name", textElement "Ada" true), ("email", textElement "ada@example.org" true),
    ("code", textElement "" false)]

/-- What the record keeps that the form shows. -/
def userFields : List (String × Value) :=
  [("name", .text "Ada"), ("email", .text "ada@example.org"), ("code", .text "")]

/-- Options that leave the name alone and clear another attribute. -/
def clearingOptions : Value.Entries := [(.text "name", .none), (.text "email", .text ""), (.text "active", .int 0)]

/-- Options with one for the field that nothing can be written to. -/
def refusedOptions : Value.Entries := [(.text "name", .text "Grace"), (.text "code", .text "x")]

/-- The world with the record and the options. -/
def userWorld : World :=
  userSetting.world.after
    [.op (.addRecordType { name := "User", plain := false }), .op (.addInstance { fields := userFields }),
     .op (.makeCell (.map clearingOptions)), .op (.makeCell (.map refusedOptions))]

/-- The world after an edit with the first options. -/
def editedWorld : World :=
  ((Prog.editForm (.object 0 (some userType)) (.map 3) userForm).run (callAt 1 1) 1 userWorld).2

/-- The world after the fields have been fitted with the other options. -/
def refusedWorld : World := ((Prog.fitFields (.map 4) userForm).run (callAt 1 1) 1 editedWorld).2

theorem userWorld_form : userWorld.scene.Form 0 userType userForm where
  there := by decide
  type := ⟨_, rfl, by intro name _; rfl⟩
  own := rfl
  distinct := by decide
  textual f hf := by
    have hcells : userWorld.scene.cells.mapAt 1 = [] := rfl
    fin_cases hf <;> exact ⟨_, rfl, isTextField_textElement hcells _ _⟩

theorem userWorld_mirrors : userWorld.Mirrors (callAt 1 1) 1 0 userType userForm := by
  intro f hf
  fin_cases hf <;> exact ⟨_, _, _, rfl, rfl, rfl, rfl⟩

theorem userWorld_steadyAttributes : userWorld.SteadyAttributes (callAt 1 1) 1 0 userType userForm := by
  intro f hf v hv
  fin_cases hf <;> cases hv <;> exact ⟨_, steady_of_plainText rfl _ _ _ _⟩

theorem userWorld_offers : userWorld.Offers (callAt 1 1) 1 0 userForm (.map 3) clearingOptions where
  lasting names w' h := entries?_map h 3
  distinct := by decide
  names := by decide
  steady f hf hpresent := by
    fin_cases hf
    · cases hpresent
    · exact ⟨_, steady_of_plainText rfl _ _ _ _⟩
    · cases hpresent

theorem editedWorld_offers : editedWorld.Offers (callAt 1 1) 1 0 userForm (.map 4) refusedOptions where
  lasting names w' h := entries?_map h 4
  distinct := by decide
  names := by decide
  steady f hf hpresent := by
    fin_cases hf
    · exact ⟨_, steady_of_plainText rfl _ _ _ _⟩
    · cases hpresent
    · exact ⟨_, steady_of_plainText rfl _ _ _ _⟩

/-- After an edit that passes over the name and clears another attribute, the form shows the
record.  When the next one fails at the last field, the first one shows what has been typed,
and the record is what it was. -/
theorem userWorld_edits :
    userWorld.scene.Form 0 userType userForm ∧ editedWorld.scene.Form 0 userType userForm ∧
      editedWorld.Mirrors (callAt 1 1) 1 0 userType userForm ∧
      (editedWorld.scene.elements.lookup "name").map (·.value) = some (.text "Ada") ∧
      (refusedWorld.scene.elements.lookup "name").map (·.value) = some (.text "Grace") ∧
      refusedWorld.scene.fieldsOf 0 = editedWorld.scene.fieldsOf 0 := by
  have hedit : (Prog.editForm (.object 0 (some userType)) (.map 3) userForm).run (callAt 1 1) 1 userWorld =
      (.ok (), editedWorld) := Prod.ext (by rfl) rfl
  have hedited : Edited (callAt 1 1) 1 0 userType userForm userWorld editedWorld :=
    .edit (.map 3) clearingOptions (.refl userWorld) userWorld_offers hedit
  have hmirrors : editedWorld.Mirrors (callAt 1 1) 1 0 userType userForm :=
    (edits_mirror 1 0 0 userType userForm userWorld editedWorld userWorld_form).1 userWorld_mirrors
      userWorld_steadyAttributes hedited
  have hform : editedWorld.scene.Form 0 userType userForm :=
    (userWorld_mirrors.edit userWorld_form userWorld_steadyAttributes userWorld_offers hedit).1
  have hrefused : ∃ r, (Prog.fitFields (.map 4) userForm).run (callAt 1 1) 1 editedWorld =
      (.error r, refusedWorld) := ⟨_, Prod.ext (by rfl) rfl⟩
  obtain ⟨r, hrefused⟩ := hrefused
  have hleft := (edits_mirror 1 0 0 userType userForm editedWorld refusedWorld hform).2 (.map 4) refusedOptions
    editedWorld_offers
  exact ⟨userWorld_form, hform, hmirrors, rfl, rfl, (hleft.2 r hrefused).2.1⟩

/-- The text of an attribute of a record, if it has the attribute. -/
def World.attributeText? (caller : Caller) (rounds id : Nat) (cls : ClassRef) (name : String) (w : World) : Option String :=
  match w.scene.resolveInstance (.object id (some cls)) id (some cls) name with
  | .found v => ((Prog.shown v).run caller rounds w).1.toOption
  | _ => none

/-- A field that shows an attribute has its text. -/
theorem World.Mirrors.attributeText? {caller : Caller} {rounds id : Nat} {cls : ClassRef} {fields : List FormField}
    {w : World} (h : w.Mirrors caller rounds id cls fields) {f : FormField} (hf : f ∈ fields) :
    w.attributeText? caller rounds id cls f.name = (w.scene.elements.lookup f.element).bind (·.value.word?) := by
  obtain ⟨e, v, t, he, hfound, hshown, hvalue⟩ := h f hf
  simp [World.attributeText?, he, hfound, hshown, hvalue, Except.toOption]

/-- The field for the name. -/
def nameField : FormField := ⟨"name", "name"⟩

/-- A record with the field, its type with some members, and a mapping with one option; and a
record that shows how often it has been shown. -/
def singleWorld (members fields : List (String × Value)) (option : Value × Value) : World :=
  userSetting.world.after
    [.op (.addFunction (.request (.const .none))), .op (.addFunction (.inspect (.request (.count "shown")))),
     .op (.addRecordType { name := "User", plain := false, members := members }),
     .op (.addRecordType { name := "Shown", plain := false, members := [(textMember, .method textMember 1)] }),
     .op (.addInstance { fields := fields }), .op (.addInstance {}), .op (.makeCell (.map [option]))]

/-- What comes of the edit of the record. -/
def singleEdit (w : World) : Except Raised Unit × World :=
  (Prog.editForm (.object 0 (some userType)) (.map 3) [nameField]).run (callAt 1 10) 1 w

/-- A world in which the field shows the name of the record before the edit, but not after
it, although the edit succeeds. -/
def World.FallsApart (w : World) : Prop :=
  w.Mirrors (callAt 1 10) 1 0 userType [nameField] ∧ (singleEdit w).1.isOk = true ∧
    ¬ (singleEdit w).2.Mirrors (callAt 1 10) 1 0 userType [nameField]

/-- It is one if the element shows another text after the edit than that of the attribute. -/
theorem World.fallsApart_of_text {w : World} (hmirrors : w.Mirrors (callAt 1 10) 1 0 userType [nameField])
    (hsucceeds : (singleEdit w).1.isOk = true)
    (happart : (singleEdit w).2.attributeText? (callAt 1 10) 1 0 userType nameField.name ≠
      ((singleEdit w).2.scene.elements.lookup nameField.element).bind (·.value.word?)) : w.FallsApart :=
  ⟨hmirrors, hsucceeds, fun h => happart (h.attributeText? (List.mem_singleton_self nameField))⟩

theorem singleWorld_mirrors {members fields : List (String × Value)} {option : Value × Value}
    (h : (singleWorld members fields option).scene.resolveInstance (.object 0 (some userType)) 0 (some userType) "name" =
      .found (.text "Ada")) : (singleWorld members fields option).Mirrors (callAt 1 10) 1 0 userType [nameField] := by
  intro f hf
  obtain rfl := List.mem_singleton.mp hf
  exact ⟨_, _, "Ada", rfl, h, rfl, rfl⟩

/-- Fields and attributes fall apart if the type of the record does nothing when an attribute
is to be set, if an option replaces all attributes at once, and if an option shows another
text each time. -/
theorem singleWorld_fallsApart :
    (singleWorld [("name", .text "Ada"), (settingName, .method settingName 0)] []
      (.text "name", .text "Grace")).FallsApart ∧
    (singleWorld [] [("name", .text "Ada")] (.text "__dict__", .map 1)).FallsApart ∧
    (singleWorld [] [("name", .text "Ada")] (.text "name", .object 1 (some ⟨1, "Shown"⟩))).FallsApart := by
  refine ⟨?_, ?_, ?_⟩
  · exact World.fallsApart_of_text (singleWorld_mirrors rfl) (by decide +kernel) (by decide +kernel)
  · exact World.fallsApart_of_text (singleWorld_mirrors rfl) (by decide +kernel) (by decide +kernel)
  · exact World.fallsApart_of_text (singleWorld_mirrors rfl) (by decide +kernel) (by decide +kernel)

end Users

end PageObjects
