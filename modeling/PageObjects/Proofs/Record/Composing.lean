import PageObjects.Proofs.Catalog.Overriding
import PageObjects.Proofs.Record.Mirror

/-!
# Options that are set one after the other

Options that are set on a record are put into its fields: in the place of their names, or at
the end.  So of all options that are set under a name the last one counts that is not absent,
and they may be merged before they are set.  A record lacks a name if neither it nor its type
has a value for it; as absent options are passed over, it never comes to lack a name.

Main definitions:

- `givenFields`, `mergedFields`: the fields that options have values for.
- `lastGiven`: the value that options give last under a name.
- `World.giving`: fields are put into those of an instance.
- `Scene.KeepsOptions`: options are set on a record as on all records.
- `Optioned`: options are set on a record one after the other.
- `Scene.lacks`: whether a record has no value under a name.

Main results:

- Theorem `Prog.run_setEntries`, `Prog.run_setsOptions`: what comes of setting options.
- Theorem `Prog.run_requires`: what comes of requiring values.
- Theorem `Prog.run_newRecord`: a record is made by setting its defaults and then options.
- Theorem `options_compose`: options that are set one after the other may be merged.
-/

namespace PageObjects

/-! ## Fields -/

/-- The fields that options have values for. -/
def givenFields (entries : Value.Entries) : List (String × Value) := Prog.fieldsAmong (presentEntries entries)

/-- The fields that options have values for, each once with the value that comes last. -/
def mergedFields (es : List Value.Entries) : List (String × Value) := Assoc.merge [] (es.flatMap givenFields)

/-- The value that options give last under a name. -/
def lastGiven (name : String) (es : List Value.Entries) : Option Value := (es.flatMap givenFields).reverse.lookup name

/-- What is given is not absent. -/
theorem isNone_of_mem_givenFields {entries : Value.Entries} {e : String × Value} (h : e ∈ givenFields entries) :
    e.2.isNone = false := by
  obtain ⟨⟨key, v⟩, hmem, hkey⟩ := List.mem_filterMap.mp h
  obtain ⟨name, -, rfl⟩ := Option.map_eq_some_iff.mp hkey
  simpa using (List.mem_filter.mp hmem).2

/-- What is put into entries is all that comes to them. -/
theorem Assoc.forall_merge {α β : Type} [BEq α] {P : β → Prop} {entries extra : List (α × β)}
    (h : ∀ e ∈ entries, P e.2) (h' : ∀ e ∈ extra, P e.2) : ∀ e ∈ merge entries extra, P e.2 := by
  induction extra generalizing entries with
  | nil => exact h
  | cons first rest ih =>
    refine ih (fun e he => ?_) fun e he => h' e (List.mem_cons_of_mem _ he)
    rcases mem_put he with heq | hmem
    · exact heq ▸ h' first List.mem_cons_self
    · exact h e hmem

/-- Merged fields are given by options with these names. -/
theorem givenFields_named_merged (es : List Value.Entries) :
    givenFields (Value.named (mergedFields es)) = mergedFields es := by
  have hpresent : ∀ e ∈ mergedFields es, e.2.isNone = false := by
    refine @Assoc.forall_merge _ _ _ (fun v : Value => v.isNone = false) [] _ (fun _ h => nomatch h) fun e he => ?_
    obtain ⟨entries, -, hmem⟩ := List.mem_flatMap.mp he
    exact isNone_of_mem_givenFields hmem
  have hnamed : ∀ fields : List (String × Value), (∀ e ∈ fields, e.2.isNone = false) →
      givenFields (Value.named fields) = fields := by
    intro fields hfields
    induction fields with
    | nil => rfl
    | cons e rest ih =>
      have hrest : givenFields (Value.named rest) = rest := ih fun e he => hfields e (List.mem_cons_of_mem _ he)
      rw [givenFields, presentEntries] at hrest ⊢
      rw [Value.named, List.map_cons, List.filter_cons_of_pos (by simp [hfields e List.mem_cons_self])]
      show e :: Prog.fieldsAmong _ = e :: rest
      rw [← Value.named, hrest]
  exact hnamed _ hpresent

/-- Fields are put into those of an instance. -/
def World.giving (w : World) (id : Nat) (fields : List (String × Value)) : World :=
  { w with scene := w.scene.setFields id (Assoc.merge (w.scene.fieldsOf id) fields) }

namespace World

variable {w : World} {id : Nat}

/-- The world with one more mapping. -/
def withMapping (w : World) (entries : Value.Entries) : World := ((Op.makeCell (.map entries)).run w).2

theorem giving_fieldsOf (hid : id < w.scene.instances.length) (fields : List (String × Value)) :
    (w.giving id fields).scene.fieldsOf id = Assoc.merge (w.scene.fieldsOf id) fields := by
  rw [giving, Scene.fieldsOf_setFields, if_pos ⟨rfl, hid⟩]

/-- What a field holds after others have been put in. -/
theorem giving_field? (hid : id < w.scene.instances.length) (fields : List (String × Value)) (name : String) :
    (w.giving id fields).scene.field? id name = (fields.reverse.lookup name).or (w.scene.field? id name) := by
  rw [Scene.field?, giving_fieldsOf hid, Assoc.lookup_merge, Scene.field?]

theorem giving_length (w : World) (id : Nat) (fields : List (String × Value)) :
    (w.giving id fields).scene.instances.length = w.scene.instances.length := List.length_set

/-- Only the instance changes. -/
theorem giving_updates (w : World) (id : Nat) (fields : List (String × Value)) : w.Updates id (w.giving id fields) where
  surroundings := rfl
  instances := Nat.le_of_eq (giving_length w id fields).symm
  others _ _ hne := List.getElem?_set_ne (Ne.symm hne)
  elements := rfl
  events := rfl

theorem giving_nil (hid : id < w.scene.instances.length) : w.giving id [] = w := by
  have hsame : w.scene.instances.set id { fields := w.scene.fieldsOf id } = w.scene.instances := by
    refine List.ext_getElem? fun i => ?_
    by_cases hi : id = i
    · subst hi
      simp [hid, Scene.fieldsOf]
    · exact List.getElem?_set_ne hi
  show { w with scene := { w.scene with instances := w.scene.instances.set id { fields := w.scene.fieldsOf id } } } = w
  rw [hsame]

/-- Fields that are put in one after the other. -/
theorem giving_append (hid : id < w.scene.instances.length) (fields more : List (String × Value)) :
    (w.giving id fields).giving id more = w.giving id (fields ++ more) := by
  have hfields : Assoc.merge (Assoc.merge (w.scene.fieldsOf id) fields) more =
      Assoc.merge (w.scene.fieldsOf id) (fields ++ more) := List.foldl_append.symm
  have hset : ∀ fs : List (String × Value), (w.giving id fields).scene.setFields id fs = w.scene.setFields id fs :=
    fun fs => by simp only [giving, Scene.setFields, List.set_set]
  rw [giving, giving_fieldsOf hid, hfields, hset]
  rfl

/-- Fields may be merged before they are put in. -/
theorem giving_merged (w : World) (id : Nat) (es : List Value.Entries) :
    w.giving id (mergedFields es) = w.giving id (es.flatMap givenFields) := by
  have hnone : (([] : List (String × Value)).map (·.1)).Nodup := List.nodup_nil
  rw [giving, mergedFields, Assoc.merge_assoc hnone]
  rfl

end World

/-! ## Options -/

/-- What sets options. -/
def optionSetters : List String := ["set_options", "update_options"]

/-- Options of which each that is not absent has a name under which records keep what is set,
other than those of what sets and requires options. -/
def OrdinaryOptions (entries : Value.Entries) : Prop :=
  ∀ e ∈ presentEntries entries, ∃ name, e.1.word? = some name ∧ IsFieldName name ∧ name ∉ Scene.optionNames

/-- A record of which options are set and required as of all records: its type takes over
neither how attributes are set or looked up nor what sets and requires options, and it has
nothing of its own under these names. -/
structure Scene.KeepsOptions (s : Scene) (id : Nat) (cls : ClassRef) : Prop where
  there : id < s.instances.length
  type : ∃ t, s.recordType? cls = some t ∧ ∀ name ∈ settingName :: everyName :: furtherName :: optionNames,
    t.members.lookup name = none
  own : ∀ name ∈ optionNames, s.field? id name = none

/-- What ordinary options give is ordinary. -/
theorem OrdinaryOptions.given {entries : Value.Entries} (h : OrdinaryOptions entries) :
    ∀ e ∈ givenFields entries, IsFieldName e.1 ∧ e.1 ∉ Scene.optionNames := by
  intro e he
  obtain ⟨⟨key, v⟩, hmem, hkey⟩ := List.mem_filterMap.mp he
  obtain ⟨name, hname, rfl⟩ := Option.map_eq_some_iff.mp hkey
  obtain ⟨name', hname', hordinary⟩ := h _ hmem
  obtain rfl := Option.some.inj (hname.symm.trans hname')
  exact hordinary

/-- What is not among fields is not found there. -/
theorem lookup_reverse_eq_none {fields : List (String × Value)} {name : String} (h : ∀ e ∈ fields, e.1 ≠ name) :
    fields.reverse.lookup name = none :=
  List.lookup_eq_none_iff.mpr fun e he => by simpa using (h e (List.mem_reverse.mp he)).symm

namespace Scene.KeepsOptions

variable {id : Nat} {cls : ClassRef} {w : World}

/-- The type of the record takes nothing over. -/
theorem typeMember? (h : w.scene.KeepsOptions id cls) {name : String}
    (hname : name ∈ settingName :: everyName :: furtherName :: optionNames) :
    w.scene.typeMember? (.object id (some cls)) name = none := by
  obtain ⟨t, ht, hmembers⟩ := h.type
  show w.scene.recordMember? cls name = none
  rw [recordMember?, ht]
  exact hmembers name hname

/-- That is still so when ordinary options have been set. -/
theorem giving (h : w.scene.KeepsOptions id cls) {fields : List (String × Value)}
    (hfields : ∀ e ∈ fields, e.1 ∉ optionNames) : (w.giving id fields).scene.KeepsOptions id cls where
  there := by
    rw [World.giving_length]
    exact h.there
  type := h.type
  own name hname := by
    rw [World.giving_field? h.there, h.own name hname, Option.or_none, lookup_reverse_eq_none]
    rintro e he rfl
    exact hfields e he hname

/-- It is so beside any mapping that is made. -/
theorem withMapping (h : w.scene.KeepsOptions id cls) (entries : Value.Entries) :
    (w.withMapping entries).scene.KeepsOptions id cls := ⟨h.there, h.type, h.own⟩

/-- An attribute of the record is found, or it is not there. -/
theorem resolved (h : w.scene.KeepsOptions id cls) (name : String) :
    (∃ v, w.scene.resolveInstance (.object id (some cls)) id (some cls) name = .found v) ∨
      w.scene.resolveInstance (.object id (some cls)) id (some cls) name = .refused .noSuchName := by
  have hfurther : w.scene.typeMember? (.object id (some cls)) furtherName = none := h.typeMember? (by simp)
  simp only [resolveInstance, hfurther]
  split
  · exact .inl ⟨_, rfl⟩
  · split
    · exact .inl ⟨_, rfl⟩
    · split
      · exact .inl ⟨_, rfl⟩
      · rename_i heq
        cases heq
      · exact .inr rfl

/-- What sets and requires options is found on the record. -/
theorem optionMember (h : w.scene.KeepsOptions id cls) {name : String} (hname : name ∈ optionNames) :
    w.scene.resolveInstance (.object id (some cls)) id (some cls) name =
      .found (.member (.object id (some cls)) (if name = "update_options" then "set_options" else name)) := by
  obtain ⟨t, ht, -⟩ := h.type
  have hmember : w.scene.typeMember? (.object id (some cls)) name = none := h.typeMember? (by simp [hname])
  have hfield := h.own name hname
  simp only [resolveInstance, hmember, hfield, Option.bind_some, ht]
  simp only [optionNames, List.mem_cons, List.not_mem_nil, or_false] at hname
  rcases hname with rfl | rfl | rfl <;>
    cases hplain : t.plain <;> simp [sharedMember?, optionMember?, thingPart?, hplain]

end Scene.KeepsOptions

/-! ## Setting options -/

namespace Prog

variable {caller : Caller} {rounds depth id : Nat} {type : Option ClassRef} {cls : ClassRef} {w : World}

/-- An attribute of a record is what it is resolved to, if its type does not answer for all. -/
theorem run_recordAttribute (hevery : w.scene.typeMember? (.object id type) everyName = none) (name : String) :
    (attributeOf name (.object id type)).run caller rounds w =
      (settle .done .done name (w.scene.resolveInstance (.object id type) id type name)).run caller rounds w := by
  show (instanceAttribute (.object id type) id type name).run _ _ w = _
  rw [instanceAttribute, bind_eq, run_view_bind, hevery]
  rfl

/-- To set an ordinary attribute of a record puts a field in. -/
theorem run_setAttribute (hsetting : w.scene.typeMember? (.object id type) settingName = none) {name : String}
    (hname : IsFieldName name) (v : Value) :
    (setAttribute (.object id type) name v).run caller rounds w = (.ok (), w.giving id [(name, v)]) := by
  rw [setAttribute, bind_eq, run_view_bind, hsetting]
  show (setOwnField id name v).run caller rounds w = _
  rw [setOwnField, if_neg hname.1, if_neg hname.2.1, if_neg hname.2.2]
  rfl

/-- To set options puts the fields in that they have values for. -/
theorem run_setEntries (hid : id < w.scene.instances.length)
    (hsetting : w.scene.typeMember? (.object id type) settingName = none) {entries : Value.Entries}
    (hordinary : OrdinaryOptions entries) :
    (setEntries (.object id type) entries).run caller rounds w = (.ok (), w.giving id (givenFields entries)) := by
  have hall : ∀ es : Value.Entries, (∀ e ∈ es, e.2.isNone = false ∧ ∃ name, e.1.word? = some name ∧ IsFieldName name) →
      ∀ w : World, id < w.scene.instances.length → w.scene.typeMember? (.object id type) settingName = none →
        (setEntries (.object id type) es).run caller rounds w = (.ok (), w.giving id (fieldsAmong es)) := by
    intro es hes
    induction es with
    | nil =>
      intro w hid _
      rw [show fieldsAmong [] = [] from rfl, World.giving_nil hid]
      rfl
    | cons e rest ih =>
      intro w hid hsetting
      obtain ⟨key, v⟩ := e
      obtain ⟨hpresent, name, hkey, hname⟩ := hes _ List.mem_cons_self
      have hfields : fieldsAmong ((key, v) :: rest) = [(name, v)] ++ fieldsAmong rest := by
        rw [fieldsAmong, List.filterMap_cons, hkey]
        rfl
      rw [setEntries, hpresent]
      show ((setEntry (.object id type) key v).bind fun _ => setEntries (.object id type) rest).run caller rounds w = _
      simp only [setEntry, hkey]
      rw [run_bind, run_setAttribute hsetting hname, andThen_ok, hfields, ← World.giving_append hid]
      exact ih (fun e he => hes e (List.mem_cons_of_mem _ he)) _ (by rwa [World.giving_length]) hsetting
  rw [setEntries_present]
  refine hall _ (fun e he => ⟨by simpa using (List.mem_filter.mp he).2, ?_⟩) w hid hsetting
  obtain ⟨name, hkey, hname, -⟩ := hordinary e he
  exact ⟨name, hkey, hname⟩

/-- To set the options of a mapping on a record puts the fields in that they have values for. -/
theorem run_setOptions (h : w.scene.KeepsOptions id cls) {options : Value} {entries : Value.Entries}
    (hentries : w.scene.entries? options = some entries) (hordinary : OrdinaryOptions entries) :
    (setOptions (.object id (some cls)) options).run caller rounds w = (.ok (), w.giving id (givenFields entries)) := by
  rw [setOptions, bind_eq, run_view_bind, hentries]
  exact run_setEntries h.there (h.typeMember? (by simp)) hordinary

/-- What comes of calling what sets options. -/
theorem run_setsOptions (h : w.scene.KeepsOptions id cls) {member : String} (hmember : member ∈ optionSetters)
    {options : Value} {entries : Value.Entries} (hentries : w.scene.entries? options = some entries)
    (hordinary : OrdinaryOptions entries) :
    (callMember (.object id (some cls)) member [options]).run (callAt rounds (depth + 1)) rounds w =
      (.ok .none, w.giving id (givenFields entries)) := by
  have hname : member ∈ Scene.optionNames := by
    revert hmember
    simp only [optionSetters, Scene.optionNames, List.mem_cons, List.not_mem_nil, or_false]
    exact .inr
  have hfound : (attributeOf member (.object id (some cls))).run (callAt rounds (depth + 1)) rounds w =
      (.ok (.member (.object id (some cls)) "set_options"), w) := by
    rw [run_recordAttribute (h.typeMember? (by simp)), h.optionMember hname]
    simp only [optionSetters, List.mem_cons, List.not_mem_nil, or_false] at hmember
    rcases hmember with rfl | rfl <;> rfl
  rw [run_callMember hfound fun _ _ => rfl]
  show ((setOptions (.object id (some cls)) options).bind fun _ => .done Value.none).run _ _ w = _
  rw [run_bind, run_setOptions h hentries hordinary]
  rfl

end Prog

/-- Options are set on a record one after the other.  Each mapping is read when it is its turn. -/
inductive Optioned (caller : Caller) (rounds id : Nat) (cls : ClassRef) : List Value.Entries → World → World → Prop
  | refl (w : World) : Optioned caller rounds id cls [] w w
  | call {es : List Value.Entries} {w w₁ w' : World} (member : String) (options : Value) (entries : Value.Entries) :
      Optioned caller rounds id cls es w w₁ → member ∈ optionSetters → w₁.scene.entries? options = some entries →
      OrdinaryOptions entries →
      (Prog.callMember (.object id (some cls)) member [options]).run caller rounds w₁ = (.ok .none, w') →
      Optioned caller rounds id cls (es ++ [entries]) w w'

/-- Two mappings are set on a record one after the other. -/
theorem Scene.KeepsOptions.optioned {rounds depth id : Nat} {cls : ClassRef} {w : World} {entries more : Value.Entries}
    {i j : Nat} (h : w.scene.KeepsOptions id cls) (hi : w.scene.entries? (.map i) = some entries)
    (hj : w.scene.entries? (.map j) = some more) (hentries : OrdinaryOptions entries) (hmore : OrdinaryOptions more) :
    Optioned (callAt rounds (depth + 1)) rounds id cls [entries, more] w
      ((w.giving id (givenFields entries)).giving id (givenFields more)) := by
  have hfirst : Optioned (callAt rounds (depth + 1)) rounds id cls ([] ++ [entries]) w
      (w.giving id (givenFields entries)) :=
    .call "set_options" (.map i) entries (.refl w) (by decide) hi hentries
      (Prog.run_setsOptions h (by decide) hi hentries)
  have hkeeps : (w.giving id (givenFields entries)).scene.KeepsOptions id cls :=
    h.giving fun e he => (hentries.given e he).2
  exact .call "set_options" (.map j) more hfirst (by decide) hj hmore (Prog.run_setsOptions hkeeps (by decide) hj hmore)

/-- What is given by options that are set one after the other is put in, and is ordinary. -/
theorem Optioned.giving {rounds depth id : Nat} {cls : ClassRef} {es : List Value.Entries} {w w' : World}
    (h : Optioned (callAt rounds (depth + 1)) rounds id cls es w w') (hkeeps : w.scene.KeepsOptions id cls) :
    w' = w.giving id (es.flatMap givenFields) ∧
      ∀ e ∈ es.flatMap givenFields, IsFieldName e.1 ∧ e.1 ∉ Scene.optionNames := by
  induction h with
  | refl => exact ⟨(World.giving_nil hkeeps.there).symm, fun _ h => nomatch h⟩
  | call member options entries _ hmember hentries hordinary hrun ih =>
    obtain ⟨rfl, hgiven⟩ := ih hkeeps
    rw [Prog.run_setsOptions (hkeeps.giving fun e he => (hgiven e he).2) hmember hentries hordinary] at hrun
    obtain rfl := (Prod.mk.inj hrun).2
    refine ⟨?_, fun e he => ?_⟩
    · rw [World.giving_append hkeeps.there, List.flatMap_append, List.flatMap_singleton]
    · rw [List.flatMap_append, List.flatMap_singleton] at he
      exact (List.mem_append.mp he).elim (hgiven e) (hordinary.given e)

/-! ## Requirements -/

/-- Whether a record has no value under a name: neither it nor its type has such an attribute,
or the attribute is absent. -/
def Scene.lacks (s : Scene) (id : Nat) (cls : ClassRef) (name : String) : Bool :=
  match s.resolveInstance (.object id (some cls)) id (some cls) name with
  | .found v => v.isNone
  | _ => true

namespace Prog

variable {caller : Caller} {rounds depth id : Nat} {cls : ClassRef} {w : World}

theorem run_lacks (h : w.scene.KeepsOptions id cls) (name : String) :
    (lacks (.object id (some cls)) name).run caller rounds w = (.ok (w.scene.lacks id cls name), w) := by
  have hevery : w.scene.typeMember? (.object id (some cls)) everyName = none := h.typeMember? (by simp)
  rw [lacks, bind_eq, run_bind, run_outcome, run_recordAttribute hevery, Scene.lacks]
  rcases h.resolved name with ⟨v, hfound⟩ | hrefused
  · rw [hfound]
    rfl
  · rw [hrefused]
    rfl

/-- The names that a record lacks, in the order in which they are asked for. -/
theorem run_missingFields (h : w.scene.KeepsOptions id cls) (names : List String) :
    (missingFields (.object id (some cls)) (names.map .text)).run caller rounds w =
      (.ok (names.filter (w.scene.lacks id cls)), w) := by
  induction names with
  | nil => rfl
  | cons name rest ih =>
    rw [List.map_cons, missingFields]
    simp only [bind_eq, run_bind, Value.word?, run_ofOption_some, andThen_ok, run_lacks h, ih, List.filter_cons]
    cases w.scene.lacks id cls name <;> rfl

/-- What comes of requiring values. -/
theorem run_requires (h : w.scene.KeepsOptions id cls) (names : List String) :
    (callMember (.object id (some cls)) "requires" (names.map .text)).run (callAt rounds (depth + 1)) rounds w =
      (if names.filter (w.scene.lacks id cls) = [] then .ok .none
        else .error { fault := .missingData cls.name (names.filter (w.scene.lacks id cls)) }, w) := by
  have hfound : (attributeOf "requires" (.object id (some cls))).run (callAt rounds (depth + 1)) rounds w =
      (.ok (.member (.object id (some cls)) "requires"), w) := by
    rw [run_recordAttribute (h.typeMember? (by simp)), h.optionMember (by decide)]
    rfl
  rw [run_callMember hfound fun _ _ => rfl]
  show ((requireFields (.object id (some cls)) (names.map .text)).bind fun _ => .done Value.none).run _ _ w = _
  rw [run_bind, requireFields, bind_eq, run_bind, run_missingFields h, andThen_ok]
  cases names.filter (w.scene.lacks id cls) <;> rfl

end Prog

/-! ## Records that are made -/

/-- A type of which records are made with a driver, defaults and options as of all types: it takes
nothing over that makes records, sets them up, or sets options. -/
structure Scene.MakesRecords (s : Scene) (cls : ClassRef) (defaults : Value.Entries) : Prop where
  type : ∃ t, s.recordType? cls = some t ∧ t.plain = false ∧
    ∀ name ∈ Prog.makingMember :: Prog.setUpMember :: settingName :: everyName :: furtherName :: optionNames,
      t.members.lookup name = none
  stated : s.entries? ((s.recordMember? cls "defaults").getD (.map 1)) = some defaults
  apart : (s.recordMember? cls "defaults").getD (.map 1) ≠ .mapping (.fields s.instances.length)
  ordinary : OrdinaryOptions defaults

namespace World

/-- The world with one more instance, which keeps nothing yet. -/
def withInstance (w : World) : World := ((Op.addInstance {}).run w).2

theorem withInstance_fieldsOf (w : World) : w.withInstance.scene.fieldsOf w.scene.instances.length = [] :=
  w.fieldsOf_addInstance {}

/-- The world with one more instance, which keeps a driver. -/
def withBrowser (w : World) (browser : Value) : World :=
  w.withInstance.giving w.scene.instances.length [(PageType.reservedField, browser)]

/-- A mapping that has been made. -/
theorem withMapping_entries? (w : World) (entries : Value.Entries) :
    (w.withMapping entries).scene.entries? (.map w.scene.cells.all.size) = some entries := by
  have hcell : (w.withMapping entries).scene.cells.cell? w.scene.cells.all.size = some (.map entries) :=
    (Cells.cell?_make _ _ _).trans (if_pos rfl)
  rw [Scene.entries?, Cells.mapAt, hcell]

/-- It leaves all others as they are. -/
theorem withMapping_entries?_of_lt (w : World) (entries : Value.Entries) {i : Nat} (hi : i < w.scene.cells.all.size) :
    (w.withMapping entries).scene.entries? (.map i) = w.scene.entries? (.map i) := by
  have hcell : (w.withMapping entries).scene.cells.cell? i = w.scene.cells.cell? i :=
    (Cells.cell?_make _ _ _).trans (if_neg (Nat.ne_of_lt hi))
  rw [Scene.entries?, Scene.entries?, Cells.mapAt, Cells.mapAt, hcell]

/-- The world with a record that keeps a driver and nothing else, and with mappings of its
defaults and of options. -/
def withRecord (w : World) (browser : Value) (defaults options : Value.Entries) : World :=
  ((w.withBrowser browser).withMapping defaults).withMapping options

end World

namespace Scene.MakesRecords

variable {w : World} {cls : ClassRef} {defaults : Value.Entries}

/-- A new record of such a type keeps options. -/
theorem keepsOptions_bare (h : w.scene.MakesRecords cls defaults) :
    w.withInstance.scene.KeepsOptions w.scene.instances.length cls := by
  obtain ⟨t, ht, -, hmembers⟩ := h.type
  refine ⟨?_, ⟨t, ht, fun name hname => ?_⟩, fun name _ => ?_⟩
  · show w.scene.instances.length < (w.scene.instances ++ [_]).length
    simp
  · exact hmembers name (List.mem_cons_of_mem _ (List.mem_cons_of_mem _ hname))
  · rw [field?, World.withInstance_fieldsOf]
    rfl

/-- It still does when it has been given a driver. -/
theorem keepsOptions (h : w.scene.MakesRecords cls defaults) (browser : Value) :
    (w.withBrowser browser).scene.KeepsOptions w.scene.instances.length cls := by
  refine h.keepsOptions_bare.giving fun e he => ?_
  obtain rfl := List.mem_singleton.mp he
  show PageType.reservedField ∉ optionNames
  decide

/-- The defaults are the same when a record has been added. -/
theorem entries?_defaults (h : w.scene.MakesRecords cls defaults) (browser : Value) :
    (w.withBrowser browser).scene.entries?
      ((w.scene.recordMember? cls "defaults").getD (.map 1)) = some defaults := by
  rw [← h.stated]
  have hapart := h.apart
  generalize (w.scene.recordMember? cls "defaults").getD (.map 1) = v at hapart
  cases v with
  | mapping place =>
    cases place with
    | fields i =>
      have hne : w.scene.instances.length ≠ i := by
        rintro rfl
        exact hapart rfl
      have hgiven : (w.withBrowser browser).scene.instances[i]? =
          w.withInstance.scene.instances[i]? := List.getElem?_set_ne hne
      have hadded : w.withInstance.scene.instances[i]? = w.scene.instances[i]? := by
        show (w.scene.instances ++ [_])[i]? = _
        rcases Nat.lt_or_gt_of_ne hne.symm with hlt | hgt
        · exact List.getElem?_append_left hlt
        · rw [List.getElem?_eq_none (by simpa using Nat.succ_le_of_lt hgt), List.getElem?_eq_none (Nat.le_of_lt hgt)]
      show some (Value.named (fieldsOf _ i)) = some (Value.named (fieldsOf _ i))
      rw [fieldsOf, fieldsOf, hgiven, hadded]
    | _ => rfl
  | _ => rfl

/-- What a new record keeps, and the mapping of its defaults. -/
theorem withRecord (h : w.scene.MakesRecords cls defaults) (browser : Value) (options : Value.Entries) :
    (w.withRecord browser defaults options).scene.KeepsOptions w.scene.instances.length cls ∧
      (w.withRecord browser defaults options).scene.fieldsOf w.scene.instances.length =
        [(PageType.reservedField, browser)] ∧
      (w.withRecord browser defaults options).scene.entries? (.map (w.withBrowser browser).scene.cells.all.size) =
        some defaults := by
  refine ⟨((h.keepsOptions browser).withMapping defaults).withMapping options, ?_, ?_⟩
  · show (w.withBrowser browser).scene.fieldsOf w.scene.instances.length = _
    rw [World.withBrowser, World.giving_fieldsOf h.keepsOptions_bare.there, World.withInstance_fieldsOf]
    rfl
  · rw [World.withRecord, World.withMapping_entries?_of_lt, World.withMapping_entries?]
    show _ < ((w.withBrowser browser).scene.cells.all.push _).size
    rw [Array.size_push]
    exact Nat.lt_succ_self _

end Scene.MakesRecords

namespace Prog

variable {caller : Caller} {rounds id : Nat} {cls : ClassRef} {w : World} {defaults : Value.Entries}

/-- A record applies options as all records do. -/
theorem run_applyOptions (h : w.scene.KeepsOptions id cls) {options : Value} {entries : Value.Entries}
    (hentries : w.scene.entries? options = some entries) (hordinary : OrdinaryOptions entries) :
    (applyOptions (.object id (some cls)) options).run caller rounds w = (.ok (), w.giving id (givenFields entries)) := by
  have hown : w.scene.field? id "set_options" = none := h.own "set_options" (by decide)
  rw [applyOptions, bind_eq, run_view_bind, h.typeMember? (by decide), h.typeMember? (by decide)]
  simp only [instanceOf?, Option.bind_some, hown, Option.isSome_none, Bool.or_false, Bool.false_eq_true, if_false]
  exact run_setOptions h hentries hordinary

theorem run_newMap (entries : Value.Entries) (w : World) :
    (newMap entries).run caller rounds w = (.ok (.map w.scene.cells.all.size), w.withMapping entries) := rfl

/-- The entries of a mapping are read off it. -/
theorem run_entriesOf {v : Value} {entries : Value.Entries} (h : w.scene.entries? v = some entries) :
    (entriesOf v).run caller rounds w = (.ok entries, w) := by
  rw [entriesOf, bind_eq, run_view_bind, h]
  rfl

/-- The defaults of a record are those of its type. -/
theorem run_defaults (h : w.scene.KeepsOptions id cls) {t : RecordType} (ht : w.scene.recordType? cls = some t)
    (hplain : t.plain = false) (hfield : w.scene.field? id "defaults" = none)
    (hstated : w.scene.entries? ((w.scene.recordMember? cls "defaults").getD (.map 1)) = some defaults) :
    (attributeOf "defaults" (.object id (some cls))).run caller rounds w =
      (.ok ((w.scene.recordMember? cls "defaults").getD (.map 1)), w) := by
  have hmember : w.scene.typeMember? (.object id (some cls)) "defaults" = w.scene.recordMember? cls "defaults" := rfl
  have hbound : ∀ v : Value, w.scene.entries? v = some defaults → v.boundTo (.object id (some cls)) = v := by
    intro v hv
    cases v <;> first | rfl | cases hv
  have hresolved : w.scene.resolveInstance (.object id (some cls)) id (some cls) "defaults" =
      .found ((w.scene.recordMember? cls "defaults").getD (.map 1)) := by
    simp only [Scene.resolveInstance, hmember, hfield, Option.bind_some, ht, Option.map_some, hplain]
    cases hown : w.scene.recordMember? cls "defaults" with
    | none => simp [Scene.thingPart?, Scene.sharedMember?]
    | some v =>
      rw [hown] at hstated
      simp [hbound v hstated]
  rw [run_recordAttribute (h.typeMember? (by decide)), hresolved]
  rfl

/-- A record is made with a driver by setting the defaults of its type and then options. -/
theorem run_newRecord (h : w.scene.MakesRecords cls defaults) (browser : Value) {options : Named}
    (hoptions : OrdinaryOptions (Value.named options)) (hbrowser : options.lookup PageType.reservedField = none)
    (hself : options.lookup "self" = none) :
    (newRecord cls [browser] options).run caller rounds w =
      (.ok (.object w.scene.instances.length (some cls)),
        ((w.withRecord browser defaults (Value.named options)).giving w.scene.instances.length
          (givenFields defaults)).giving w.scene.instances.length (givenFields (Value.named options))) := by
  obtain ⟨t, ht, hplain, hmembers⟩ := h.type
  have hmaking : w.scene.recordMember? cls makingMember = none := by
    rw [Scene.recordMember?, ht]
    exact hmembers makingMember (by decide)
  have hsetup : t.members.lookup setUpMember = none := hmembers setUpMember (by decide)
  have hargs : setUpRecordWith (.object w.scene.instances.length (some cls)) [browser] options =
      setUpRecord (.object w.scene.instances.length (some cls)) browser options := by
    simp only [setUpRecordWith, hbrowser, hself]
  have hmade : (newRecord cls [browser] options).run caller rounds w =
      andThen ((setUpRecord (.object w.scene.instances.length (some cls)) browser options).run caller rounds
        w.withInstance) fun _ w' => (.ok (.object w.scene.instances.length (some cls)), w') := by
    rw [newRecord, bind_eq, run_view_bind, hmaking]
    show (buildRecord cls [browser] options).run caller rounds w = _
    rw [buildRecord, bind_eq, run_view_bind, ht]
    simp only [bind_eq, run_ofOption_some_bind, hsetup, hplain, Bool.and_false, Bool.false_and, Bool.false_eq_true,
      if_false]
    show ((setUpRecordWith (.object w.scene.instances.length (some cls)) [browser] options).bind fun _ =>
      .done (Value.object w.scene.instances.length (some cls))).run caller rounds w.withInstance = _
    rw [run_bind, hargs]
    rcases (setUpRecord (.object w.scene.instances.length (some cls)) browser options).run caller rounds w.withInstance
      with ⟨_ | _, _⟩ <;> rfl
  have hkeeps := h.keepsOptions browser
  have hset : (setAttribute (.object w.scene.instances.length (some cls)) PageType.reservedField browser).run caller
      rounds w.withInstance =
      (.ok (), w.withBrowser browser) :=
    run_setAttribute (h.keepsOptions_bare.typeMember? (by decide)) ⟨by decide, by decide, by decide⟩ browser
  have hstated : (w.withBrowser browser).scene.entries?
      (((w.withBrowser browser).scene.recordMember? cls "defaults").getD (.map 1)) = some defaults :=
    h.entries?_defaults browser
  have hfield : (w.withBrowser browser).scene.field?
      w.scene.instances.length "defaults" = none := by
    rw [World.withBrowser, World.giving_field? h.keepsOptions_bare.there, Scene.field?, World.withInstance_fieldsOf]
    rfl
  have hdefaults : (((w.withBrowser browser).withMapping defaults).giving w.scene.instances.length
      (givenFields defaults)).scene.KeepsOptions w.scene.instances.length cls :=
    (hkeeps.withMapping defaults).giving fun e he => (h.ordinary.given e he).2
  rw [hmade, setUpRecord]
  simp only [bind_eq]
  rw [run_bind, hset, andThen_ok, run_bind, run_defaults hkeeps ht hplain hfield hstated, andThen_ok, run_bind,
    run_entriesOf hstated, andThen_ok, run_bind, run_newMap, andThen_ok, run_bind,
    run_applyOptions (hkeeps.withMapping defaults) (World.withMapping_entries? _ defaults) h.ordinary, andThen_ok,
    run_bind, run_newMap, andThen_ok,
    run_applyOptions (hdefaults.withMapping _) (World.withMapping_entries? _ _) hoptions]
  rfl

end Prog

/-! ## What options come to -/

section Given

variable {rounds depth id : Nat} {cls : ClassRef} {es : List Value.Entries} {w w' : World} {name : String}

/-- What is given last is given. -/
theorem mem_of_lastGiven {v : Value} (h : lastGiven name es = some v) : (name, v) ∈ es.flatMap givenFields := by
  obtain ⟨before, after, heq, -⟩ := List.lookup_eq_some_iff.mp h
  rw [← List.mem_reverse, heq]
  simp

/-- What is given last under a name is the attribute of that name. -/
theorem Optioned.resolve_given (h : Optioned (callAt rounds (depth + 1)) rounds id cls es w w')
    (hkeeps : w.scene.KeepsOptions id cls) {v : Value} (hgiven : lastGiven name es = some v) :
    w'.scene.resolveInstance (.object id (some cls)) id (some cls) name = .found v := by
  obtain ⟨rfl, hordinary⟩ := h.giving hkeeps
  refine Scene.resolveInstance_field (hordinary _ (mem_of_lastGiven hgiven)).1 ?_
  rw [World.giving_field? hkeeps.there, show (es.flatMap givenFields).reverse.lookup name = some v from hgiven]
  rfl

/-- Under a name for which nothing is given the attribute is what it was. -/
theorem Optioned.resolve_kept (h : Optioned (callAt rounds (depth + 1)) rounds id cls es w w')
    (hkeeps : w.scene.KeepsOptions id cls) (hgiven : lastGiven name es = none) :
    w'.scene.resolveInstance (.object id (some cls)) id (some cls) name =
      w.scene.resolveInstance (.object id (some cls)) id (some cls) name := by
  obtain ⟨rfl, -⟩ := h.giving hkeeps
  refine (w.giving_updates id _).toNear.resolveInstance ?_ (some cls)
  rw [World.giving_field? hkeeps.there, show (es.flatMap givenFields).reverse.lookup name = none from hgiven]
  rfl

/-- The attributes of the record after that. -/
theorem Optioned.attribute (h : Optioned (callAt rounds (depth + 1)) rounds id cls es w w')
    (hkeeps : w.scene.KeepsOptions id cls) (hkeeps' : w'.scene.KeepsOptions id cls) (name : String) :
    (Prog.attributeOf name (.object id (some cls))).run caller rounds w' =
      (match lastGiven name es with
        | some v => .ok v
        | none => ((Prog.attributeOf name (.object id (some cls))).run caller rounds w).1, w') := by
  rw [Prog.run_recordAttribute (hkeeps'.typeMember? (by decide))]
  cases hgiven : lastGiven name es with
  | some v =>
    rw [h.resolve_given hkeeps hgiven]
    rfl
  | none =>
    rw [Prog.run_recordAttribute (hkeeps.typeMember? (by decide)), h.resolve_kept hkeeps hgiven]
    rcases hkeeps.resolved name with ⟨v, hfound⟩ | hrefused
    · rw [hfound]
      rfl
    · rw [hrefused]
      rfl

/-- A record does not come to lack a name. -/
theorem Optioned.lacks (h : Optioned (callAt rounds (depth + 1)) rounds id cls es w w')
    (hkeeps : w.scene.KeepsOptions id cls) (hlacks : w.scene.lacks id cls name = false) :
    w'.scene.lacks id cls name = false := by
  cases hgiven : lastGiven name es with
  | some v =>
    obtain ⟨entries, -, hmem⟩ := List.mem_flatMap.mp (mem_of_lastGiven hgiven)
    rw [Scene.lacks, h.resolve_given hkeeps hgiven]
    exact isNone_of_mem_givenFields hmem
  | none => rwa [Scene.lacks, h.resolve_kept hkeeps hgiven]

end Given

/-- Options that are ordinary stay so when they are merged. -/
theorem ordinary_merged {es : List Value.Entries}
    (h : ∀ e ∈ es.flatMap givenFields, IsFieldName e.1 ∧ e.1 ∉ Scene.optionNames) :
    OrdinaryOptions (Value.named (mergedFields es)) := by
  intro e he
  obtain ⟨⟨name, v⟩, hmem, rfl⟩ := List.mem_map.mp (List.mem_filter.mp he).1
  have hname : name ∈ (es.flatMap givenFields).map (·.1) := by
    have hmerged : name ∈ (mergedFields es).map (·.1) := List.mem_map_of_mem hmem
    rw [mergedFields, Assoc.mem_keys_merge] at hmerged
    exact hmerged.resolve_left List.not_mem_nil
  obtain ⟨given, hgiven, rfl⟩ := List.mem_map.mp hname
  exact ⟨given.1, rfl, h given hgiven⟩

/-- **Options compose.**  Options that are set on a record one after the other, by either of the
two members that do so, are all set.  Each attribute is then what was given for it last and not
absent, or what it was before if there is no such thing; nothing else changes.  So it comes to
the same to set the options once that have been merged in that way.  To require values then
names those that neither the record nor its type has, or that are absent, in the order in which
they are asked for; and what could be required before can be required afterwards.  To make a
record with a driver and options is to set the defaults of its type, and then the options, on a
record that keeps the driver and nothing else. -/
theorem options_compose (rounds depth : Nat) (cls : ClassRef) (w : World) :
    (∀ id, w.scene.KeepsOptions id cls →
      (∀ member ∈ optionSetters, ∀ options entries, w.scene.entries? options = some entries → OrdinaryOptions entries →
        ∃ w', (Prog.callMember (.object id (some cls)) member [options]).run (callAt rounds (depth + 1)) rounds w =
          (.ok .none, w')) ∧
      ∀ es w', Optioned (callAt rounds (depth + 1)) rounds id cls es w w' →
        w'.scene.KeepsOptions id cls ∧ w.Updates id w' ∧
        (∀ name, (Prog.attributeOf name (.object id (some cls))).run (callAt rounds (depth + 1)) rounds w' =
          (match lastGiven name es with
            | some v => .ok v
            | none => ((Prog.attributeOf name (.object id (some cls))).run (callAt rounds (depth + 1)) rounds w).1, w')) ∧
        (∀ options, w.scene.entries? options = some (Value.named (mergedFields es)) →
          (Prog.callMember (.object id (some cls)) "set_options" [options]).run (callAt rounds (depth + 1)) rounds w =
            (.ok .none, w')) ∧
        (∀ names : List String,
          (Prog.callMember (.object id (some cls)) "requires" (names.map .text)).run (callAt rounds (depth + 1)) rounds w' =
            (if names.filter (w'.scene.lacks id cls) = [] then .ok .none
              else .error { fault := .missingData cls.name (names.filter (w'.scene.lacks id cls)) }, w')) ∧
        ∀ names : List String,
          (Prog.callMember (.object id (some cls)) "requires" (names.map .text)).run (callAt rounds (depth + 1)) rounds w =
            (.ok .none, w) →
          (Prog.callMember (.object id (some cls)) "requires" (names.map .text)).run (callAt rounds (depth + 1)) rounds w' =
            (.ok .none, w')) ∧
    ∀ defaults, w.scene.MakesRecords cls defaults → ∀ browser options, OrdinaryOptions (Value.named options) →
      options.lookup PageType.reservedField = none → options.lookup "self" = none →
      ∃ w', callAt rounds (depth + 1) (.recordType cls) [browser] options w =
          (.ok (.object w.scene.instances.length (some cls)), w') ∧
        (w.withRecord browser defaults (Value.named options)).scene.KeepsOptions w.scene.instances.length cls ∧
        (w.withRecord browser defaults (Value.named options)).scene.fieldsOf w.scene.instances.length =
          [(PageType.reservedField, browser)] ∧
        Optioned (callAt rounds (depth + 1)) rounds w.scene.instances.length cls [defaults, Value.named options]
          (w.withRecord browser defaults (Value.named options)) w' := by
  refine ⟨fun id h => ⟨fun member hmember options entries hentries hordinary =>
    ⟨_, Prog.run_setsOptions h hmember hentries hordinary⟩, fun es w' hes => ?_⟩,
    fun defaults h browser options hoptions hbrowser hself => ?_⟩
  · obtain ⟨hw', hordinary⟩ := hes.giving h
    have hkeeps : w'.scene.KeepsOptions id cls := hw' ▸ h.giving fun e he => (hordinary e he).2
    refine ⟨hkeeps, hw' ▸ w.giving_updates id _, hes.attribute h hkeeps, fun options hentries => ?_,
      Prog.run_requires hkeeps, fun names hnames => ?_⟩
    · rw [Prog.run_setsOptions h (by decide) hentries (ordinary_merged hordinary), givenFields_named_merged,
        World.giving_merged, ← hw']
    · rw [Prog.run_requires h] at hnames
      rw [Prog.run_requires hkeeps, if_pos]
      refine List.filter_eq_nil_iff.mpr fun name hname => ?_
      have hlacks : names.filter (w.scene.lacks id cls) = [] := by
        by_contra hsome
        rw [if_neg hsome] at hnames
        cases hnames
      have hname' := List.filter_eq_nil_iff.mp hlacks name hname
      rw [hes.lacks h (by simpa using hname')]
      exact Bool.false_ne_true
  · obtain ⟨hrecord, hfields, hdefaults⟩ := h.withRecord browser (Value.named options)
    refine ⟨_, Prog.run_newRecord h browser hoptions hbrowser hself, hrecord, hfields, ?_⟩
    exact hrecord.optioned hdefaults (World.withMapping_entries? _ _) h.ordinary hoptions

section Guests

/-- A type of records with defaults. -/
def guestType : ClassRef := ⟨0, "Guest"⟩

/-- Its defaults, of which one is absent. -/
def guestDefaults : Value.Entries := [(.text "role", .text "guest"), (.text "name", .none)]

/-- What a record is made with. -/
def adaOptions : Named := [("name", .text "Ada"), ("active", .bool false)]

/-- What is set on it later. -/
def adminOptions : Value.Entries := [(.text "name", .none), (.text "role", .text "admin"), (.text "email", .text "")]

/-- A world with the type, whose members are given, and the options. -/
def guestWorld (members : List (String × Value)) : World :=
  ({ drivers := [("browser", {})] } : Setting).world.after
    [.op (.makeCell (.map guestDefaults)), .op (.makeCell (.map adminOptions)),
     .op (.addFunction (.request (.const .none))), .op (.addFunction (.request (.const (.text "")))),
     .op (.addRecordType { name := "Guest", plain := false, members := ("defaults", .map 3) :: members })]

/-- The world in which a record has been made. -/
def adaWorld : World := (callAt 1 1 (.recordType guestType) [.driver "browser"] adaOptions (guestWorld [])).2

/-- The world after more options have been set. -/
def adminWorld : World :=
  ((Prog.callMember (.object 0 (some guestType)) "update_options" [.map 4]).run (callAt 1 1) 1 adaWorld).2

theorem guestWorld_makesRecords : (guestWorld []).scene.MakesRecords guestType guestDefaults where
  type := ⟨_, rfl, rfl, by decide⟩
  stated := rfl
  apart := nofun
  ordinary e he := by
    obtain rfl := List.mem_singleton.mp he
    exact ⟨"role", rfl, ⟨by decide, by decide, by decide⟩, by decide⟩

/-- A record that has been made with options lacks an address until more options are set; these
leave its name alone, for which they have no value. -/
theorem guestWorld_composes :
    adaWorld.scene.KeepsOptions 0 guestType ∧
    ((Prog.callMember (.object 0 (some guestType)) "requires" [.text "name", .text "email", .text "active"]).run
      (callAt 1 1) 1 adaWorld).1 = .error { fault := .missingData "Guest" ["email"] } ∧
    ((Prog.callMember (.object 0 (some guestType)) "requires" [.text "name", .text "email", .text "active"]).run
      (callAt 1 1) 1 adminWorld).1 = .ok .none ∧
    ((Prog.attributeOf "name" (.object 0 (some guestType))).run (callAt 1 1) 1 adminWorld).1 = .ok (.text "Ada") ∧
    ((Prog.attributeOf "role" (.object 0 (some guestType))).run (callAt 1 1) 1 adminWorld).1 = .ok (.text "admin") := by
  have hada : OrdinaryOptions (Value.named adaOptions) := by
    intro e he
    rcases List.mem_cons.mp he with rfl | he
    · exact ⟨"name", rfl, ⟨by decide, by decide, by decide⟩, by decide⟩
    · obtain rfl := List.mem_singleton.mp he
      exact ⟨"active", rfl, ⟨by decide, by decide, by decide⟩, by decide⟩
  have hadmin : OrdinaryOptions adminOptions := by
    intro e he
    rcases List.mem_cons.mp he with rfl | he
    · exact ⟨"role", rfl, ⟨by decide, by decide, by decide⟩, by decide⟩
    · obtain rfl := List.mem_singleton.mp he
      exact ⟨"email", rfl, ⟨by decide, by decide, by decide⟩, by decide⟩
  obtain ⟨w, hmade, hbare, -, hset⟩ := (options_compose 1 0 guestType (guestWorld [])).2 guestDefaults
    guestWorld_makesRecords (.driver "browser") adaOptions hada rfl rfl
  obtain rfl : w = adaWorld := (congrArg (·.2) hmade).symm
  obtain ⟨hkeeps, -, -, -, hrequires, -⟩ := ((options_compose 1 0 guestType _).1 0 hbare).2 _ _ hset
  obtain ⟨hreturns, hall⟩ := (options_compose 1 0 guestType adaWorld).1 0 hkeeps
  obtain ⟨w', hcall⟩ := hreturns "update_options" (by decide) (.map 4) adminOptions rfl hadmin
  obtain rfl : w' = adminWorld := (congrArg (·.2) hcall).symm
  obtain ⟨-, -, hattribute, -, hrequires', -⟩ := hall [adminOptions] adminWorld
    (.call "update_options" (.map 4) adminOptions (.refl adaWorld) (by decide) rfl hadmin hcall)
  refine ⟨hkeeps, ?_, ?_, ?_, ?_⟩
  · exact (congrArg (·.1) (hrequires ["name", "email", "active"])).trans rfl
  · exact (congrArg (·.1) (hrequires' ["name", "email", "active"])).trans rfl
  · exact (congrArg (·.1) (hattribute "name")).trans rfl
  · exact (congrArg (·.1) (hattribute "role")).trans rfl

/-- The world in which a record has been made without options; its type has a member. -/
def plainGuestWorld (member : String × Value) : World :=
  (callAt 1 10 (.recordType guestType) [.driver "browser"] [] (guestWorld [member])).2

/-- If the type of a record does nothing when an attribute is to be set, the record comes to have
none of what options have values for; and if it answers for all names that it does not have, no
value is missing that is required. -/
theorem plainGuestWorld_differs :
    lastGiven "role" [adminOptions] = some (.text "admin") ∧
    ((Prog.callMember (.object 0 (some guestType)) "set_options" [.map 4]).run (callAt 1 10) 1
      (plainGuestWorld (settingName, .method settingName 0))).1 = .ok .none ∧
    raised? ((Prog.attributeOf "role" (.object 0 (some guestType))).run (callAt 1 10) 1
      ((Prog.callMember (.object 0 (some guestType)) "set_options" [.map 4]).run (callAt 1 10) 1
        (plainGuestWorld (settingName, .method settingName 0))).2).1 = some { fault := .noSuchName } ∧
    (plainGuestWorld (furtherName, .method furtherName 1)).scene.field? 0 "email" = none ∧
    (plainGuestWorld (furtherName, .method furtherName 1)).scene.recordMember? guestType "email" = none ∧
    ((Prog.callMember (.object 0 (some guestType)) "requires" [.text "email"]).run (callAt 1 10) 1
      (plainGuestWorld (furtherName, .method furtherName 1))).1 = .ok .none := by
  refine ⟨?_, ?_, ?_, ?_, ?_, ?_⟩ <;> rfl

end Guests

end PageObjects
