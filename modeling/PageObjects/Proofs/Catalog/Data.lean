import PageObjects.Proofs.PageType.Making

/-!
# Data out of files

What a file is read as consists of data only: nothing, truth values, numbers, texts,
and collections of such.  How data is shown, whether it counts as true, and what it
consists of depend on the collections alone, not on what else a run has made.  So the
entry of a catalog is read as the same statements before and after a type is opened.

Main definitions:

- `Value.isAtom`: data that consists of nothing else.
- `Cells.Data`: data with all that it consists of, with a test `Cells.isData`.
- `Cells.Agree`: two stores hold the same.

Main results:

- Theorem `Scene.text_data` and `Scene.inspect_data`: how data is shown.
- Theorem `Catalog.Entry.steps_data`: the statements of an entry.
-/

namespace PageObjects

/-- Whether a value is data that consists of nothing else. -/
def Value.isAtom : Value → Bool
  | .none | .bool _ | .int _ | .float _ | .nan _ | .text _ | .bytes _ | .date _ | .moment _ => true
  | _ => false

/-- Data, with all that it consists of.  The keys of mappings consist of nothing else. -/
inductive Cells.Data (c : Cells) : Value → Prop where
  | atom {v : Value} : v.isAtom = true → Data c v
  | list {i : Nat} : (∀ v ∈ c.listAt i, Data c v) → Data c (.list i)
  | set {i : Nat} : (∀ v ∈ c.setAt i, Data c v) → Data c (.set i)
  | tuple {items : List Value} : (∀ v ∈ items, Data c v) → Data c (.tuple items)
  | map {i : Nat} : (∀ e ∈ c.mapAt i, e.1.isAtom = true) → (∀ e ∈ c.mapAt i, Data c e.2) → Data c (.map i)

/-- Whether a value is data, as far as it is looked at up to a depth. -/
def Cells.isData (c : Cells) : (depth : Nat) → Value → Bool
  | 0, v => v.isAtom
  | depth + 1, .list i => (c.listAt i).all (c.isData depth)
  | depth + 1, .set i => (c.setAt i).all (c.isData depth)
  | depth + 1, .tuple items => items.all (c.isData depth)
  | depth + 1, .map i => (c.mapAt i).all fun e => e.1.isAtom && c.isData depth e.2
  | _ + 1, v => v.isAtom

/-- What is found to be data is data. -/
theorem Cells.data_of_isData {c : Cells} (depth : Nat) {v : Value} (h : c.isData depth v = true) : c.Data v := by
  induction depth generalizing v with
  | zero => exact .atom h
  | succ depth ih =>
    have hall : ∀ l : List Value, l.all (c.isData depth) = true → ∀ x ∈ l, c.Data x :=
      fun l hl x hx => ih (List.all_eq_true.mp hl x hx)
    cases v with
    | list i => exact .list (hall _ h)
    | set i => exact .set (hall _ h)
    | tuple items => exact .tuple (hall _ h)
    | map i =>
      have hentries : ∀ e ∈ c.mapAt i, e.1.isAtom = true ∧ c.isData depth e.2 = true := fun e he => by
        have hboth := List.all_eq_true.mp h e he
        rwa [Bool.and_eq_true] at hboth
      exact .map (fun e he => (hentries e he).1) fun e he => ih (hentries e he).2
    | _ => exact .atom h

/-- Two stores hold the same in all collections. -/
structure Cells.Agree (c c' : Cells) : Prop where
  list : c'.listAt = c.listAt
  set : c'.setAt = c.setAt
  map : c'.mapAt = c.mapAt

namespace Cells.Agree

variable {c c' c'' : Cells}

theorem refl (c : Cells) : c.Agree c := ⟨rfl, rfl, rfl⟩

theorem of_eq (h : c' = c) : c.Agree c' := h ▸ refl c

theorem trans (h : c.Agree c') (h' : c'.Agree c'') : c.Agree c'' :=
  ⟨h'.list.trans h.list, h'.set.trans h.set, h'.map.trans h.map⟩

/-- A new mapping that is empty changes nothing that is held. -/
theorem make (c : Cells) : c.Agree (c.make (.map [])).2 := by
  have hnone : c.cell? c.all.size = none := by simp [cell?]
  refine ⟨funext fun i => ?_, funext fun i => ?_, funext fun i => ?_⟩
  all_goals
    by_cases hi : i = c.all.size
    · subst hi
      simp [listAt, setAt, mapAt, cell?_make, hnone]
    · simp [listAt, setAt, mapAt, cell?_make, hi]

/-- What is data stays data. -/
theorem data (h : c.Agree c') {v : Value} (hv : c.Data v) : c'.Data v := by
  induction hv with
  | atom hatom => exact .atom hatom
  | list _ ih => exact .list (by rwa [h.list])
  | set _ ih => exact .set (by rwa [h.set])
  | tuple _ ih => exact .tuple ih
  | map hkeys _ ih => exact .map (by rwa [h.map]) (by rwa [h.map])

end Cells.Agree

/-- The entries of a mapping that is data. -/
def Cells.DataEntries (c : Cells) (entries : Value.Entries) : Prop :=
  ∀ e ∈ entries, e.1.isAtom = true ∧ c.Data e.2

/-! ## How data is shown -/

/-- What is done for each item does not matter beyond the items. -/
theorem Except.mapM_congr {ε α β : Type} {f g : α → Except ε β} {l : List α} (h : ∀ a ∈ l, f a = g a) :
    l.mapM f = l.mapM g := by
  induction l with
  | nil => rfl
  | cons a l ih =>
    rw [List.mapM_cons, List.mapM_cons, h a List.mem_cons_self, ih fun b hb => h b (List.mem_cons_of_mem _ hb)]

namespace Scene

variable {s s' : Scene} {v : Value}

/-- How deep down data is shown depends on the collections alone. -/
theorem inspectAt_data (hcells : s.cells.Agree s'.cells) (depth : Nat) (path : List Key) (h : s.cells.Data v) :
    s'.showing.inspectAt depth path v = s.showing.inspectAt depth path v := by
  induction depth generalizing path v with
  | zero => rfl
  | succ depth ih =>
    have hlisted : ∀ (opening closing : String) (path : List Key) (items : List Value), (∀ v ∈ items, s.cells.Data v) →
        Showing.listed opening closing (s'.showing.inspectAt depth path) items =
          Showing.listed opening closing (s.showing.inspectAt depth path) items := by
      intro opening closing path items hitems
      rw [Showing.listed, Showing.listed, Except.mapM_congr fun v hv => ih path (hitems v hv)]
    have hlist : ∀ i, (s'.showing.look fun s => s.cells.listAt i) = s.showing.look fun s => s.cells.listAt i :=
      fun i => by simp only [showing, hcells.list]
    have hset : ∀ i, (s'.showing.look fun s => s.cells.setAt i) = s.showing.look fun s => s.cells.setAt i :=
      fun i => by simp only [showing, hcells.set]
    have hmap : ∀ i, (s'.showing.look fun s => s.cells.mapAt i) = s.showing.look fun s => s.cells.mapAt i :=
      fun i => by simp only [showing, hcells.map]
    unfold Showing.inspectAt
    cases h with
    | atom hatom => cases v <;> first | (cases hatom; done) | rfl
    | @list i hitems =>
      simp only
      split
      · rfl
      · rw [hlist]
        exact hlisted _ _ _ _ hitems
    | @set i hitems =>
      simp only
      split
      · rfl
      · rw [hset]
        have hlooked : (s.showing.look fun s => s.cells.setAt i) = .ok (s.cells.setAt i) := rfl
        rw [hlooked]
        cases hmembers : s.cells.setAt i with
        | nil => rfl
        | cons v rest => exact hlisted _ _ _ _ (by rwa [hmembers] at hitems)
    | @tuple items hitems =>
      simp only
      split
      · rfl
      · rcases items with _ | ⟨v, _ | ⟨v', rest⟩⟩
        · exact hlisted _ _ _ _ hitems
        · simp only
          rw [ih _ (hitems v List.mem_cons_self)]
        · exact hlisted _ _ _ _ hitems
    | @map i hkeys hentries =>
      simp only
      split
      · rfl
      · rw [hmap]
        have hentry : ∀ path, ∀ e ∈ s.cells.mapAt i,
            Showing.entry (s'.showing.inspectAt depth path) e = Showing.entry (s.showing.inspectAt depth path) e := by
          intro path e he
          rw [Showing.entry, Showing.entry, ih path (.atom (hkeys e he)), ih path (hentries e he)]
        have hmapping : ∀ path, Showing.mapping (s'.showing.inspectAt depth path) (s.cells.mapAt i) =
            Showing.mapping (s.showing.inspectAt depth path) (s.cells.mapAt i) := by
          intro path
          rw [Showing.mapping, Showing.mapping, Except.mapM_congr (hentry path)]
        exact hmapping _

/-- How data is shown depends on the collections alone. -/
theorem inspect_data (hcells : s.cells.Agree s'.cells) (h : s.cells.Data v) : s'.inspect v = s.inspect v :=
  inspectAt_data hcells _ _ h

/-- How data is put into messages depends on the collections alone. -/
theorem text_data (hcells : s.cells.Agree s'.cells) (h : s.cells.Data v) : s'.text v = s.text v := by
  have hinspect : s'.inspect v = s.inspect v := inspect_data hcells h
  unfold text Showing.text
  cases h with
  | atom hatom =>
    split
    · rfl
    · cases v <;> first | (cases hatom; done) | rfl
  | list hitems => exact hinspect
  | set hitems => exact hinspect
  | tuple hitems => exact hinspect
  | map hkeys hentries => exact hinspect

/-- Whether data counts as true depends on the collections alone. -/
theorem truthy_data (hcells : s.cells.Agree s'.cells) (h : s.cells.Data v) : s'.truthy v = s.truthy v := by
  cases h with
  | atom hatom => cases v <;> first | (cases hatom; done) | rfl
  | list hitems => simp only [truthy, Cells.truthy, hcells.list]
  | set hitems => simp only [truthy, Cells.truthy, hcells.set]
  | tuple hitems => rfl
  | map hkeys hentries => simp only [truthy, Cells.truthy, hcells.map]

/-- What the entries of data are depends on the collections alone. -/
theorem entries?_data (hcells : s.cells.Agree s'.cells) (h : s.cells.Data v) : s'.entries? v = s.entries? v := by
  cases h with
  | atom hatom => cases v <;> first | (cases hatom; done) | rfl
  | list hitems => rfl
  | set hitems => rfl
  | tuple hitems => rfl
  | map hkeys hentries => simp only [entries?, hcells.map]

/-- What data gives one by one depends on the collections alone. -/
theorem members?_data (hcells : s.cells.Agree s'.cells) (h : s.cells.Data v) : s'.members? v = s.members? v := by
  have hentries : s'.entries? v = s.entries? v := entries?_data hcells h
  cases v <;> simp only [members?, hentries, Cells.items?, hcells.list, hcells.set]

end Scene

/-! ## What data consists of -/

namespace Cells

variable {c : Cells} {entries : Value.Entries} {v : Value}

/-- What stands under a key of data is data. -/
theorem DataEntries.field? (h : c.DataEntries entries) {key : String} (hv : Value.field? key entries = some v) :
    c.Data v := by
  obtain ⟨e, he, rfl⟩ := Option.map_eq_some_iff.mp hv
  exact (h e (List.mem_of_find?_eq_some he)).2

theorem DataEntries.field (h : c.DataEntries entries) (key : String) : c.Data (Value.field key entries) := by
  rw [Value.field]
  cases hv : Value.field? key entries with
  | none => exact .atom rfl
  | some v => exact h.field? hv

end Cells

namespace Scene

variable {s : Scene} {v : Value}

/-- What the collections hold under a mapping are its entries. -/
theorem entries?_of_cells {entries : Value.Entries} (h : s.cells.entries? v = some entries) :
    s.entries? v = some entries := by
  cases v <;> first | exact h | cases h

/-- The entries of data are data. -/
theorem dataEntries (h : s.cells.Data v) {entries : Value.Entries} (he : s.entries? v = some entries) :
    s.cells.DataEntries entries := by
  cases h with
  | atom hatom => cases v <;> first | (cases hatom; done) | cases he
  | list hitems => cases he
  | set hitems => cases he
  | tuple hitems => cases he
  | map hkeys hentries =>
    cases he
    exact fun e hmem => ⟨hkeys e hmem, hentries e hmem⟩

/-- What data gives one by one is data. -/
theorem data_of_members? (h : s.cells.Data v) {items : List Value} (hitems : s.members? v = some items) :
    ∀ x ∈ items, s.cells.Data x := by
  have hletters : ∀ (l : List Char), ∀ x ∈ l.map fun c => Value.text c.toString, s.cells.Data x := by
    intro l x hx
    obtain ⟨c, -, rfl⟩ := List.mem_map.mp hx
    exact .atom rfl
  cases h with
  | atom hatom =>
    cases v with
    | text t =>
      cases hitems
      exact hletters _
    | bytes bs =>
      cases hitems
      intro x hx
      obtain ⟨b, -, rfl⟩ := List.mem_map.mp hx
      exact .atom rfl
    | _ => first | (cases hatom; done) | cases hitems
  | list hdata =>
    cases hitems
    exact hdata
  | set hdata =>
    cases hitems
    exact hdata
  | tuple hdata =>
    cases hitems
    exact hdata
  | map hkeys hentries =>
    cases hitems
    intro x hx
    obtain ⟨e, he, rfl⟩ := List.mem_map.mp hx
    exact .atom (hkeys e he)

end Scene

/-! ## Entries of catalogs -/

namespace Catalog.Entry

variable {s s' : Scene} {entries : Value.Entries} {name spec raw : Value}

/-- A locator that is data is read off the collections alone. -/
theorem locator_data (hcells : s.cells.Agree s'.cells) (hname : s.cells.Data name) (hspec : s.cells.Data spec) :
    locator s' name spec = locator s name spec := by
  unfold locator
  rw [Scene.entries?_data hcells hspec, Scene.text_data hcells hname]
  cases hfields : s.entries? spec with
  | none => rfl
  | some fields =>
    have hdata := Scene.dataEntries hspec hfields
    cases hby : Value.field? "by" fields with
    | none => simp only [hby]
    | some strategy =>
      cases hvalue : Value.field? "value" fields with
      | none => simp only [hby, hvalue]
      | some target =>
        simp only [hby, hvalue, Scene.text_data hcells (hdata.field? hby), Scene.text_data hcells (hdata.field? hvalue),
          Scene.inspect_data hcells (hdata.field? hby)]

/-- A locator is given with the entries of its mapping. -/
theorem locator_fields {strategy target : String} {fields : Value.Entries}
    (h : locator s name spec = .ok (strategy, target, fields)) : s.entries? spec = some fields := by
  have hincomplete : ∀ {α : Type} {x : α},
      (do .error (.incompleteLocator (← s.text name)) : Except Fault α) ≠ .ok x := by
    intro α x
    cases s.text name <;> exact fun h => by cases h
  unfold locator at h
  cases hfields : s.entries? spec with
  | none =>
    rw [hfields] at h
    exact absurd h hincomplete
  | some found =>
    rw [hfields] at h
    simp only at h
    split at h
    · rename_i strategy' target' _ _
      cases hs : s.text strategy' with
      | error fault =>
        rw [hs] at h
        cases h
      | ok word =>
        rw [hs] at h
        simp only [bind, Except.bind] at h
        split at h
        · cases ht : s.text target' with
          | error fault =>
            rw [ht] at h
            cases h
          | ok t =>
            rw [ht] at h
            cases h
            rfl
        · cases hn : s.text name with
          | error fault =>
            rw [hn] at h
            cases h
          | ok t =>
            rw [hn] at h
            cases hi : s.inspect strategy' <;> rw [hi] at h <;> cases h
    · exact absurd h hincomplete

/-- The kind of control that data asks for is read off the collections alone. -/
theorem finish_data (hcells : s.cells.Agree s'.cells) (hname : s.cells.Data name) {kind : Value}
    (hkind : s.cells.Data kind) : finish s' name kind = finish s name kind := by
  simp only [finish, Scene.text_data hcells hname, Scene.inspect_data hcells hkind]

theorem element_data (hcells : s.cells.Agree s'.cells) (hname : s.cells.Data name) (hspec : s.cells.Data spec) :
    element s' name spec = element s name spec := by
  unfold element
  rw [locator_data hcells hname hspec]
  cases hlocator : locator s name spec with
  | error fault => simp only [bind, Except.bind]
  | ok found =>
    have hkind := (Scene.dataEntries hspec (locator_fields hlocator)).field "kind"
    simp only [bind, Except.bind, finish_data hcells hname hkind]

theorem value_data (hcells : s.cells.Agree s'.cells) (hname : s.cells.Data name) (hspec : s.cells.Data spec) :
    value s' name spec = value s name spec := by
  unfold value
  rw [locator_data hcells hname hspec]

theorem expectedTitle_data (hcells : s.cells.Agree s'.cells) (hraw : s.cells.Data raw) :
    expectedTitle s' raw = expectedTitle s raw := by
  unfold expectedTitle
  rw [Scene.entries?_data hcells hraw, Scene.inspect_data hcells hraw]

theorem expectedElement_data (hcells : s.cells.Agree s'.cells) (hraw : s.cells.Data raw) :
    expectedElement s' raw = expectedElement s raw := by
  unfold expectedElement
  rw [Scene.entries?_data hcells hraw, Scene.inspect_data hcells hraw]

/-- Named parts that are data are read off the collections alone. -/
theorem named_data (hcells : s.cells.Agree s'.cells) (hentries : s.cells.DataEntries entries) (key : String)
    {state state' : Value → Value → Step}
    (hstate : ∀ name spec, s.cells.Data name → s.cells.Data spec → state' name spec = state name spec) :
    named s' entries key state' = named s entries key state := by
  have hpart := hentries.field key
  unfold named
  simp only [Scene.truthy_data hcells hpart, Scene.entries?_data hcells hpart]
  split
  · cases hfields : s.entries? (Value.field key entries) with
    | none => rfl
    | some fields =>
      refine List.map_congr_left fun e he => ?_
      obtain ⟨hkey, hvalue⟩ := Scene.dataEntries hpart hfields e he
      exact hstate _ _ (.atom hkey) hvalue
  · rfl

/-- Labels that are data are read off the collections alone. -/
theorem labels_data (hcells : s.cells.Agree s'.cells) (hentries : s.cells.DataEntries entries) (key : String)
    (state : Value → Statement) : labels s' entries key state = labels s entries key state := by
  have hpart := hentries.field key
  unfold labels
  simp only [Scene.truthy_data hcells hpart, Scene.members?_data hcells hpart]
  split
  · cases hitems : s.members? (Value.field key entries) with
    | none => rfl
    | some items =>
      refine List.map_congr_left fun v hv => ?_
      rw [Scene.text_data hcells (Scene.data_of_members? hpart hitems v hv)]
  · rfl

/-- A part that may be absent is read off the collections alone. -/
theorem single_data (hentries : s.cells.DataEntries entries) (key : String) {state state' : Value → Step}
    (hstate : ∀ raw, s.cells.Data raw → state' raw = state raw) : single entries key state' = single entries key state := by
  simp only [single, hstate _ (hentries.field key)]

/-- The statements of an entry that is data are read off the collections alone. -/
theorem steps_data (hcells : s.cells.Agree s'.cells) (hentries : s.cells.DataEntries entries) :
    steps s' entries = steps s entries := by
  have haddress : ∀ raw, s.cells.Data raw → address s' raw = address s raw := fun raw h => by
    simp only [address, Scene.text_data hcells h]
  unfold steps
  rw [single_data hentries "url" haddress,
    single_data hentries "expected_title" fun raw h => expectedTitle_data hcells h,
    single_data hentries "expected_element" fun raw h => expectedElement_data hcells h,
    named_data hcells hentries "elements" fun name spec hn hs => element_data hcells hn hs,
    named_data hcells hentries "values" fun name spec hn hs => value_data hcells hn hs,
    labels_data hcells hentries "links" .link, labels_data hcells hentries "buttons" .button]

end Catalog.Entry

end PageObjects
