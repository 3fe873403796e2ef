import PageObjects.Proofs.Definition.Table

/-!
# Reachable definitions

A definition starts out empty.  After that it may be told anything in any order:
addresses, expectations, elements and actions, of which some are refused, and it
may be locked, or give way to an open copy.  What it has been told under names
that are texts is found in its table under those names, once each.

Main definitions:

- `Definition.Reachable`: the definitions that come from a fresh one by entries,
  locking and deriving, in any order.
- `Definition.Textual`: all names of a definition are texts.

Main results:

- Theorem `Definition.Reachable.wellFormed`: reachable definitions are well formed.
- Theorem `Definition.mem_namesOf`: the names listed under a kind are those bound to it.
- Theorem `Definition.reachable_table`: the table of a reachable definition, and the
  elements and actions that it admits.
-/

namespace PageObjects.Definition

/-! ## Reachable definitions -/

/-- An entry that names what it binds by a text. -/
def Entry.Textual : Entry → Prop
  | .element name _ | .action name _ => ∃ n, name = .ofText n
  | _ => True

/-- The definitions that come from a fresh one by entries, locking and deriving, in
any order.  An entry that is refused leaves the definition as it is. -/
inductive Reachable : Definition → Prop where
  | fresh (pageName : Label) : Reachable { pageName }
  | enter {d : Definition} (e : Entry) : e.Textual → Reachable d → Reachable (d.declareEntry e).definition
  | lock {d : Definition} : Reachable d → Reachable d.lock
  | derive {d : Definition} (pageName : Label) : Reachable d → Reachable (d.derive pageName)

/-- Reachable definitions are well formed. -/
theorem Reachable.wellFormed {d : Definition} (h : d.Reachable) : d.WellFormed := by
  induction h with
  | fresh pageName => exact .fresh pageName
  | enter e _ _ ih => exact ih.enter e
  | lock _ ih => exact ih.lock
  | derive pageName _ ih => exact ih.derive pageName

/-! ## Names that are texts -/

/-- A row whose name, and whose binding's name, is one text. -/
def TextRow (e : Key × Row) : Prop :=
  ∃ n b, e = ([.text n], ⟨.text n, .binding b⟩) ∧ b.name = .text n

/-- All names of a definition are texts. -/
structure Textual (d : Definition) : Prop where
  rows : ∀ e ∈ d.table, TextRow e
  elements : ∀ v ∈ d.everElements, ∃ n, v = .text n

namespace Textual

variable {d : Definition}

theorem bind (h : d.Textual) (n : String) (b : Binding) (hb : b.name = .text n) (ever : List Value)
    (hever : ∀ v ∈ ever, v ∈ d.everElements ∨ v = .text n) :
    Textual { d with table := putSlot (.text n) (.binding b) d.table, everElements := ever } where
  rows := by
    intro e he
    rcases mem_putSlot he with he | rfl | ⟨row, hrow, rfl⟩
    · exact h.rows e he
    · exact ⟨n, b, by simp [Value.identity], hb⟩
    · obtain ⟨m, c, hm, -⟩ := h.rows _ hrow
      obtain rfl : n = m := by simpa [Value.identity] using congrArg Prod.fst hm
      have hname : row.name = .text n := congrArg (fun e => e.2.name) hm
      exact ⟨n, b, by simp [Value.identity, hname], hb⟩
  elements := by
    intro v hv
    rcases hever v hv with hv | rfl
    · exact h.elements v hv
    · exact ⟨n, rfl⟩

theorem congr (h : d.Textual) {d' : Definition} (ht : d'.table = d.table)
    (he : d'.everElements = d.everElements) : d'.Textual where
  rows := by simpa only [ht] using h.rows
  elements := by simpa only [he] using h.elements

theorem enterOpen (h : d.Textual) {e : Entry} (htext : e.Textual) {d' : Definition}
    (he : d.enterOpen e = .ok d') : d'.Textual := by
  cases e with
  | address url =>
    cases he
    exact h.congr rfl rfl
  | expectElement name timeout =>
    cases he
    exact h.congr rfl rfl
  | expectTitle title =>
    simp only [Definition.enterOpen] at he
    split at he <;> cases he
    exact h.congr rfl rfl
  | element name locator =>
    obtain ⟨n, rfl⟩ := htext
    simp only [Definition.enterOpen] at he
    split at he
    · split at he <;> cases he
      exact h.bind n ⟨.text n, .element, locator⟩ rfl _ fun v hv => by simpa [Label.ofText] using hv
    · cases he
  | action name body =>
    obtain ⟨n, rfl⟩ := htext
    simp only [Definition.enterOpen] at he
    split at he <;> cases he
    exact h.bind n ⟨.text n, .action, body⟩ rfl _ fun _ hv => .inl hv

theorem enter (h : d.Textual) {e : Entry} (htext : e.Textual) : (d.declareEntry e).definition.Textual := by
  simp only [declareEntry, Definition.enter]
  cases d.ensureOpen e.what with
  | error fault => exact h
  | ok _ =>
    cases he : d.enterOpen e with
    | error fault => exact h
    | ok d' => exact h.enterOpen htext he

end Textual

/-- The names of a reachable definition are texts. -/
theorem Reachable.textual {d : Definition} (h : d.Reachable) : d.Textual := by
  induction h with
  | fresh pageName => exact ⟨by simp, by simp⟩
  | enter e htext _ ih => exact ih.enter htext
  | lock _ ih => exact ih.congr rfl rfl
  | derive pageName _ ih => exact ih.congr rfl rfl

/-! ## The names listed under a kind -/

/-- The text that names a row. -/
def rowText (e : Key × Row) : String := (e.2.name.text?).getD ""

/-- The texts that name the rows of a kind, in the order of the table. -/
def namesOf (d : Definition) (kind : BindingKind) : List String :=
  (d.table.filter fun e => boundTo kind e.2).map rowText

variable {d : Definition}

theorem namesIn_table (hw : d.WellFormed) (ht : d.Textual) (kind : BindingKind) :
    namesIn kind d.table = .ok ((d.namesOf kind).map .text) := by
  have hnames : ∀ e ∈ d.table.filter fun e => boundTo kind e.2, e.2.name = .text (rowText e) := by
    intro e he
    obtain ⟨n, b, rfl, -⟩ := ht.rows e (List.mem_of_mem_filter he)
    rfl
  rw [namesIn_eq kind hw.owned, namesOf, List.map_map]
  exact congrArg Except.ok (List.map_congr_left hnames)

/-- The names listed under a kind are those bound to it. -/
theorem mem_namesOf (hw : d.WellFormed) (ht : d.Textual) {kind : BindingKind} {n : String} :
    n ∈ d.namesOf kind ↔ ∃ b, d.get? [.text n] = some b ∧ b.kind = kind := by
  simp only [namesOf, List.mem_map, List.mem_filter]
  constructor
  · rintro ⟨e, ⟨he, hkind⟩, rfl⟩
    obtain ⟨n, b, rfl, -⟩ := ht.rows e he
    refine ⟨b, ?_, by simpa [boundTo, Slot.binding?] using hkind⟩
    simp [get?, rowText, Value.text?, slot?_of_mem hw.once he, Slot.binding?]
  · rintro ⟨b, hb, rfl⟩
    simp only [get?, Option.bind_eq_some_iff] at hb
    obtain ⟨s, hs, hsb⟩ := hb
    obtain ⟨row, hrow, rfl⟩ := exists_row_of_slot? hs
    obtain ⟨m, c, hm, -⟩ := ht.rows _ hrow
    obtain ⟨hkey, rfl⟩ : [Atom.text n] = [.text m] ∧ row = ⟨.text m, .binding c⟩ := by simpa using hm
    obtain rfl : n = m := by simpa using hkey
    refine ⟨_, ⟨hrow, ?_⟩, rfl⟩
    obtain rfl : c = b := by simpa [Slot.binding?] using hsb
    simp [boundTo, Slot.binding?]

/-- The names listed under a kind stand in the order of the table. -/
theorem namesOf_sublist (ht : d.Textual) (kind : BindingKind) :
    ((d.namesOf kind).map .text).Sublist d.names := by
  have hnames : d.names = (d.table.map rowText).map .text := by
    rw [names, List.map_map]
    refine List.map_congr_left fun e he => ?_
    obtain ⟨n, b, rfl, -⟩ := ht.rows e he
    rfl
  rw [hnames]
  exact (List.filter_sublist.map _).map _

/-- A name stands in the table exactly if it is listed under one of the kinds. -/
theorem mem_keys_iff_namesOf (hw : d.WellFormed) (ht : d.Textual) (n : String) :
    [.text n] ∈ d.keys ↔ n ∈ d.namesOf .element ∨ n ∈ d.namesOf .action := by
  rw [mem_namesOf hw ht, mem_namesOf hw ht]
  constructor
  · intro hk
    obtain ⟨b, hb, -, -⟩ := hw.get?_of_mem_keys hk
    cases hkind : b.kind with
    | element => exact .inl ⟨b, hb, hkind⟩
    | action => exact .inr ⟨b, hb, hkind⟩
  · rintro (⟨b, hb, -⟩ | ⟨b, hb, -⟩)
    all_goals
      simp only [get?, Option.bind_eq_some_iff] at hb
      obtain ⟨s, hs, -⟩ := hb
      simp [mem_keys_iff, hs]

/-- No name is listed under both kinds. -/
theorem namesOf_disjoint (hw : d.WellFormed) (ht : d.Textual) :
    (d.namesOf .element).Disjoint (d.namesOf .action) := by
  intro n he ha
  obtain ⟨b, hb, hbk⟩ := (mem_namesOf hw ht).mp he
  obtain ⟨c, hc, hck⟩ := (mem_namesOf hw ht).mp ha
  obtain rfl : b = c := Option.some.inj (hb.symm.trans hc)
  rw [hbk] at hck
  cases hck

/-! ## The table of a reachable definition -/

/-- In every reachable definition: every row stands under the name of its own
binding, and every name once; what is bound as an element was ever declared as one,
and what was ever declared as one is still in the table; the names listed as
elements and as actions have none in common, are together all names, and stand in
the order of the table.  So while the definition is open, an element is refused as a
duplicate exactly if its name is in the table, and an action is never refused. -/
theorem reachable_table (h : d.Reachable) :
    ((∀ e ∈ d.table, TextRow e) ∧ d.keys.Nodup) ∧
    ((∀ n b, d.get? [.text n] = some b → b.kind = .element → .text n ∈ d.everElements) ∧
      ∀ v ∈ d.everElements, v.identity ∈ d.keys) ∧
    (∃ elements actions : List String,
      d.elementNames = .ok (elements.map .text) ∧ d.actionNames = .ok (actions.map .text) ∧
      elements.Disjoint actions ∧
      (∀ n, [.text n] ∈ d.keys ↔ n ∈ elements ∨ n ∈ actions) ∧
      (elements.map .text).Sublist d.names ∧ (actions.map .text).Sublist d.names) ∧
    (d.locked = false → ∀ n payload,
      ((∃ fault, d.enter (.element (.ofText n) payload) = .error fault ∧ fault.kind = .duplicateDefinition) ↔
        [.text n] ∈ d.keys) ∧
      ∃ d', d.enter (.action (.ofText n) payload) = .ok d') := by
  have hw := h.wellFormed
  have ht := h.textual
  refine ⟨⟨ht.rows, hw.once⟩, ⟨?_, hw.kept⟩, ?_, ?_⟩
  · intro n b hb hkind
    simp only [get?, Option.bind_eq_some_iff] at hb
    obtain ⟨s, hs, hsb⟩ := hb
    obtain ⟨c, rfl, -⟩ := hw.binding_of_slot? hs
    obtain rfl : c = b := by simpa [Slot.binding?] using hsb
    have hever := hw.ever _ c hs hkind
    simp only [everElement, List.any_eq_true, beq_iff_eq] at hever
    obtain ⟨v, hv, hvn⟩ := hever
    obtain ⟨m, rfl⟩ := ht.elements v hv
    obtain rfl : m = n := by simpa [Value.identity] using hvn
    exact hv
  · exact ⟨d.namesOf .element, d.namesOf .action, namesIn_table hw ht _, namesIn_table hw ht _,
      namesOf_disjoint hw ht, mem_keys_iff_namesOf hw ht, namesOf_sublist ht _, namesOf_sublist ht _⟩
  · intro hopen n payload
    constructor
    · rw [hw.enter_element hopen]
      by_cases hk : [.text n] ∈ d.keys
      · simp [hk, Fault.kind]
      · simp [hk]
    · exact ⟨d.addAction (.ofText n) payload, by
        simp [enter_open hopen, Definition.enterOpen, Label.ofText, Value.hashable]⟩

/-- A name that an action took over on a type, as a subtype starts out with it. -/
def takenOver : Definition :=
  let base : Definition := { pageName := .ofText "Base" }
  let declared := (base.declareEntry (.element (.ofText "search") (.text "field"))).definition
  let replaced := (declared.declareEntry (.action (.ofText "search") (.text "submit"))).definition
  replaced.lock.derive (.ofText "Child")

/-- A subtype may not declare an element that an action took over on its base. -/
theorem takenOver_table :
    takenOver.Reachable ∧ takenOver.locked = false ∧ takenOver.keys = [[.text "search"]] ∧
      ∃ fault, takenOver.enter (.element (.ofText "search") .none) = .error fault ∧
        fault.kind = .duplicateDefinition := by
  have h : takenOver.Reachable :=
    .derive _ (.lock (.enter _ ⟨_, rfl⟩ (.enter _ ⟨_, rfl⟩ (.fresh _))))
  have hkeys : takenOver.keys = [[.text "search"]] := by decide +kernel
  refine ⟨h, rfl, hkeys, ((reachable_table h).2.2.2 rfl "search" .none).1.mpr ?_⟩
  rw [hkeys]
  exact List.mem_singleton_self _

end PageObjects.Definition
