import PageObjects.Definition.Declaration
import Mathlib.Data.List.Basic

/-!
# The table of a definition

A definition does not ask whether a name is taken.  It asks whether an element
was ever declared under the name, and whether an action stands there now.  The
two questions come to the same because of what all changes keep: a row stands
under the name of its own binding, an element that stands in the table was
declared, and what was declared stays in the table.

Main definitions:

- `Definition.WellFormed`: what all changes of a definition keep.

Main results:

- Theorem `Definition.WellFormed.enter`: an entry keeps a definition well formed,
  also if it is refused.
- Theorem `Definition.WellFormed.admitsElement_eq`: an element may be declared under
  a name exactly if the name is not in the table.
- Theorem `Definition.namesIn_eq`: the names bound to a kind are the rows of that
  kind, in the order of the table.
-/

namespace PageObjects.Definition

/-! ## Rows and keys -/

/-- A row that holds a binding and stands under the name of the binding. -/
def Owned (e : Key × Row) : Prop :=
  e.2.name.identity = e.1 ∧ ∃ b, e.2.slot = .binding b ∧ b.name.identity = e.1

/-- A key is in the table exactly if something stands under it. -/
theorem mem_keys_iff {d : Definition} {k : Key} : k ∈ d.keys ↔ (d.slot? k).isSome := by
  simp only [keys, slot?, Option.isSome_map, List.lookup_isSome_iff, List.mem_map, beq_iff_eq]
  constructor
  · rintro ⟨e, he, rfl⟩
    exact ⟨e, he, rfl⟩
  · rintro ⟨e, he, hk⟩
    exact ⟨e, he, hk.symm⟩

/-- What stands under a key comes from a row of the table. -/
theorem exists_row_of_slot? {d : Definition} {k : Key} {s : Slot} (h : d.slot? k = some s) :
    ∃ row, (k, row) ∈ d.table ∧ row.slot = s := by
  simp only [slot?, Option.map_eq_some_iff] at h
  obtain ⟨row, hrow, hs⟩ := h
  obtain ⟨before, after, ht, -⟩ := List.lookup_eq_some_iff.mp hrow
  exact ⟨row, by simp [ht], hs⟩

/-- What stands under a key of a table of bindings is a binding of that name. -/
theorem binding_of_owned {d : Definition} (howned : ∀ e ∈ d.table, Owned e) {k : Key} {s : Slot}
    (hs : d.slot? k = some s) : ∃ b, s = .binding b ∧ b.name.identity = k := by
  obtain ⟨row, hrow, rfl⟩ := exists_row_of_slot? hs
  exact (howned _ hrow).2

/-- The row under a key of a table without repetitions is what stands under the key. -/
theorem slot?_of_mem {d : Definition} (hd : d.keys.Nodup) {k : Key} {row : Row}
    (h : (k, row) ∈ d.table) : d.slot? k = some row.slot := by
  obtain ⟨before, after, ht⟩ := List.append_of_mem h
  have hk : k ∉ before.map (·.1) := by
    simp only [keys, ht, List.map_append, List.map_cons] at hd
    intro hmem
    exact (List.nodup_append.mp hd).2.2 k hmem k List.mem_cons_self rfl
  have hl : d.table.lookup k = some row := by
    refine List.lookup_eq_some_iff.mpr ⟨before, after, ht, fun e he => ?_⟩
    rw [bne_iff_ne]
    rintro rfl
    exact hk (List.mem_map_of_mem he)
  simp [slot?, hl]

/-- A row after something was put is an old row, or the row under the name. -/
theorem mem_putSlot {name : Value} {slot : Slot} {t : List (Key × Row)} {e : Key × Row}
    (h : e ∈ putSlot name slot t) :
    e ∈ t ∨ e = (name.identity, ⟨name, slot⟩) ∨
      ∃ row, (name.identity, row) ∈ t ∧ e = (name.identity, { row with slot }) := by
  induction t with
  | nil =>
    right; left
    simpa [putSlot] using h
  | cons first rest ih =>
    obtain ⟨k, row⟩ := first
    by_cases hk : k = name.identity
    · subst hk
      simp only [putSlot, if_true, List.mem_cons] at h
      rcases h with rfl | h
      · exact .inr (.inr ⟨row, List.mem_cons_self, rfl⟩)
      · exact .inl (List.mem_cons_of_mem _ h)
    · simp only [putSlot, hk, if_false, List.mem_cons] at h
      rcases h with rfl | h
      · exact .inl List.mem_cons_self
      · rcases ih h with h | h | ⟨row', hrow, rfl⟩
        · exact .inl (List.mem_cons_of_mem _ h)
        · exact .inr (.inl h)
        · exact .inr (.inr ⟨row', List.mem_cons_of_mem _ hrow, rfl⟩)

/-- What is put under a name is put under a row of its own, or of that name. -/
theorem owned_putSlot {b : Binding} {t : List (Key × Row)} (ht : ∀ e ∈ t, Owned e) :
    ∀ e ∈ putSlot b.name (.binding b) t, Owned e := by
  intro e he
  rcases mem_putSlot he with he | rfl | ⟨row, hrow, rfl⟩
  · exact ht e he
  · exact ⟨rfl, b, rfl, rfl⟩
  · exact ⟨(ht _ hrow).1, b, rfl, rfl⟩

theorem nodup_putSlot {name : Value} {slot : Slot} {t : List (Key × Row)}
    (ht : (t.map (·.1)).Nodup) : ((putSlot name slot t).map (·.1)).Nodup := by
  rw [keys_putSlot]
  split
  · exact ht
  · rename_i h
    rw [List.nodup_append]
    exact ⟨ht, by simp, by simpa using fun k hk (heq : k = name.identity) => h (heq ▸ hk)⟩

theorem mem_keys_putSlot {name : Value} {slot : Slot} {t : List (Key × Row)} {k : Key} :
    k ∈ (putSlot name slot t).map (·.1) ↔ k ∈ t.map (·.1) ∨ k = name.identity := by
  rw [keys_putSlot]
  split
  · rename_i h
    constructor
    · exact .inl
    · rintro (hk | rfl)
      · exact hk
      · exact h
  · simp

/-- An entry that is taken is taken by an open definition. -/
theorem enterOpen_of_enter {d d' : Definition} {e : Entry} (h : d.enter e = .ok d') : d.enterOpen e = .ok d' := by
  unfold enter at h
  split at h
  · cases h
  · exact h

/-! ## What all changes keep -/

/-- What all changes of a definition keep. -/
structure WellFormed (d : Definition) : Prop where
  /-- Every row holds a binding and stands under its name. -/
  owned : ∀ e ∈ d.table, Owned e
  /-- Every name stands in the table once. -/
  once : d.keys.Nodup
  /-- An element that stands in the table was declared. -/
  ever : ∀ k b, d.slot? k = some (.binding b) → b.kind = .element → d.everElement k = true
  /-- What was ever declared as an element stays in the table. -/
  kept : ∀ v ∈ d.everElements, v.identity ∈ d.keys

namespace WellFormed

variable {d : Definition}

theorem fresh (pageName : Label) : WellFormed { pageName } where
  owned := by simp
  once := by simp [keys]
  ever := by simp [slot?]
  kept := by simp

/-- What stands under a key is a binding of that name. -/
theorem binding_of_slot? (h : d.WellFormed) {k : Key} {s : Slot} (hs : d.slot? k = some s) :
    ∃ b, s = .binding b ∧ b.name.identity = k := binding_of_owned h.owned hs

/-- The name under a key of the table is bound. -/
theorem get?_of_mem_keys (h : d.WellFormed) {k : Key} (hk : k ∈ d.keys) :
    ∃ b, d.get? k = some b ∧ d.slot? k = some (.binding b) ∧ b.name.identity = k := by
  obtain ⟨s, hs⟩ := Option.isSome_iff_exists.mp (mem_keys_iff.mp hk)
  obtain ⟨b, rfl, hb⟩ := h.binding_of_slot? hs
  exact ⟨b, by simp [get?, hs, Slot.binding?], hs, hb⟩

theorem everElement_mem_keys (h : d.WellFormed) {k : Key} (hk : d.everElement k = true) : k ∈ d.keys := by
  simp only [everElement, List.any_eq_true, beq_iff_eq] at hk
  obtain ⟨v, hv, rfl⟩ := hk
  exact h.kept v hv

/-- Binding a name keeps a definition well formed, if elements are remembered. -/
theorem bind (h : d.WellFormed) (b : Binding) (ever : List Value)
    (hold : ∀ v ∈ d.everElements, v ∈ ever) (hnew : ∀ v ∈ ever, v ∈ d.everElements ∨ v = b.name)
    (hb : b.kind = .element → b.name ∈ ever) :
    WellFormed { d with table := putSlot b.name (.binding b) d.table, everElements := ever } where
  owned := owned_putSlot h.owned
  once := nodup_putSlot h.once
  ever := by
    intro k c hc hkind
    simp only [slot?, lookup_putSlot] at hc
    split at hc
    · rename_i hk
      subst hk
      obtain rfl : b = c := by simpa using hc
      simp only [everElement, List.any_eq_true, beq_iff_eq]
      exact ⟨b.name, hb hkind, rfl⟩
    · have hk := h.ever k c hc hkind
      simp only [everElement, List.any_eq_true, beq_iff_eq] at hk ⊢
      obtain ⟨v, hv, hk⟩ := hk
      exact ⟨v, hold v hv, hk⟩
  kept := by
    intro v hv
    refine mem_keys_putSlot.mpr ?_
    rcases hnew v hv with hv | rfl
    · exact .inl (h.kept v hv)
    · exact .inr rfl

theorem addElement (h : d.WellFormed) (name : Label) (locator : Value) :
    (d.addElement name locator).WellFormed :=
  h.bind ⟨name.value, .element, locator⟩ _ (fun v hv => List.mem_append_left _ hv)
    (fun v hv => by simpa using hv) (fun _ => by simp)

theorem addAction (h : d.WellFormed) (name : Label) (body : Value) :
    (d.addAction name body).WellFormed :=
  h.bind ⟨name.value, .action, body⟩ _ (fun _ hv => hv) (fun _ hv => .inl hv) (by simp)

/-- The table and the elements are all that counts. -/
theorem congr (h : d.WellFormed) {d' : Definition} (ht : d'.table = d.table)
    (he : d'.everElements = d.everElements) : d'.WellFormed where
  owned := by simpa only [ht] using h.owned
  once := by simpa only [keys, ht] using h.once
  ever := by simpa only [slot?, everElement, ht, he] using h.ever
  kept := by simpa only [keys, ht, he] using h.kept

/-- An entry that is taken keeps a definition well formed. -/
theorem enterOpen (h : d.WellFormed) {e : Entry} {d' : Definition} (he : d.enterOpen e = .ok d') :
    d'.WellFormed := by
  cases e with
  | address url =>
    cases he
    exact h.congr rfl rfl
  | expectElement name timeout =>
    cases he
    exact h.congr rfl rfl
  | expectTitle title =>
    simp only [Definition.enterOpen] at he
    split at he <;> cases he
    exact h.congr rfl rfl
  | element name locator =>
    simp only [Definition.enterOpen] at he
    split at he
    · split at he <;> cases he
      exact h.addElement name locator
    · cases he
  | action name body =>
    simp only [Definition.enterOpen] at he
    split at he <;> cases he
    exact h.addAction name body

/-- An entry keeps a definition well formed, also if it is refused. -/
theorem enter (h : d.WellFormed) (e : Entry) : (d.declareEntry e).definition.WellFormed := by
  simp only [declareEntry, Definition.enter]
  cases d.ensureOpen e.what with
  | error fault => exact h
  | ok _ =>
    cases he : d.enterOpen e with
    | error fault => exact h
    | ok d' => exact h.enterOpen he

theorem lock (h : d.WellFormed) : d.lock.WellFormed := h.congr rfl rfl

theorem derive (h : d.WellFormed) (pageName : Label) : (d.derive pageName).WellFormed := h.congr rfl rfl

/-! ## Which elements may be declared -/

/-- An element may be declared under a name exactly if the name is not in the table. -/
theorem admitsElement_eq (h : d.WellFormed) (k : Key) : d.admitsElement k = .ok (decide (k ∉ d.keys)) := by
  by_cases hever : d.everElement k = true
  · have hk : k ∈ d.keys := h.everElement_mem_keys hever
    simp [Definition.admitsElement, hever, hk]
  · cases hs : d.slot? k with
    | none =>
      have hk : k ∉ d.keys := by simp [mem_keys_iff, hs]
      simp [Definition.admitsElement, hever, hs, hk]
    | some s =>
      have hk : k ∈ d.keys := by simp [mem_keys_iff, hs]
      obtain ⟨b, rfl, -⟩ := h.binding_of_slot? hs
      -- an element here would have been remembered, so it is an action
      have hkind : b.kind = .action := by
        cases hb : b.kind with
        | element => exact absurd (h.ever k b hs hb) hever
        | action => rfl
      simp [Definition.admitsElement, hever, hs, Slot.isAbsent, Slot.kind?, Except.map, hk, hkind]

/-- An open definition refuses an element exactly if the name is in the table. -/
theorem enter_element (h : d.WellFormed) (hd : d.locked = false) (n : String) (locator : Value) :
    d.enter (.element (.ofText n) locator) =
      if [.text n] ∈ d.keys then .error (.duplicate n d.pageName.text)
      else .ok (d.addElement (.ofText n) locator) := by
  rw [enter_open hd]
  simp only [Definition.enterOpen, Label.key_ofText, h.admitsElement_eq]
  by_cases hk : [.text n] ∈ d.keys
  · simp [Label.ofText, Value.hashable, hk]
  · simp [Label.ofText, Value.hashable, hk]

end WellFormed

/-! ## Names by kind -/

/-- Whether a row is bound to a kind. -/
def boundTo (kind : BindingKind) (row : Row) : Bool :=
  (row.slot.binding?).any fun b => b.kind == kind

/-- The names bound to a kind are the rows of that kind, in the order of the table. -/
theorem namesIn_eq (kind : BindingKind) {t : List (Key × Row)} (ht : ∀ e ∈ t, Owned e) :
    namesIn kind t = .ok ((t.filter fun e => boundTo kind e.2).map (·.2.name)) := by
  induction t with
  | nil => rfl
  | cons e rest ih =>
    have hrest := ih fun e he => ht e (List.mem_cons_of_mem _ he)
    obtain ⟨-, b, hb, -⟩ := ht e List.mem_cons_self
    have hbound : boundTo kind e.2 = (b.kind == kind) := by simp [boundTo, hb, Slot.binding?]
    simp only [namesIn, hrest, hb, Slot.kind?, List.filter_cons, hbound]
    by_cases hk : b.kind = kind
    · simp [hk, bind, Except.bind, pure, Except.pure]
    · simp [hk, bind, Except.bind, pure, Except.pure]

end PageObjects.Definition
