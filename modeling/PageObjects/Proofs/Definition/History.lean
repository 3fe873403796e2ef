import PageObjects.Proofs.Definition.Table
import Mathlib.Data.List.Induction

/-!
# What a definition has been told

A definition is changed in place, and an action may take the place of what stands
under its name.  Still it says no more and no less than the list of all entries
that were taken: names stand in the order in which they came first, what stands
under a name is the last action that was declared under it, or else the one
element, and each of the other parts is what was said last.

Main definitions:

- `Fact`, `History`: what entries say that were taken.
- `History.keys`, `History.binding?`, `History.address` and its kin: what a history
  comes to.
- `Definition.Reflects`: a definition says what a history comes to.

Main results:

- Theorem `Definition.Reflects.enterOpen`: an entry that is taken is added to the history.
- Theorem `History.keys_prefix`: the names of a history come first in what extends it.
- Theorem `History.binding?_append`: a bound name stays bound, and an action an action.
-/

namespace PageObjects

/-- What is left of a list without repetitions has none. -/
theorem nodup_eraseDups {α : Type} [BEq α] [LawfulBEq α] (l : List α) : l.eraseDups.Nodup := by
  induction hlength : l.length using Nat.strongRecOn generalizing l with
  | ind n ih =>
    cases l with
    | nil => exact List.nodup_nil
    | cons a rest =>
      rw [List.eraseDups_cons, List.nodup_cons]
      constructor
      · intro hmem
        have hother := (List.mem_filter.mp (List.mem_eraseDups.mp hmem)).2
        rw [beq_self_eq_true] at hother
        cases hother
      · have hle : (rest.filter fun b => !b == a).length ≤ rest.length := List.length_filter_le _ rest
        refine ih _ ?_ _ rfl
        rw [← hlength, List.length_cons]
        exact Nat.lt_succ_of_le hle

/-- What an entry says that was taken. -/
inductive Fact where
  | address (url : Value)
  | expectElement (e : ElementExpectation)
  | expectTitle (t : TitleExpectation)
  | binding (b : Binding)

namespace Fact

/-- The binding that a fact is. -/
def binding? : Fact → Option Binding
  | .binding b => some b
  | _ => none

/-- The address that a fact gives. -/
def address? : Fact → Option Value
  | .address url => some url
  | _ => none

/-- The element that a fact says to expect. -/
def expectedElement? : Fact → Option ElementExpectation
  | .expectElement e => some e
  | _ => none

/-- The title that a fact says to expect. -/
def expectedTitle? : Fact → Option TitleExpectation
  | .expectTitle t => some t
  | _ => none

end Fact

/-- What was said, the earliest first. -/
abbrev History := List Fact

namespace History

/-! ## What a history comes to -/

/-- All bindings that were declared. -/
def bindings (h : History) : List Binding := h.filterMap Fact.binding?

/-- The keys of all names that were declared, in the order in which they came first. -/
def keys (h : History) : List Key := (h.bindings.map (·.name.identity)).eraseDups

/-- The bindings of a kind that were declared under a key. -/
def declaredAs (h : History) (kind : BindingKind) (k : Key) : List Binding :=
  h.bindings.filter fun b => b.kind == kind && b.name.identity == k

/-- What stands under a key: the last action that was declared under it, or else the
element. -/
def binding? (h : History) (k : Key) : Option Binding :=
  (h.declaredAs .action k).getLast?.or (h.declaredAs .element k).head?

/-- The last address that was given. -/
def address (h : History) : Value := (h.filterMap Fact.address?).getLast?.getD .none

/-- The element that was last said to be expected. -/
def expectedElement (h : History) : Option ElementExpectation :=
  (h.filterMap Fact.expectedElement?).getLast?

/-- The title that was last said to be expected. -/
def expectedTitle (h : History) : Option TitleExpectation := (h.filterMap Fact.expectedTitle?).getLast?

/-! ## Histories that go on -/

theorem declaredAs_append (h h' : History) (kind : BindingKind) (k : Key) :
    declaredAs (h ++ h') kind k = h.declaredAs kind k ++ h'.declaredAs kind k := by
  simp [declaredAs, bindings]

/-- The names of a history come first in what extends it. -/
theorem keys_prefix (h h' : History) : h.keys <+: keys (h ++ h') := by
  rw [keys, keys, bindings, bindings, List.filterMap_append, List.map_append, List.eraseDups_append]
  exact List.prefix_append _ _

/-- One more key comes at the end unless it is there. -/
theorem eraseDups_concat (l : List Key) (k : Key) :
    (l ++ [k]).eraseDups = if k ∈ l then l.eraseDups else l.eraseDups ++ [k] := by
  rw [List.eraseDups_append]
  by_cases hk : k ∈ l
  · have hnone : [k].removeAll l = [] := by
      simp only [List.removeAll, List.filter_singleton, List.contains_iff_mem.mpr hk, Bool.not_true, cond_false]
    rw [if_pos hk, hnone, List.eraseDups_nil, List.append_nil]
  · have hone : [k].removeAll l = [k] := by
      have hc : l.contains k = false := by
        rw [Bool.eq_false_iff, Ne, List.contains_iff_mem]
        exact hk
      simp only [List.removeAll, List.filter_singleton, hc, Bool.not_false, cond_true]
    rw [if_neg hk, hone]
    rfl

/-- Every name of a history comes once. -/
theorem nodup_keys (h : History) : h.keys.Nodup := nodup_eraseDups _

/-- A bound name stays bound, and a name that is bound to an action stays so. -/
theorem binding?_append {h : History} (h' : History) {k : Key} {b : Binding} (hb : h.binding? k = some b) :
    ∃ b', binding? (h ++ h') k = some b' ∧ (b.kind = .action → b'.kind = .action) := by
  have hkind : ∀ (l : History) {c : Binding}, c ∈ l.declaredAs .action k → c.kind = .action := by
    intro l c hc
    simp only [declaredAs, List.mem_filter, Bool.and_eq_true, beq_iff_eq] at hc
    exact hc.2.1
  simp only [binding?, declaredAs_append]
  cases hlast : (h.declaredAs .action k ++ h'.declaredAs .action k).getLast? with
  | some b' =>
    refine ⟨b', rfl, fun _ => ?_⟩
    rcases List.mem_append.mp (List.mem_of_getLast? hlast) with hmem | hmem
    · exact hkind h hmem
    · exact hkind h' hmem
  | none =>
    obtain ⟨hnone, -⟩ := List.append_eq_nil_iff.mp (List.getLast?_eq_none_iff.mp hlast)
    -- without an action, what stood there is the element, which comes first
    simp only [binding?, hnone, List.getLast?_nil, Option.none_or] at hb
    refine ⟨b, by simp [hb], fun haction => ?_⟩
    have hmem := List.mem_of_head? hb
    simp only [declaredAs, List.mem_filter, Bool.and_eq_true, beq_iff_eq, haction] at hmem
    exact absurd hmem.2.1 (by decide)

end History

namespace Definition

/-! ## Definitions that reflect a history -/

/-- A definition says what a history comes to. -/
structure Reflects (d : Definition) (h : History) : Prop where
  keys : d.keys = h.keys
  slot : ∀ k, d.slot? k = (h.binding? k).map .binding
  ever : ∀ k, d.everElement k = true ↔ h.declaredAs .element k ≠ []
  single : ∀ k, (h.declaredAs .element k).length ≤ 1
  address : d.address = h.address
  expectedElement : d.expectedElement = h.expectedElement
  expectedTitle : d.expectedTitle = h.expectedTitle

/-- What an entry says if it is taken. -/
def Entry.fact? : Entry → Option Fact
  | .address url => some (.address url)
  | .expectElement name timeout => some (.expectElement ⟨name, timeout⟩)
  | .expectTitle title => (TitleExpectation.ofValue? title).map .expectTitle
  | .element name locator => some (.binding ⟨name.value, .element, locator⟩)
  | .action name body => some (.binding ⟨name.value, .action, body⟩)

namespace Reflects

variable {d : Definition} {h : History}

theorem fresh (pageName : Label) : Reflects { pageName } [] where
  keys := by simp [Definition.keys, History.keys, History.bindings]
  slot := by simp [slot?, History.binding?, History.declaredAs, History.bindings]
  ever := by simp [everElement, History.declaredAs, History.bindings]
  single := by simp [History.declaredAs, History.bindings]
  address := rfl
  expectedElement := rfl
  expectedTitle := rfl

/-- Neither the name of a definition nor whether it is locked says anything. -/
theorem congr (hd : d.Reflects h) {d' : Definition} (ht : d'.table = d.table)
    (he : d'.everElements = d.everElements) (ha : d'.address = d.address)
    (hx : d'.expectedElement = d.expectedElement) (hy : d'.expectedTitle = d.expectedTitle) :
    d'.Reflects h where
  keys := by simpa only [Definition.keys, ht] using hd.keys
  slot := by simpa only [slot?, ht] using hd.slot
  ever := by simpa only [everElement, he] using hd.ever
  single := hd.single
  address := ha.trans hd.address
  expectedElement := hx.trans hd.expectedElement
  expectedTitle := hy.trans hd.expectedTitle

theorem lock (hd : d.Reflects h) : d.lock.Reflects h := hd.congr rfl rfl rfl rfl rfl

theorem derive (hd : d.Reflects h) (pageName : Label) : (d.derive pageName).Reflects h :=
  hd.congr rfl rfl rfl rfl rfl

/-- A fact that is no binding leaves the table as it is. -/
theorem other (hd : d.Reflects h) {f : Fact} (hf : f.binding? = none) {d' : Definition}
    (ht : d'.table = d.table) (he : d'.everElements = d.everElements)
    (ha : d'.address = History.address (h ++ [f]))
    (hx : d'.expectedElement = History.expectedElement (h ++ [f]))
    (hy : d'.expectedTitle = History.expectedTitle (h ++ [f])) : d'.Reflects (h ++ [f]) := by
  have hbindings : History.bindings (h ++ [f]) = h.bindings := by simp [History.bindings, hf]
  have hdeclared : ∀ kind k, History.declaredAs (h ++ [f]) kind k = h.declaredAs kind k := by
    intro kind k
    rw [History.declaredAs, hbindings, History.declaredAs]
  constructor
  · simpa only [Definition.keys, History.keys, ht, hbindings] using hd.keys
  · simpa only [slot?, History.binding?, ht, hdeclared] using hd.slot
  · simpa only [everElement, he, hdeclared] using hd.ever
  · simpa only [hdeclared] using hd.single
  · exact ha
  · exact hx
  · exact hy

/-- A binding is added at the end, or takes the place of what stands under its name. -/
theorem bind (hd : d.Reflects h) (b : Binding) (ever : List Value)
    (hever : ∀ k, (ever.any fun v => v.identity == k) = true ↔
      d.everElement k = true ∨ b.kind = .element ∧ b.name.identity = k)
    (hfree : b.kind = .element → d.slot? b.name.identity = none ∧ d.everElement b.name.identity = false) :
    Reflects { d with table := putSlot b.name (.binding b) d.table, everElements := ever }
      (h ++ [.binding b]) := by
  have hbindings : History.bindings (h ++ [.binding b]) = h.bindings ++ [b] := by
    simp [History.bindings, Fact.binding?]
  have hdeclared : ∀ kind k, History.declaredAs (h ++ [.binding b]) kind k =
      h.declaredAs kind k ++ if b.kind = kind ∧ b.name.identity = k then [b] else [] := by
    intro kind k
    simp [History.declaredAs, hbindings, List.filter_singleton]
  constructor
  · have hold : d.keys = h.keys := hd.keys
    simp only [Definition.keys] at hold ⊢
    rw [keys_putSlot, hold]
    simp only [History.keys, hbindings, List.map_append, List.map_cons, List.map_nil, List.mem_eraseDups]
    rw [History.eraseDups_concat]
  · intro k
    simp only [slot?, lookup_putSlot, History.binding?, hdeclared]
    by_cases hk : k = b.name.identity
    · subst hk
      cases hkind : b.kind with
      | action => simp
      | element =>
        have hnone : h.binding? b.name.identity = none := by
          have hslot := hd.slot b.name.identity
          rw [(hfree hkind).1] at hslot
          simpa using hslot.symm
        simp only [History.binding?, Option.or_eq_none_iff] at hnone
        simp [hnone.1, hnone.2]
    · have hk' : ¬ b.name.identity = k := fun heq => hk heq.symm
      simpa [hk, hk', slot?, History.binding?] using hd.slot k
  · intro k
    simp only [everElement, hdeclared]
    rw [hever k, hd.ever k]
    by_cases hk : b.kind = .element ∧ b.name.identity = k
    · simp [hk]
    · simp [hk]
  · intro k
    simp only [hdeclared]
    by_cases hk : b.kind = .element ∧ b.name.identity = k
    · obtain ⟨hkind, rfl⟩ := hk
      have hnone : h.declaredAs .element b.name.identity = [] := by
        have hnot := (hfree hkind).2
        by_contra hne
        rw [(hd.ever _).mpr hne] at hnot
        cases hnot
      simp [hkind, hnone]
    · simpa [hk] using hd.single k
  · simpa [History.address, Fact.address?] using hd.address
  · simpa [History.expectedElement, Fact.expectedElement?] using hd.expectedElement
  · simpa [History.expectedTitle, Fact.expectedTitle?] using hd.expectedTitle

/-- An element is admitted only under a name that is not bound and never was. -/
theorem free_of_admits (hd : d.Reflects h) {k : Key} (hk : d.admitsElement k = .ok true) :
    d.slot? k = none ∧ d.everElement k = false := by
  simp only [admitsElement] at hk
  split at hk
  · cases hk
  · rename_i hever
    have hnot : d.everElement k = false := by simpa using hever
    refine ⟨?_, hnot⟩
    have hnone : h.declaredAs .element k = [] := by
      by_contra hne
      exact hever ((hd.ever k).mpr hne)
    rw [hd.slot k] at hk ⊢
    cases hb : h.binding? k with
    | none => rfl
    | some b =>
      -- what stands there is no element, so it is an action, which refuses
      have hlast : (h.declaredAs .action k).getLast? = some b := by
        simpa [History.binding?, hnone] using hb
      have hmem := List.mem_of_getLast? hlast
      simp only [History.declaredAs, List.mem_filter, Bool.and_eq_true, beq_iff_eq] at hmem
      simp [hb, Slot.isAbsent, Slot.kind?, Except.map, hmem.2.1] at hk

/-- An entry that is taken is added to the history. -/
theorem enterOpen (hd : d.Reflects h) {e : Entry} {d' : Definition} (he : d.enterOpen e = .ok d') :
    ∃ f, e.fact? = some f ∧ d'.Reflects (h ++ [f]) := by
  cases e with
  | address url =>
    cases he
    refine ⟨_, rfl, hd.other rfl rfl rfl ?_ ?_ ?_⟩
    · simp [History.address, Fact.address?]
    · simpa [History.expectedElement, Fact.expectedElement?] using hd.expectedElement
    · simpa [History.expectedTitle, Fact.expectedTitle?] using hd.expectedTitle
  | expectElement name timeout =>
    cases he
    refine ⟨_, rfl, hd.other rfl rfl rfl ?_ ?_ ?_⟩
    · simpa [History.address, Fact.address?] using hd.address
    · simp [History.expectedElement, Fact.expectedElement?]
    · simpa [History.expectedTitle, Fact.expectedTitle?] using hd.expectedTitle
  | expectTitle title =>
    simp only [Definition.enterOpen] at he
    split at he <;> cases he
    rename_i t ht
    refine ⟨.expectTitle t, by simp [Entry.fact?, ht], hd.other rfl rfl rfl ?_ ?_ ?_⟩
    · simpa [History.address, Fact.address?] using hd.address
    · simpa [History.expectedElement, Fact.expectedElement?] using hd.expectedElement
    · simp [History.expectedTitle, Fact.expectedTitle?]
  | element name locator =>
    simp only [Definition.enterOpen] at he
    split at he
    · split at he <;> cases he
      rename_i hadmits
      refine ⟨_, rfl, hd.bind ⟨name.value, .element, locator⟩ _ ?_ fun _ => hd.free_of_admits hadmits⟩
      intro k
      simp [everElement]
    · cases he
  | action name body =>
    simp only [Definition.enterOpen] at he
    split at he <;> cases he
    refine ⟨_, rfl, hd.bind ⟨name.value, .action, body⟩ _ ?_ (fun hkind => absurd hkind (by simp))⟩
    intro k
    simp [everElement]

end Reflects

end Definition

end PageObjects
