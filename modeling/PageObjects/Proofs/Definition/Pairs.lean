import PageObjects.Proofs.Definition.Table
import PageObjects.Proofs.Text.CanonicalName

/-!
# What links and buttons declare

A link or a button declares an element and then an action.  The element has to be new,
both names must not be empty or hidden, and the action may take over any name.  The
second name is only checked when the element has been added already, so a name that is
hidden may leave a definition with the element alone.

In a row of links and buttons no element is taken over by another element, so a name that
the row makes is bound to the last action that it is made for, or else to the one element.

Main definitions:

- `LabelKind`: links and buttons.
- `Definition.Nameable`: a name that may be declared.
- `Definition.Pair.Declared`: what a pair makes of a definition.
- `Definition.Strands`: when a pair leaves its element behind.
- `Definition.DeclaresAll`: pairs that are declared one after the other.
- `Definition.Binds`: what a row of pairs binds names to.

Main results:

- Theorem `Definition.WellFormed.declarePair_fault_eq_none_iff`: when a pair is declared.
- Theorem `Definition.WellFormed.declarePair_declared`: what it makes of the definition.
- Theorem `Definition.WellFormed.declarePair_undone`: a pair that fails changes nothing,
  unless it leaves its element behind.
- Theorem `Definition.DeclaresAll.binds`: what a row of pairs binds names to.
-/

namespace PageObjects

/-! ## Labels -/

/-- What a label may be of. -/
inductive LabelKind where
  | link
  | button

namespace LabelKind

/-- The word for a kind, which is the member that declares it and stands in the name of the
element. -/
def word : LabelKind → String
  | .link => "link"
  | .button => "button"

/-- What a label declares; `shown` is the label as messages show it. -/
def pair (k : LabelKind) (label shown : String) : Definition.Pair :=
  match k with
  | .link => .ofLink label
  | .button => .ofButton label shown

variable (k : LabelKind) (label shown : String)

@[simp] theorem pair_action : (k.pair label shown).action = Text.canonicalName label := by
  cases k <;> rfl

/-- The element is named after the label and the kind. -/
theorem pair_element : (k.pair label shown).element = Text.joinNames (Text.canonicalName label) k.word := by
  have hlink := Text.canonicalName_joined label "link" (c := ' ') (by decide)
  have hbutton := Text.canonicalName_joined label "button" (c := ' ') (by decide)
  rw [String.append_assoc] at hlink hbutton
  have hword : Text.canonicalName "link" = "link" ∧ Text.canonicalName "button" = "button" := by decide +kernel
  rw [hword.1] at hlink
  rw [hword.2] at hbutton
  cases k with
  | link => exact hlink
  | button => exact hbutton

/-- A label that leaves nothing for a name leaves the word alone for the element. -/
theorem pair_element_of_empty {label : String} (h : Text.canonicalName label = "") :
    (k.pair label shown).element = k.word := by
  rw [pair_element, h, Text.joinNames, if_pos rfl]

theorem pair_element_of_named {label : String} (h : Text.canonicalName label ≠ "") :
    (k.pair label shown).element = Text.canonicalName label ++ "_" ++ k.word := by
  rw [pair_element, Text.joinNames, if_neg h, if_neg (by cases k <;> decide)]

/-- The two names of a pair are different. -/
theorem pair_action_ne_element : (k.pair label shown).action ≠ (k.pair label shown).element := by
  rw [pair_action]
  by_cases h : Text.canonicalName label = ""
  · rw [pair_element_of_empty k shown h, h]
    cases k <;> decide
  · rw [pair_element_of_named k shown h]
    intro heq
    have hlength := congrArg String.length heq
    have hunderscore : "_".length = 1 := by decide
    rw [String.length_append, String.length_append, hunderscore] at hlength
    omega

end LabelKind

namespace Definition

variable {facts : TypeFacts} {d d' : Definition} {p : Pair} {n : String} {v : Value} {fault : Fault}

/-! ## Single declarations -/

/-- An entry that is refused changes nothing. -/
theorem declareEntry_of_fault {e : Entry} (h : (d.declareEntry e).fault = some fault) :
    (d.declareEntry e).definition = d := by
  unfold declareEntry at h ⊢
  cases he : d.enter e with
  | ok d' => rw [he] at h; cases h
  | error _ => rfl

/-- A name that passes the check is entered. -/
theorem declareNamed_of_ok {what : String} {name : GivenName} (h : checkName facts d what name = .ok ())
    (entry : Label → Entry) : d.declareNamed facts what name entry = d.declareEntry (entry name.label) := by
  simp [declareNamed, h]

/-- A name that does not pass it is refused. -/
theorem declareNamed_of_error {what : String} {name : GivenName} (h : checkName facts d what name = .error fault)
    (entry : Label → Entry) : d.declareNamed facts what name entry = { definition := d, fault := some fault } := by
  simp [declareNamed, h]

/-- A name that is refused changes nothing. -/
theorem declareNamed_of_fault {what : String} {name : GivenName} {entry : Label → Entry}
    (h : (d.declareNamed facts what name entry).fault = some fault) :
    (d.declareNamed facts what name entry).definition = d := by
  cases hc : checkName facts d what name with
  | ok _ =>
    rw [declareNamed_of_ok hc] at h ⊢
    exact declareEntry_of_fault h
  | error _ => rw [declareNamed_of_error hc]

/-- A name that may be declared is not empty, and no attribute hides it. -/
structure Nameable (facts : TypeFacts) (n : String) : Prop where
  named : n ≠ ""
  plain : facts.hides n = false

/-- What is wrong with a text as a name. -/
theorem checkName_ofText (hopen : d.locked = false) (what : String) :
    checkName facts d what (.ofText n) =
      if n = "" then .error (.unnamed what facts.name (Text.quoted n))
      else if facts.hides n then .error (.reserved n facts.name what) else .ok () := by
  simp [checkName, ensureOpen, hopen, GivenName.ofText, Label.ofText, Value.word?]

theorem checkName_of_nameable (hopen : d.locked = false) (what : String) (h : Nameable facts n) :
    checkName facts d what (.ofText n) = .ok () := by
  rw [checkName_ofText hopen, if_neg h.named, if_neg (by simp [h.plain])]

/-- What passes the check may be declared, and the definition is open. -/
theorem nameable_of_checkName {what : String} (h : checkName facts d what (.ofText n) = .ok ()) :
    d.locked = false ∧ Nameable facts n := by
  cases hopen : d.locked with
  | true => simp [checkName, ensureOpen, hopen] at h
  | false =>
    rw [checkName_ofText hopen] at h
    split at h
    · cases h
    · rename_i hn
      split at h
      · cases h
      · rename_i hplain
        exact ⟨rfl, hn, by simpa using hplain⟩

/-- A new element is added. -/
theorem WellFormed.declareElement_fresh (h : d.WellFormed) (hopen : d.locked = false) (hn : Nameable facts n)
    (hk : [.text n] ∉ d.keys) (v : Value) :
    ∃ notices, d.declareElement facts (.ofText n) v = { definition := d.addElement (.ofText n) v, notices } := by
  have henter := h.enter_element hopen n v
  rw [if_neg hk] at henter
  refine ⟨(d.notice? (.element (.ofText n) v)).toList, ?_⟩
  rw [declareElement, declareNamed_of_ok (checkName_of_nameable hopen _ hn), declareEntry]
  simp only [GivenName.ofText, henter]

/-- An element is declared under a text exactly if the definition is open, the text may be
declared and is not in the table. -/
theorem WellFormed.declareElement_fault_eq_none_iff (h : d.WellFormed) :
    (d.declareElement facts (.ofText n) v).fault = none ↔
      d.locked = false ∧ Nameable facts n ∧ [.text n] ∉ d.keys := by
  constructor
  · intro hfault
    cases hc : checkName facts d "element" (.ofText n) with
    | error fault =>
      rw [declareElement, declareNamed_of_error hc] at hfault
      cases hfault
    | ok _ =>
      obtain ⟨hopen, hn⟩ := nameable_of_checkName hc
      refine ⟨hopen, hn, fun hk => ?_⟩
      have henter := h.enter_element hopen n v
      rw [if_pos hk] at henter
      rw [declareElement, declareNamed_of_ok hc, declareEntry] at hfault
      simp only [GivenName.ofText, henter] at hfault
      cases hfault
  · rintro ⟨hopen, hn, hk⟩
    obtain ⟨notices, hdeclared⟩ := h.declareElement_fresh hopen hn hk v
    rw [hdeclared]

/-- An action is added under any name that may be declared. -/
theorem declareAction_nameable (hopen : d.locked = false) (hn : Nameable facts n) (v : Value) :
    ∃ notices, d.declareAction facts (.ofText n) v = { definition := d.addAction (.ofText n) v, notices } := by
  have henter : d.enter (.action (.ofText n) v) = .ok (d.addAction (.ofText n) v) := by
    simp [enter_open hopen, enterOpen, Label.ofText, Value.hashable]
  refine ⟨(d.notice? (.action (.ofText n) v)).toList, ?_⟩
  rw [declareAction, declareNamed_of_ok (checkName_of_nameable hopen _ hn), declareEntry]
  simp only [GivenName.ofText, henter]

/-- No action is added under a name that may not be declared. -/
theorem declareAction_refused (hn : ¬ Nameable facts n) (v : Value) :
    ∃ fault, checkName facts d "action" (.ofText n) = .error fault ∧
      d.declareAction facts (.ofText n) v = { definition := d, fault := some fault } := by
  cases hc : checkName facts d "action" (.ofText n) with
  | ok _ => exact absurd (nameable_of_checkName hc).2 hn
  | error fault => exact ⟨fault, rfl, declareNamed_of_error hc _⟩

/-! ## Pairs -/

/-- When a pair leaves its element behind: the element can be declared, and the action cannot. -/
structure Strands (facts : TypeFacts) (d : Definition) (p : Pair) : Prop where
  unlocked : d.locked = false
  element : Nameable facts p.element
  fresh : [.text p.element] ∉ d.keys
  action : ¬ Nameable facts p.action

/-- The element that a pair leaves behind. -/
def withElement (d : Definition) (p : Pair) : Definition := d.addElement (.ofText p.element) p.locator

/-- A pair that is refused its element is refused. -/
theorem declarePair_of_refused (hfault : (d.declareElement facts (.ofText p.element) p.locator).fault = some fault) :
    (d.declarePair facts p).fault = some fault ∧ (d.declarePair facts p).definition = d := by
  rw [declarePair, Declared.andThen_of_fault hfault]
  exact ⟨hfault, declareNamed_of_fault hfault⟩

/-- A pair that leaves its element behind fails with what is wrong with the name of the action. -/
theorem Strands.declarePair (hs : Strands facts d p) (h : d.WellFormed) :
    ∃ fault, checkName facts d "action" (.ofText p.action) = .error fault ∧
      (d.declarePair facts p).fault = some fault ∧ (d.declarePair facts p).definition = d.withElement p := by
  obtain ⟨notices, hfirst⟩ := h.declareElement_fresh hs.unlocked hs.element hs.fresh p.locator
  obtain ⟨fault, hcheck, hsecond⟩ :=
    declareAction_refused (d := d.withElement p) hs.action p.body
  refine ⟨fault, ?_, ?_⟩
  · rw [← hcheck]
    rfl
  · rw [Definition.declarePair, hfirst]
    simp only [Declared.andThen]
    exact ⟨congrArg Declared.fault hsecond, congrArg Declared.definition hsecond⟩

namespace WellFormed

/-- A pair with two names that may be declared is declared if its element is new. -/
theorem declarePair_fresh (h : d.WellFormed) (hopen : d.locked = false) (helement : Nameable facts p.element)
    (haction : Nameable facts p.action) (hk : [.text p.element] ∉ d.keys) :
    (d.declarePair facts p).fault = none ∧
      (d.declarePair facts p).definition = (d.withElement p).addAction (.ofText p.action) p.body := by
  obtain ⟨notices, hfirst⟩ := h.declareElement_fresh hopen helement hk p.locator
  obtain ⟨notices', hsecond⟩ := declareAction_nameable (d := d.withElement p) hopen haction p.body
  rw [declarePair, hfirst]
  simp only [Declared.andThen]
  exact ⟨congrArg Declared.fault hsecond, congrArg Declared.definition hsecond⟩

/-- What a pair comes to: it is refused its element, or leaves it behind, or is declared. -/
theorem declarePair_cases (h : d.WellFormed) (facts : TypeFacts) (p : Pair) :
    (∃ fault, (d.declareElement facts (.ofText p.element) p.locator).fault = some fault) ∨ Strands facts d p ∨
      (d.locked = false ∧ Nameable facts p.element ∧ Nameable facts p.action ∧ [.text p.element] ∉ d.keys) := by
  cases hfault : (d.declareElement facts (.ofText p.element) p.locator).fault with
  | some fault => exact .inl ⟨fault, rfl⟩
  | none =>
    obtain ⟨hopen, helement, hk⟩ := h.declareElement_fault_eq_none_iff.mp hfault
    by_cases haction : Nameable facts p.action
    · exact .inr (.inr ⟨hopen, helement, haction, hk⟩)
    · exact .inr (.inl ⟨hopen, helement, hk, haction⟩)

/-- A pair is declared exactly if the definition is open, both names may be declared, and the
element is not in the table. -/
theorem declarePair_fault_eq_none_iff (h : d.WellFormed) :
    (d.declarePair facts p).fault = none ↔
      d.locked = false ∧ Nameable facts p.element ∧ Nameable facts p.action ∧ [.text p.element] ∉ d.keys := by
  constructor
  · intro hfault
    rcases h.declarePair_cases facts p with ⟨fault, hrefused⟩ | hs | hfresh
    · rw [(declarePair_of_refused hrefused).1] at hfault
      cases hfault
    · obtain ⟨fault, -, hstrands, -⟩ := hs.declarePair h
      rw [hstrands] at hfault
      cases hfault
    · exact hfresh
  · rintro ⟨hopen, helement, haction, hk⟩
    exact (h.declarePair_fresh hopen helement haction hk).1

/-- A pair that fails leaves the definition as it was, unless it leaves its element behind. -/
theorem declarePair_undone (h : d.WellFormed) (hfault : (d.declarePair facts p).fault = some fault)
    (hs : ¬ Strands facts d p) : (d.declarePair facts p).definition = d := by
  rcases h.declarePair_cases facts p with ⟨fault', hrefused⟩ | hstrands | ⟨hopen, helement, haction, hk⟩
  · exact (declarePair_of_refused hrefused).2
  · exact absurd hstrands hs
  · rw [(h.declarePair_fresh hopen helement haction hk).1] at hfault
    cases hfault

end WellFormed

/-! ## What a pair makes of a definition -/

/-- The accessor that a pair declares. -/
def Pair.accessor (p : Pair) : Slot := .binding ⟨.text p.element, .element, p.locator⟩

/-- The click action that a pair declares. -/
def Pair.click (p : Pair) : Slot := .binding ⟨.text p.action, .action, p.body⟩

/-- What is put under a name adds the name at the end unless its key is there. -/
theorem names_putSlot (name : Value) (slot : Slot) (t : List (Key × Row)) :
    (putSlot name slot t).map (·.2.name) =
      if name.identity ∈ t.map (·.1) then t.map (·.2.name) else t.map (·.2.name) ++ [name] := by
  induction t with
  | nil => simp [putSlot]
  | cons e rest ih =>
    obtain ⟨k, row⟩ := e
    by_cases hk : k = name.identity
    · simp [putSlot, hk]
    · have hk' : ¬ name.identity = k := fun h => hk h.symm
      by_cases hr : name.identity ∈ rest.map (·.1)
      · simp only [hr, if_true] at ih
        simp only [putSlot, hk, if_false, List.map_cons, ih, List.mem_cons, hr, or_true, if_true]
      · simp only [hr, if_false] at ih
        simp only [putSlot, hk, if_false, List.map_cons, ih, List.mem_cons, hr, or_false, hk', List.cons_append]

section

variable {slot : Slot} (h : d'.table = putSlot (.text n) slot d.table)

include h

theorem keys_of_put : d'.keys = d.keys ++ if [.text n] ∈ d.keys then [] else [[.text n]] := by
  rw [keys, h, keys_putSlot]
  change (if [.text n] ∈ d.keys then d.keys else d.keys ++ [[.text n]]) = _
  split
  · rw [List.append_nil]
  · rfl

theorem names_of_put : d'.names = d.names ++ if [.text n] ∈ d.keys then [] else [.text n] := by
  rw [names, h, names_putSlot]
  change (if [.text n] ∈ d.keys then d.names else d.names ++ [.text n]) = _
  split
  · rw [List.append_nil]
  · rfl

theorem slot?_of_put (k : Key) : d'.slot? k = if k = [.text n] then some slot else d.slot? k := by
  rw [slot?, h]
  exact lookup_putSlot _ _ _ _

end

/-- A pair that is declared adds its element at the end and has its action in the place of
what had the name, or after the element; what stands under all other names stays, and so
does everything else. -/
structure Pair.Declared (p : Pair) (d d' : Definition) : Prop where
  keys : d'.keys = d.keys ++ [[.text p.element]] ++ if [.text p.action] ∈ d.keys then [] else [[.text p.action]]
  names : d'.names = d.names ++ [.text p.element] ++ if [.text p.action] ∈ d.keys then [] else [.text p.action]
  element : d'.slot? [.text p.element] = some p.accessor
  action : d'.slot? [.text p.action] = some p.click
  others : ∀ k, k ≠ [.text p.element] → k ≠ [.text p.action] → d'.slot? k = d.slot? k
  ever : d'.everElements = d.everElements ++ [.text p.element]
  rest : { d' with table := d.table, everElements := d.everElements } = d

/-- What both entries of a pair with a new element make of a definition. -/
theorem Pair.declared (hnames : p.action ≠ p.element) (hk : [.text p.element] ∉ d.keys) :
    p.Declared d ((d.withElement p).addAction (.ofText p.action) p.body) := by
  have hfirst : (d.withElement p).table = putSlot (.text p.element) p.accessor d.table := rfl
  have hsecond : ((d.withElement p).addAction (.ofText p.action) p.body).table =
      putSlot (.text p.action) p.click (d.withElement p).table := rfl
  have hmem : [.text p.action] ∈ (d.withElement p).keys ↔ [.text p.action] ∈ d.keys := by
    simp [keys_of_put hfirst, hk, hnames]
  refine ⟨?_, ?_, ?_, ?_, ?_, rfl, rfl⟩
  · rw [keys_of_put hsecond]
    simp only [hmem]
    rw [keys_of_put hfirst, if_neg hk]
  · rw [names_of_put hsecond]
    simp only [hmem]
    rw [names_of_put hfirst, if_neg hk]
  · rw [slot?_of_put hsecond, if_neg (by simpa using hnames.symm), slot?_of_put hfirst, if_pos rfl]
  · rw [slot?_of_put hsecond, if_pos rfl]
  · intro k helement haction
    rw [slot?_of_put hsecond, if_neg haction, slot?_of_put hfirst, if_neg helement]

/-- What a pair that is declared makes of a definition. -/
theorem WellFormed.declarePair_declared (h : d.WellFormed) (hnames : p.action ≠ p.element)
    (hfault : (d.declarePair facts p).fault = none) : p.Declared d (d.declarePair facts p).definition := by
  obtain ⟨hopen, helement, haction, hk⟩ := h.declarePair_fault_eq_none_iff.mp hfault
  rw [(h.declarePair_fresh hopen helement haction hk).2]
  exact Pair.declared hnames hk

/-- A pair that is declared keeps a definition well formed. -/
theorem WellFormed.afterPair (h : d.WellFormed) (hfault : (d.declarePair facts p).fault = none) :
    (d.declarePair facts p).definition.WellFormed := by
  obtain ⟨hopen, helement, haction, hk⟩ := h.declarePair_fault_eq_none_iff.mp hfault
  rw [(h.declarePair_fresh hopen helement haction hk).2]
  exact (h.addElement _ _).addAction _ _

/-! ## Rows of pairs -/

/-- Pairs that are declared one after the other, all of them taken. -/
inductive DeclaresAll (facts : TypeFacts) : Definition → List Pair → Definition → Prop where
  | nil (d : Definition) : DeclaresAll facts d [] d
  | cons {d d' : Definition} {p : Pair} {ps : List Pair} : (d.declarePair facts p).fault = none →
      DeclaresAll facts (d.declarePair facts p).definition ps d' → DeclaresAll facts d (p :: ps) d'

/-- What a row of pairs binds names to: a name of actions to the last of them, another name
of elements to the only one; all other names keep what they had, and the names of elements
are new. -/
structure Binds (ps : List Pair) (d d' : Definition) : Prop where
  last : ∀ n p, (ps.filter fun q => q.action = n).getLast? = some p → d'.slot? [.text n] = some p.click
  only : ∀ n, (∀ q ∈ ps, q.action ≠ n) → (∃ q ∈ ps, q.element = n) →
    ∃ p, (ps.filter fun q => q.element = n) = [p] ∧ d'.slot? [.text n] = some p.accessor
  others : ∀ k, (∀ q ∈ ps, k ≠ [.text q.element] ∧ k ≠ [.text q.action]) → d'.slot? k = d.slot? k
  fresh : ∀ q ∈ ps, [.text q.element] ∉ d.keys

namespace Binds

variable {ps : List Pair} {d₁ : Definition} (h : Binds ps d₁ d') (hp : p.Declared d d₁)

include h hp

/-- After a pair both its names are in the table, so no later element has one of them. -/
theorem element_ne {q : Pair} (hq : q ∈ ps) : q.element ≠ p.element ∧ q.element ≠ p.action := by
  have hnew := h.fresh q hq
  constructor
  · intro heq
    exact hnew (mem_keys_iff.mpr (by rw [heq, hp.element]; rfl))
  · intro heq
    exact hnew (mem_keys_iff.mpr (by rw [heq, hp.action]; rfl))

/-- The action of a pair stays until a later pair has an action of that name. -/
theorem slot?_action (hno : ∀ q ∈ ps, q.action ≠ p.action) : d'.slot? [.text p.action] = some p.click := by
  rw [h.others _ fun q hq => ⟨by simpa using (h.element_ne hp hq).2.symm, by simpa using (hno q hq).symm⟩, hp.action]

/-- So does its element. -/
theorem slot?_element (hno : ∀ q ∈ ps, q.action ≠ p.element) : d'.slot? [.text p.element] = some p.accessor := by
  rw [h.others _ fun q hq => ⟨by simpa using (h.element_ne hp hq).1.symm, by simpa using (hno q hq).symm⟩, hp.element]

/-- A row that goes on after a pair. -/
theorem cons (hk : [.text p.element] ∉ d.keys) : Binds (p :: ps) d d' where
  last := by
    intro n r hr
    by_cases hn : p.action = n
    · subst hn
      rw [List.filter_cons_of_pos (by simp), List.getLast?_cons] at hr
      cases hfound : (ps.filter fun q => q.action = p.action).getLast? with
      | some q =>
        rw [hfound] at hr
        cases hr
        exact h.last _ _ hfound
      | none =>
        rw [hfound] at hr
        cases hr
        have hno := List.filter_eq_nil_iff.mp (List.getLast?_eq_none_iff.mp hfound)
        exact h.slot?_action hp fun q hq => by simpa using hno q hq
    · rw [List.filter_cons_of_neg (by simpa using hn)] at hr
      exact h.last n r hr
  only := by
    intro n hno hsome
    have hlater : ∀ q ∈ ps, q.action ≠ n := fun q hq => hno q (List.mem_cons_of_mem _ hq)
    by_cases hn : p.element = n
    · subst hn
      have hnone : (ps.filter fun q => q.element = p.element) = [] :=
        List.filter_eq_nil_iff.mpr fun q hq => by simpa using (h.element_ne hp hq).1
      exact ⟨p, by rw [List.filter_cons_of_pos (by simp), hnone], h.slot?_element hp hlater⟩
    · rw [List.filter_cons_of_neg (by simpa using hn)]
      refine h.only n hlater ?_
      obtain ⟨q, hq, hqn⟩ := hsome
      rcases List.mem_cons.mp hq with rfl | hq
      · exact absurd hqn hn
      · exact ⟨q, hq, hqn⟩
  others := by
    intro k hno
    obtain ⟨helement, haction⟩ := hno p List.mem_cons_self
    rw [h.others k fun q hq => hno q (List.mem_cons_of_mem _ hq), hp.others k helement haction]
  fresh := by
    intro q hq
    rcases List.mem_cons.mp hq with rfl | hq
    · exact hk
    · intro hold
      refine h.fresh q hq ?_
      rw [hp.keys, List.append_assoc]
      exact List.mem_append_left _ hold

end Binds

/-- What a row of pairs binds names to. -/
theorem DeclaresAll.binds {ps : List Pair} (h : DeclaresAll facts d ps d') (hd : d.WellFormed)
    (hnames : ∀ p ∈ ps, p.action ≠ p.element) : Binds ps d d' := by
  induction h with
  | nil d => exact ⟨by simp, by simp, fun _ _ => rfl, by simp⟩
  | @cons d d' p ps hfault _ ih =>
    have hp := hd.declarePair_declared (hnames p List.mem_cons_self) hfault
    have hps := ih (hd.afterPair hfault) fun q hq => hnames q (List.mem_cons_of_mem _ hq)
    exact hps.cons hp (hd.declarePair_fault_eq_none_iff.mp hfault).2.2.2

end Definition

end PageObjects
