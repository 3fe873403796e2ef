import PageObjects.Proofs.PageType.Extending

/-!
# What ends declarations

A declaration on a definition that is in order is refused for a reason that the library
has a name of its own for: the definition is locked, the name is no name, is hidden by an
attribute or declared already, or the title is no title.  So a list of statements ends
with one of the library's own faults, unless one of them cannot be made out, or gives a
name that cannot be shown.

Main results:

- Theorem `Definition.WellFormed.make_own`: a declaration ends with one of the library's
  own faults.
- Theorem `Definition.Orderly.allMade_fault`: what ends a list of statements.
- Theorem `Definition.close_fault`: what ends the statement that defines a type.
-/

namespace PageObjects

namespace Definition

variable {d : Definition}

/-- A fault that a name is refused for is one of the library's own, and a name that is
not refused is a word. -/
theorem checkName_own (facts : TypeFacts) (d : Definition) (what : String) (name : GivenName) :
    match checkName facts d what name with
    | .ok () => name.label.value.word?.isSome = true
    | .error fault => fault.kind.isOwn = true := by
  have hopen : ∀ fault, d.ensureOpen (what ++ " '" ++ name.label.text ++ "'") = .error fault →
      fault.kind.isOwn = true := by
    intro fault h
    unfold ensureOpen at h
    split at h <;> cases h
    rfl
  unfold checkName
  cases hr : d.ensureOpen (what ++ " '" ++ name.label.text ++ "'") with
  | error fault => exact hopen fault hr
  | ok _ =>
    cases hword : name.label.value.word? with
    | none => rfl
    | some s =>
      simp only
      split
      · rename_i h
        split at h
        · cases h
        · split at h
          · cases h
          · rfl
      · rename_i fault h
        split at h
        · cases h
          rfl
        · split at h
          · cases h
            rfl
          · cases h

namespace WellFormed

/-- An entry ends with one of the library's own faults, if its name may be a key. -/
theorem enter_own (h : d.WellFormed) {e : Entry}
    (hname : ∀ n v, (e = .element n v ∨ e = .action n v) → n.value.hashable = true) {fault : Fault}
    (he : d.enter e = .error fault) : fault.kind.isOwn = true := by
  unfold Definition.enter at he
  split at he
  · rename_i hopen
    unfold ensureOpen at hopen
    cases he
    split at hopen <;> cases hopen
    rfl
  · cases e with
    | address url => cases he
    | expectElement name timeout => cases he
    | expectTitle title =>
      simp only [Definition.enterOpen] at he
      split at he <;> cases he
      rfl
    | element name locator =>
      simp only [Definition.enterOpen, hname name locator (.inl rfl), if_true, h.admitsElement_eq] at he
      split at he
      · cases he
      · cases he
        rfl
      · rename_i hadmits
        cases hadmits
    | action name body =>
      simp only [Definition.enterOpen, hname name body (.inr rfl), if_true] at he
      cases he

/-- So does a declaration under a name that is checked first. -/
theorem named_own (h : d.WellFormed) (facts : TypeFacts) (what : String) (name : GivenName) {entry : Label → Entry}
    (hentry : ∀ l n v, (entry l = .element n v ∨ entry l = .action n v) → n = l) {fault : Fault}
    (he : (d.declareNamed facts what name entry).fault = some fault) : fault.kind.isOwn = true := by
  have hcheck := checkName_own facts d what name
  unfold declareNamed at he
  cases hr : checkName facts d what name with
  | error fault' =>
    rw [hr] at he hcheck
    cases he
    exact hcheck
  | ok _ =>
    rw [hr] at he hcheck
    simp only [declareEntry] at he
    cases henter : d.enter (entry name.label) with
    | error fault' =>
      rw [henter] at he
      cases he
      refine h.enter_own (fun n v hn => ?_) henter
      rw [hentry name.label n v hn]
      exact Value.hashable_of_word hcheck
    | ok d' =>
      rw [henter] at he
      cases he

/-- A declaration ends with one of the library's own faults, if a link or a button is
labelled with a word. -/
theorem make_own (h : d.WellFormed) (facts : TypeFacts) {x : Declaration}
    (hlabel : ∀ label, (x = .link label ∨ x = .button label) → label.value.word?.isSome = true) {r : Raised}
    (hr : (d.make facts x).2 = some r) : r.kind.isOwn = true := by
  obtain ⟨fault, hfault, rfl⟩ := Option.map_eq_some_iff.mp hr
  have hentry : ∀ e : Entry, (∀ n v, e ≠ .element n v ∧ e ≠ .action n v) →
      (d.declareEntry e).fault = some fault → fault.kind.isOwn = true := by
    intro e he hf
    unfold declareEntry at hf
    cases henter : d.enter e with
    | error fault' =>
      rw [henter] at hf
      cases hf
      refine h.enter_own (fun n v hn => ?_) henter
      rcases hn with hn | hn
      · exact absurd hn (he n v).1
      · exact absurd hn (he n v).2
    | ok d' =>
      rw [henter] at hf
      cases hf
  have hpair : ∀ p : Pair, (d.declarePair facts p).fault = some fault → fault.kind.isOwn = true := by
    intro p hp
    unfold declarePair Declared.andThen at hp
    split at hp
    · exact h.named_own facts "element" _ (by rintro l n v (h | h) <;> cases h; rfl) hp
    · have helement : (d.declareElement facts (.ofText p.element) p.locator).definition.WellFormed := by
        unfold declareElement declareNamed
        cases checkName facts d "element" (.ofText p.element) with
        | error fault => exact h
        | ok _ => exact h.enter _
      exact helement.named_own facts "action" _ (by rintro l n v (h | h) <;> cases h; rfl) hp
  cases x with
  | address url => exact hentry _ (by simp) hfault
  | expectElement name timeout => exact hentry _ (by simp) hfault
  | expectTitle title => exact hentry _ (by simp) hfault
  | element name locator => exact h.named_own facts "element" name (by rintro l n v (h | h) <;> cases h; rfl) hfault
  | action name body => exact h.named_own facts "action" name (by rintro l n v (h | h) <;> cases h; rfl) hfault
  | link label =>
    obtain ⟨s, hs⟩ := Option.isSome_iff_exists.mp (hlabel label (.inl rfl))
    simp only [declare, hs] at hfault
    exact hpair _ hfault
  | button label =>
    obtain ⟨s, hs⟩ := Option.isSome_iff_exists.mp (hlabel label (.inr rfl))
    simp only [declare, hs] at hfault
    exact hpair _ hfault

end WellFormed

end Definition

/-! ## Statements -/

variable {d : Definition} {reading : Reading} {usual : Value} {facts : TypeFacts}

/-- A statement ends with one of the library's own faults, or because its name cannot be
given. -/
theorem Definition.WellFormed.made_fault (h : d.WellFormed) {st : Statement} (hst : st.Worded) {r : Raised}
    (hr : (st.made reading usual facts d).2 = some r) :
    r.kind.isOwn = true ∨ ∃ v ∈ st.names, reading v = .error r := by
  have hmake : ∀ x : Declaration, (∀ label, x ≠ .link label ∧ x ≠ .button label) →
      (d.make facts x).2 = some r → r.kind.isOwn = true := by
    intro x hx hr
    refine h.make_own facts (fun label hl => ?_) hr
    rcases hl with hl | hl
    · exact absurd hl (hx label).1
    · exact absurd hl (hx label).2
  have hbinding : ∀ (kind : BindingKind) (name body : Value),
      (Statement.bindingMade reading facts d kind name body).2 = some r →
        r.kind.isOwn = true ∨ reading name = .error r := by
    intro kind name body hr
    unfold Statement.bindingMade at hr
    split at hr
    · cases hr
    · cases hread : reading name with
      | error r' =>
        rw [hread] at hr
        cases hr
        exact .inr rfl
      | ok given =>
        rw [hread] at hr
        exact .inl (hmake _ (by cases kind <;> simp [Prog.bindingDeclaration]) hr)
  have hlabelled : ∀ (label : Value) {x : Declaration}, label.word?.isSome = true →
      (∀ l, (x = .link l ∨ x = .button l) → l = label.wordLabel) →
      (Statement.labelMade facts d label x).2 = some r → r.kind.isOwn = true := by
    intro label x hword hx hr
    unfold Statement.labelMade at hr
    rw [if_pos hword] at hr
    refine h.make_own facts (fun l hl => ?_) hr
    rw [hx l hl]
    exact hword
  cases st with
  | address url => exact .inl (hmake _ (by simp) hr)
  | expectElement name timeout => exact .inl (hmake _ (by simp) hr)
  | expectTitle title => exact .inl (hmake _ (by simp) hr)
  | binding member name body =>
    exact (hbinding _ name body hr).imp id fun hread => ⟨name, List.mem_singleton_self _, hread⟩
  | decorated member name body =>
    exact (hbinding _ name body hr).imp id fun hread => ⟨name, List.mem_singleton_self _, hread⟩
  | link label => exact .inl (hlabelled label hst (by rintro l (hl | hl) <;> cases hl; rfl) hr)
  | button label => exact .inl (hlabelled label hst (by rintro l (hl | hl) <;> cases hl; rfl) hr)

/-- A list of statements ends with one of the library's own faults, or because one of
them cannot be made out, or gives a name that cannot be shown. -/
theorem Definition.Orderly.allMade_fault (h : d.Orderly) {steps : List (Except Fault Statement)}
    (hsteps : ∀ st, .ok st ∈ steps → st.Worded) {r : Raised}
    (hr : (Statement.allMade reading usual facts d steps).2 = some r) :
    r.kind.isOwn = true ∨ (∃ fault, .error fault ∈ steps ∧ r = { fault }) ∨
      ∃ st, .ok st ∈ steps ∧ ∃ v ∈ st.names, reading v = .error r := by
  induction steps generalizing d with
  | nil => cases hr
  | cons step rest ih =>
    cases step with
    | error fault =>
      cases hr
      exact .inr (.inl ⟨fault, List.mem_cons_self, rfl⟩)
    | ok st =>
      have hst : st.Worded := hsteps st List.mem_cons_self
      have hmade : (st.made reading usual facts d).1.Orderly := h.made hst
      rw [Statement.allMade] at hr
      rcases hm : st.made reading usual facts d with ⟨d', _ | r'⟩
      · rw [hm] at hr hmade
        rcases ih hmade (fun st hst => hsteps st (List.mem_cons_of_mem _ hst)) hr with
          hown | ⟨fault, hfault, rfl⟩ | ⟨st', hst', hname⟩
        · exact .inl hown
        · exact .inr (.inl ⟨fault, List.mem_cons_of_mem _ hfault, rfl⟩)
        · exact .inr (.inr ⟨st', List.mem_cons_of_mem _ hst', hname⟩)
      · rw [hm] at hr
        cases hr
        exact (h.wellFormed.made_fault hst (by rw [hm])).imp id fun hname =>
          .inr ⟨st, List.mem_cons_self, hname⟩

/-- The statement that defines a type ends with the fault that ended the hook, or with
the fault that something is missing, which is one of the library's own. -/
theorem Definition.close_fault {fullName : String} {has : String → Bool} {m : Definition × Option Raised} {r : Raised}
    (hr : (Definition.close fullName has m).2 = some r) : r.kind.isOwn = true ∨ m.2 = some r := by
  obtain ⟨d, fault⟩ := m
  cases fault with
  | some r' => exact .inr hr
  | none =>
    simp only [Definition.close] at hr
    cases hm : d.missing? fullName has with
    | none =>
      rw [hm] at hr
      cases hr
    | some r' =>
      rw [hm] at hr
      cases hr
      refine .inl ?_
      unfold Definition.missing? at hm
      split at hm
      · cases hm
      · split at hm <;> cases hm
        rfl

end PageObjects
