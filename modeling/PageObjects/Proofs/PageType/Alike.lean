import Mathlib.Data.List.Forall2
import PageObjects.Proofs.PageType.Extending

/-!
# Definitions that differ in payloads only

What a definition is told is taken or refused whatever the accessors and interactions
are that are bound.  So two statements that differ in these only, made of definitions
that differ in these only, come to definitions that differ in these only, and end with
the same fault if they end with one.

Main definitions:

- `Definition.Alike`: definitions that are equal but for payloads, which are related.
- `Statement.Alike`: statements that are equal but for a payload.

Main results:

- Theorem `Definition.Alike.made`: what a statement makes of definitions.
- Theorem `Definition.Alike.close`: what becomes of definitions after the hook.
-/

namespace PageObjects

/-- Slots that are equal but for payloads, which are related. -/
inductive Slot.Alike (P : Value → Value → Prop) : Slot → Slot → Prop where
  | binding (name : Value) (kind : BindingKind) {payload payload' : Value} :
      P payload payload' → Alike P (.binding ⟨name, kind, payload⟩) (.binding ⟨name, kind, payload'⟩)
  | stray (v : Value) : Alike P (.stray v) (.stray v)

/-- Rows that are equal but for payloads, which are related. -/
def Row.Alike (P : Value → Value → Prop) (e e' : Key × Row) : Prop :=
  e'.1 = e.1 ∧ e'.2.name = e.2.name ∧ e.2.slot.Alike P e'.2.slot

/-- Definitions that are equal but for payloads, which are related. -/
structure Definition.Alike (P : Value → Value → Prop) (d d' : Definition) : Prop where
  pageName : d'.pageName = d.pageName
  address : d'.address = d.address
  expectedElement : d'.expectedElement = d.expectedElement
  expectedTitle : d'.expectedTitle = d.expectedTitle
  table : List.Forall₂ (Row.Alike P) d.table d'.table
  everElements : d'.everElements = d.everElements
  locked : d'.locked = d.locked

/-- Entries that are equal but for a payload. -/
inductive Definition.Entry.Alike (P : Value → Value → Prop) : Entry → Entry → Prop where
  | same (e : Entry) : Alike P e e
  | element (name : Label) {body body' : Value} : P body body' → Alike P (.element name body) (.element name body')
  | action (name : Label) {body body' : Value} : P body body' → Alike P (.action name body) (.action name body')

/-- Declarations that are equal but for the payload of a binding. -/
inductive Declaration.Alike (P : Value → Value → Prop) : Declaration → Declaration → Prop where
  | same (x : Declaration) : Alike P x x
  | binding (kind : BindingKind) (name : GivenName) {body body' : Value} : P body body' →
    Alike P (Prog.bindingDeclaration kind name body) (Prog.bindingDeclaration kind name body')

/-- Statements that are equal but for the payload of a binding. -/
inductive Statement.Alike (P : Value → Value → Prop) : Statement → Statement → Prop where
  | same (st : Statement) : Alike P st st
  | binding (member : String) (name : Value) {body body' : Value} :
      P body body' → body'.isNone = body.isNone → Alike P (.binding member name body) (.binding member name body')

variable {P : Value → Value → Prop}

namespace Slot.Alike

variable {slot slot' : Slot}

theorem refl (hP : ∀ v, P v v) (slot : Slot) : slot.Alike P slot := by
  cases slot with
  | binding b => exact .binding b.name b.kind (hP b.payload)
  | stray v => exact .stray v

/-- What is alike in one way is alike in a wider one. -/
theorem mono {Q : Value → Value → Prop} (hPQ : ∀ v v', P v v' → Q v v') (h : slot.Alike P slot') :
    slot.Alike Q slot' := by
  cases h with
  | binding name kind hp => exact .binding name kind (hPQ _ _ hp)
  | stray v => exact .stray v

theorem isAbsent (h : slot.Alike P slot') : slot'.isAbsent = slot.isAbsent := by cases h <;> rfl

theorem kind? (h : slot.Alike P slot') : slot'.kind? = slot.kind? := by cases h <;> rfl

end Slot.Alike

/-- To put alike slots under one name into alike tables gives alike tables. -/
theorem Row.Alike.putSlot {t t' : List (Key × Row)} (h : List.Forall₂ (Row.Alike P) t t') (name : Value)
    {slot slot' : Slot} (hs : slot.Alike P slot') :
    List.Forall₂ (Row.Alike P) (Definition.putSlot name slot t) (Definition.putSlot name slot' t') := by
  induction h with
  | nil => exact .cons ⟨rfl, rfl, hs⟩ .nil
  | @cons e e' rest rest' he hrest ih =>
    obtain ⟨k, row⟩ := e
    obtain ⟨k', row'⟩ := e'
    obtain ⟨hk, hname, hslot⟩ := he
    obtain rfl : k' = k := hk
    unfold Definition.putSlot
    split
    · exact .cons ⟨rfl, hname, hs⟩ hrest
    · exact .cons ⟨rfl, hname, hslot⟩ ih

namespace Definition

/-- What comes of two definitions is alike: they are alike, and the faults are the same. -/
def MadeAlike (P : Value → Value → Prop) (r r' : Definition × Option Raised) : Prop :=
  r.1.Alike P r'.1 ∧ r'.2 = r.2

namespace Alike

variable {d d' : Definition}

theorem refl (hP : ∀ v, P v v) (d : Definition) : d.Alike P d where
  pageName := rfl
  address := rfl
  expectedElement := rfl
  expectedTitle := rfl
  table := by
    generalize d.table = t
    induction t with
    | nil => exact .nil
    | cons e t ih => exact .cons ⟨rfl, rfl, .refl hP _⟩ ih
  everElements := rfl
  locked := rfl

/-- Definitions that are alike in one way are alike in a wider one. -/
theorem mono {Q : Value → Value → Prop} (hPQ : ∀ v v', P v v' → Q v v') (h : d.Alike P d') : d.Alike Q d' :=
  { h with table := h.table.imp fun _ _ ⟨hkey, hname, hslot⟩ => ⟨hkey, hname, hslot.mono hPQ⟩ }

/-- What stands under a key of alike definitions is alike. -/
theorem slot? (h : d.Alike P d') (k : Key) : Option.Rel (Slot.Alike P) (d.slot? k) (d'.slot? k) := by
  have htable := h.table
  simp only [Definition.slot?]
  generalize d.table = t at htable
  generalize d'.table = t' at htable
  induction htable with
  | nil => exact .none
  | @cons e e' _ _ he _ ih =>
    obtain ⟨key, row⟩ := e
    obtain ⟨key', row'⟩ := e'
    obtain ⟨hkey, -, hslot⟩ := he
    obtain rfl : key' = key := hkey
    simp only [List.lookup_cons]
    split
    · exact .some hslot
    · exact ih

/-- Either nothing stands under a key of both, or something does. -/
theorem slot?_isSome (h : d.Alike P d') (k : Key) : (d'.slot? k).isSome = (d.slot? k).isSome := by
  have hk := h.slot? k
  cases hs : d.slot? k <;> cases hs' : d'.slot? k <;> rw [hs, hs'] at hk <;> first | rfl | cases hk

/-- Alike definitions admit the same elements. -/
theorem admitsElement (h : d.Alike P d') (k : Key) : d'.admitsElement k = d.admitsElement k := by
  have hk := h.slot? k
  have hever : d'.everElement k = d.everElement k := by simp only [Definition.everElement, h.everElements]
  simp only [Definition.admitsElement, hever]
  split
  · rfl
  · cases hs : d.slot? k with
    | none =>
      cases hs' : d'.slot? k with
      | none => rfl
      | some slot' =>
        rw [hs, hs'] at hk
        cases hk
    | some slot =>
      cases hs' : d'.slot? k with
      | none =>
        rw [hs, hs'] at hk
        cases hk
      | some slot' =>
        rw [hs, hs'] at hk
        cases hk with
        | some halike => simp only [halike.isAbsent, halike.kind?]

/-! ## What is made of alike definitions -/

theorem ensureOpen (h : d.Alike P d') (what : String) : d'.ensureOpen what = d.ensureOpen what := by
  simp only [Definition.ensureOpen, h.locked, h.pageName]

/-- A change of alike definitions under one name. -/
theorem put (h : d.Alike P d') (name : Value) {slot slot' : Slot} (hs : slot.Alike P slot') {ever ever' : List Value}
    (hever : ever' = ever) :
    ({ d with table := putSlot name slot d.table, everElements := ever } : Definition).Alike P
      { d' with table := putSlot name slot' d'.table, everElements := ever' } where
  pageName := h.pageName
  address := h.address
  expectedElement := h.expectedElement
  expectedTitle := h.expectedTitle
  table := Row.Alike.putSlot h.table name hs
  everElements := hever
  locked := h.locked

/-- An entry is taken by both of two alike definitions, which stay alike, or refused by
both for the same reason. -/
theorem enterOpen (h : d.Alike P d') (hP : ∀ v, P v v) {e e' : Entry} (he : e.Alike P e') :
    (∃ x x', d.enterOpen e = .ok x ∧ d'.enterOpen e' = .ok x' ∧ x.Alike P x') ∨
      ∃ fault, d.enterOpen e = .error fault ∧ d'.enterOpen e' = .error fault := by
  have helement : ∀ (name : Label) {body body' : Value}, P body body' →
      (∃ x x', d.enterOpen (.element name body) = .ok x ∧ d'.enterOpen (.element name body') = .ok x' ∧ x.Alike P x') ∨
        ∃ fault, d.enterOpen (.element name body) = .error fault ∧ d'.enterOpen (.element name body') = .error fault := by
    intro name body body' hbody
    simp only [Definition.enterOpen, h.admitsElement, h.pageName]
    split
    · split
      · exact .inl ⟨_, _, rfl, rfl, h.put _ (.binding _ _ hbody) (by rw [h.everElements])⟩
      · exact .inr ⟨_, rfl, rfl⟩
      · exact .inr ⟨_, rfl, rfl⟩
    · exact .inr ⟨_, rfl, rfl⟩
  have haction : ∀ (name : Label) {body body' : Value}, P body body' →
      (∃ x x', d.enterOpen (.action name body) = .ok x ∧ d'.enterOpen (.action name body') = .ok x' ∧ x.Alike P x') ∨
        ∃ fault, d.enterOpen (.action name body) = .error fault ∧ d'.enterOpen (.action name body') = .error fault := by
    intro name body body' hbody
    simp only [Definition.enterOpen]
    split
    · exact .inl ⟨_, _, rfl, rfl, h.put _ (.binding _ _ hbody) h.everElements⟩
    · exact .inr ⟨_, rfl, rfl⟩
  cases he with
  | element name hbody => exact helement name hbody
  | action name hbody => exact haction name hbody
  | same =>
    cases e with
    | address url => exact .inl ⟨_, _, rfl, rfl, { h with address := rfl }⟩
    | expectElement name timeout => exact .inl ⟨_, _, rfl, rfl, { h with expectedElement := rfl }⟩
    | expectTitle title =>
      simp only [Definition.enterOpen]
      split
      · exact .inl ⟨_, _, rfl, rfl, { h with expectedTitle := rfl }⟩
      · exact .inr ⟨_, rfl, by rw [h.pageName]⟩
    | element name locator => exact helement name (hP locator)
    | action name body => exact haction name (hP body)

end Alike

/-- What declarations come to is alike: the definitions are, and the faults are the same. -/
def DeclaredAlike (P : Value → Value → Prop) (r r' : Declared) : Prop :=
  r.definition.Alike P r'.definition ∧ r'.fault = r.fault

namespace Alike

variable {d d' : Definition} (hP : ∀ v, P v v)

include hP

/-- What an entry comes to on alike definitions is alike. -/
theorem declareEntry (h : d.Alike P d') {e e' : Entry} (he : e.Alike P e') :
    DeclaredAlike P (d.declareEntry e) (d'.declareEntry e') := by
  have hwhat : e'.what = e.what := by cases he <;> rfl
  simp only [Definition.declareEntry, enter, hwhat, h.ensureOpen]
  cases d.ensureOpen e.what with
  | error fault => exact ⟨h, rfl⟩
  | ok _ =>
    rcases h.enterOpen hP he with ⟨x, x', hx, hx', halike⟩ | ⟨fault, hx, hx'⟩
    · simp only [hx, hx']
      exact ⟨halike, rfl⟩
    · simp only [hx, hx']
      exact ⟨h, rfl⟩

/-- So is what an entry comes to under a name that is checked first. -/
theorem declareNamed (h : d.Alike P d') (facts : TypeFacts) (what : String) (name : GivenName)
    {entry entry' : Label → Entry} (he : ∀ n, (entry n).Alike P (entry' n)) :
    DeclaredAlike P (d.declareNamed facts what name entry) (d'.declareNamed facts what name entry') := by
  have hcheck : checkName facts d' what name = checkName facts d what name := by
    simp only [checkName, h.ensureOpen]
  simp only [Definition.declareNamed, hcheck]
  cases checkName facts d what name with
  | error fault => exact ⟨h, rfl⟩
  | ok _ => exact h.declareEntry hP (he _)

/-- So is what a link or a button comes to. -/
theorem declarePair (h : d.Alike P d') (facts : TypeFacts) (p : Pair) :
    DeclaredAlike P (d.declarePair facts p) (d'.declarePair facts p) := by
  have helement : DeclaredAlike P (d.declareElement facts (.ofText p.element) p.locator)
      (d'.declareElement facts (.ofText p.element) p.locator) :=
    h.declareNamed hP facts "element" _ fun _ => .same _
  unfold Definition.declarePair Declared.andThen
  rw [helement.2]
  split
  · exact helement
  · exact helement.1.declareNamed hP facts "action" _ fun _ => .same _

/-- What a declaration makes of alike definitions is alike. -/
theorem make (h : d.Alike P d') (facts : TypeFacts) {x x' : Declaration} (hx : x.Alike P x') :
    MadeAlike P (d.make facts x) (d'.make facts x') := by
  have hmade : ∀ {r r' : Declared}, DeclaredAlike P r r' →
      MadeAlike P (r.definition, r.fault.map fun fault => { fault }) (r'.definition, r'.fault.map fun fault => { fault }) :=
    fun hr => ⟨hr.1, by rw [hr.2]⟩
  refine hmade ?_
  cases hx with
  | binding kind name hbody =>
    cases kind with
    | element => exact h.declareNamed hP facts "element" name fun n => .element n hbody
    | action => exact h.declareNamed hP facts "action" name fun n => .action n hbody
  | same =>
    cases x with
    | address url => exact h.declareEntry hP (.same _)
    | expectElement name timeout => exact h.declareEntry hP (.same _)
    | expectTitle title => exact h.declareEntry hP (.same _)
    | element name locator => exact h.declareNamed hP facts "element" name fun n => .same _
    | action name body => exact h.declareNamed hP facts "action" name fun n => .same _
    | link label =>
      simp only [declare]
      split
      · exact h.declarePair hP facts _
      · exact ⟨h, rfl⟩
    | button label =>
      simp only [declare]
      split
      · exact h.declarePair hP facts _
      · exact ⟨h, rfl⟩

/-- What a statement makes of alike definitions is alike. -/
theorem made (h : d.Alike P d') (reading : Reading) (usual : Value) (facts : TypeFacts) {st st' : Statement}
    (hst : st.Alike P st') :
    MadeAlike P (st.made reading usual facts d) (st'.made reading usual facts d') := by
  have hbinding : ∀ (kind : BindingKind) (name : Value) {body body' : Value}, P body body' →
      body'.isNone = body.isNone → MadeAlike P (Statement.bindingMade reading facts d kind name body)
        (Statement.bindingMade reading facts d' kind name body') := by
    intro kind name body body' hbody hnone
    unfold Statement.bindingMade
    rw [hnone]
    split
    · exact ⟨h, rfl⟩
    · cases reading name with
      | error r => exact ⟨h, rfl⟩
      | ok given => exact h.make hP facts (.binding kind given hbody)
  have hlabel : ∀ (label : Value) (x : Declaration), MadeAlike P (Statement.labelMade facts d label x)
      (Statement.labelMade facts d' label x) := by
    intro label x
    unfold Statement.labelMade
    split
    · exact h.make hP facts (.same x)
    · exact ⟨h, rfl⟩
  cases hst with
  | binding member name hbody hnone => exact hbinding _ name hbody hnone
  | same =>
    cases st with
    | address url => exact h.make hP facts (.same _)
    | expectElement name timeout => exact h.make hP facts (.same _)
    | expectTitle title => exact h.make hP facts (.same _)
    | binding member name body => exact hbinding _ name (hP body) rfl
    | decorated member name body => exact hbinding _ name (hP body) rfl
    | link label => exact hlabel label _
    | button label => exact hlabel label _

omit hP in
/-- What becomes of alike definitions after the hook is alike. -/
theorem close {r r' : Definition × Option Raised} (h : MadeAlike P r r') (fullName : String) (has : String → Bool) :
    MadeAlike P (Definition.close fullName has r) (Definition.close fullName has r') := by
  obtain ⟨d, fault⟩ := r
  obtain ⟨d', fault'⟩ := r'
  obtain ⟨halike, hfault⟩ := h
  simp only at halike hfault
  subst hfault
  cases fault' with
  | some r => exact ⟨halike, rfl⟩
  | none =>
    have hmissing : d'.missing? fullName has = d.missing? fullName has := by
      simp only [missing?, halike.expectedElement, halike.slot?_isSome]
    simp only [Definition.close, hmissing]
    cases d.missing? fullName has with
    | some r => exact ⟨halike, rfl⟩
    | none => exact ⟨{ halike with locked := rfl }, rfl⟩

end Alike

end Definition

end PageObjects
