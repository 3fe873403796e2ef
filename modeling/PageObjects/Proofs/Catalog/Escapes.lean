import PageObjects.Proofs.Catalog.Data
import PageObjects.Proofs.PageType.Extending

/-!
# Faults that escape from catalogs

What is wrong with an entry is mostly found by a check, which ends with a fault of the
catalog.  Some things are not checked, but fail when they are used: a pattern that
cannot be compiled, a time that is no number, parts that are no mappings or cannot be
gone through, keys that cannot be looked up or are no texts, a name that no type can
have, and values that cannot be shown.  Nothing else fails when an entry is read as
statements.

Main definitions:

- `FailsBy`, `Gives`: what a computation fails by, and what it comes to.
- `Scene.Within`: what a value consists of.
- `Catalog.Escape`: the faults that are not found by a check.

Main results:

- Theorem `Catalog.steps_fault`: why the statements of an entry cannot be made out.
- Theorem `Catalog.steps_statement`: what the statements of an entry are like.
-/

namespace PageObjects

/-! ## Computations that fail -/

/-- A computation that fails does so with a fault of a certain sort. -/
def FailsBy {α : Type} (P : Fault → Prop) (m : Except Fault α) : Prop := ∀ fault, m = .error fault → P fault

namespace FailsBy

variable {P : Fault → Prop} {α β : Type} {m : Except Fault α}

theorem ok (a : α) : FailsBy P (.ok a) := fun _ h => nomatch h

theorem error {fault : Fault} (h : P fault) : FailsBy P (.error fault : Except Fault α) := by
  rintro _ ⟨⟩
  exact h

/-- A computation that goes on fails as its parts do. -/
theorem bind {k : α → Except Fault β} (hm : FailsBy P m) (hk : ∀ a, m = .ok a → FailsBy P (k a)) :
    FailsBy P (m >>= k) := by
  cases m with
  | error fault => exact error (hm fault rfl)
  | ok a => exact hk a rfl

theorem map (hm : FailsBy P m) (f : α → β) : FailsBy P (m.map f) := by
  cases m with
  | error fault => exact error (hm fault rfl)
  | ok a => exact ok _

/-- What is done for each item fails as it does for some item. -/
theorem mapM {f : α → Except Fault β} {l : List α} (hf : ∀ a ∈ l, FailsBy P (f a)) : FailsBy P (l.mapM f) := by
  induction l with
  | nil => exact ok _
  | cons a l ih =>
    rw [List.mapM_cons]
    exact bind (hf a List.mem_cons_self) fun _ _ =>
      bind (ih fun b hb => hf b (List.mem_cons_of_mem _ hb)) fun _ _ => ok _

end FailsBy

/-- A computation that comes to an answer comes to one of a certain sort. -/
def Gives {α : Type} (Q : α → Prop) (m : Except Fault α) : Prop := ∀ a, m = .ok a → Q a

namespace Gives

variable {α β : Type} {Q : β → Prop}

theorem ok {b : β} (h : Q b) : Gives Q (.ok b) := by
  rintro _ ⟨⟩
  exact h

theorem error (fault : Fault) : Gives Q (.error fault) := fun _ h => nomatch h

/-- A computation that goes on comes to what its last part comes to. -/
theorem bind {m : Except Fault α} {k : α → Except Fault β} (hk : ∀ a, m = .ok a → Gives Q (k a)) :
    Gives Q (m >>= k) := by
  cases m with
  | error fault => exact error fault
  | ok a => exact hk a rfl

end Gives

/-! ## What values consist of -/

/-- What a value consists of: itself, what its members consist of, and what stands under
its keys. -/
inductive Scene.Within (s : Scene) : Value → Value → Prop where
  | self (v : Value) : Within s v v
  | member {v x u : Value} {items : List Value} : s.members? v = some items → x ∈ items → Within s x u → Within s v u
  | entry {v u : Value} {entries : Value.Entries} {e : Value × Value} :
      s.entries? v = some entries → e ∈ entries → Within s e.2 u → Within s v u

namespace Scene

variable {s : Scene} {v u : Value}

/-- A value consists of what its parts consist of. -/
theorem Within.trans {x : Value} (h : s.Within v u) (h' : s.Within u x) : s.Within v x := by
  induction h with
  | self => exact h'
  | member hitems hx _ ih => exact .member hitems hx (ih h')
  | entry hentries he _ ih => exact .entry hentries he (ih h')

/-- The members of a mapping are its keys. -/
theorem members?_of_entries? {entries : Value.Entries} (h : s.entries? v = some entries) :
    s.members? v = some (entries.map (·.1)) := by
  cases v with
  | map i => simp only [members?, Value.word?, h, Option.map_some, Option.some_or]
  | mapping place => simp only [members?, Value.word?, h, Option.map_some, Option.some_or]
  | _ => cases h

end Scene

/-- What stands under a key stands in an entry. -/
theorem Value.mem_of_field? {key : String} {entries : Value.Entries} {v : Value}
    (h : Value.field? key entries = some v) : ∃ e ∈ entries, e.2 = v := by
  obtain ⟨e, he, rfl⟩ := Option.map_eq_some_iff.mp h
  exact ⟨e, List.mem_of_find?_eq_some he, rfl⟩

namespace Catalog

open Entry

/-- A value is the name of a page or a part of its entry. -/
def Occurs (s : Scene) (name : Value) (entries : Value.Entries) (v : Value) : Prop :=
  s.Within name v ∨ ∃ e ∈ entries, s.Within e.2 v

/-- The faults that an entry is not checked for: those of a name that no type can have, a
key that is no text, a key or a kind that cannot be looked up, a pattern that cannot be
compiled, a time that is no number, parts that are no mappings or cannot be gone through,
and a value that cannot be shown. -/
inductive Escape (s : Scene) (name : Value) (entries : Value.Entries) : Fault → Prop where
  | name {fault : Fault} : Prog.typeName name = .error fault → Escape s name entries fault
  | key {e : Value × Value} : e ∈ entries → e.1.word? = none → Escape s name entries .wrongType
  | base : (Value.field "base" entries).hashable = false → Escape s name entries .wrongType
  | pattern {fields : Value.Entries} {v : Value} {source : String} {fault : Pattern.Fault} :
      s.entries? (Value.field "expected_title" entries) = some fields → Value.field? "pattern" fields = some v →
        v.word? = some source → Pattern.compile source = .error fault → Escape s name entries (.ofPattern fault)
  | timeout {fields : Value.Entries} {fault : Fault} :
      s.entries? (Value.field "expected_element" entries) = some fields →
        (Value.field "timeout" fields).toFloat = .error fault → Escape s name entries fault
  | parts {key : String} : key ∈ ["elements", "values"] → s.truthy (Value.field key entries) = true →
      s.entries? (Value.field key entries) = none → Escape s name entries .noSuchName
  | kind {parts fields : Value.Entries} {e : Value × Value} :
      s.entries? (Value.field "elements" entries) = some parts → e ∈ parts → s.entries? e.2 = some fields →
        (Value.field "kind" fields).hashable = false → Escape s name entries .wrongType
  | labels {key : String} : key ∈ ["links", "buttons"] → s.truthy (Value.field key entries) = true →
      s.members? (Value.field key entries) = none → Escape s name entries .wrongType
  | shown {v : Value} {fault : Fault} : Occurs s name entries v →
      (s.text v = .error fault ∨ s.inspect v = .error fault) → Escape s name entries fault

/-- A fault that an entry may end with: one of the library's own, or one that escapes. -/
def Allowed (s : Scene) (name : Value) (entries : Value.Entries) (fault : Fault) : Prop :=
  fault.kind.isOwn = true ∨ Escape s name entries fault

section

variable {s : Scene} {name : Value} {entries : Value.Entries}

/-! ## Parts of entries -/

namespace Occurs

variable {v : Value}

theorem trans {u : Value} (h : Occurs s name entries v) (hu : s.Within v u) : Occurs s name entries u := by
  rcases h with h | ⟨e, he, h⟩
  · exact .inl (h.trans hu)
  · exact .inr ⟨e, he, h.trans hu⟩

/-- A key of a part is a part. -/
theorem key {fields : Value.Entries} (h : Occurs s name entries v) (hv : s.entries? v = some fields)
    {e : Value × Value} (he : e ∈ fields) : Occurs s name entries e.1 :=
  h.trans (.member (Scene.members?_of_entries? hv) (List.mem_map.mpr ⟨e, he, rfl⟩) (.self _))

/-- What stands under a key of a part is a part. -/
theorem field? {fields : Value.Entries} (h : Occurs s name entries v) (hv : s.entries? v = some fields) {key : String}
    {x : Value} (hx : Value.field? key fields = some x) : Occurs s name entries x := by
  obtain ⟨e, he, rfl⟩ := Value.mem_of_field? hx
  exact h.trans (.entry hv he (.self _))

/-- So is what stands under a key, unless it is absent. -/
theorem field {fields : Value.Entries} (h : Occurs s name entries v) (hv : s.entries? v = some fields) {key : String}
    (hx : (Value.field key fields).isNone = false) : Occurs s name entries (Value.field key fields) := by
  cases hf : Value.field? key fields with
  | none =>
    rw [Value.field, hf] at hx
    cases hx
  | some x =>
    rw [Value.field, hf]
    exact h.field? hv hf

/-- What stands under a key of the entry is a part, unless it is absent. -/
theorem of_field {key : String} (hx : (Value.field key entries).isNone = false) :
    Occurs s name entries (Value.field key entries) := by
  cases hf : Value.field? key entries with
  | none =>
    rw [Value.field, hf] at hx
    cases hx
  | some x =>
    obtain ⟨e, he, rfl⟩ := Value.mem_of_field? hf
    rw [Value.field, hf]
    exact .inr ⟨e, he, .self _⟩

/-- What counts as true is not absent. -/
theorem of_truthy {key : String} (hx : s.truthy (Value.field key entries) = true) :
    Occurs s name entries (Value.field key entries) := by
  refine of_field ?_
  cases hv : Value.field key entries with
  | none =>
    rw [hv] at hx
    cases hx
  | _ => rfl

end Occurs

theorem Occurs.text {v : Value} (h : Occurs s name entries v) : FailsBy (Allowed s name entries) (s.text v) :=
  fun _ hfault => .inr (.shown h (.inl hfault))

theorem Occurs.inspect {v : Value} (h : Occurs s name entries v) : FailsBy (Allowed s name entries) (s.inspect v) :=
  fun _ hfault => .inr (.shown h (.inr hfault))

/-- A fault of the catalog is one of the library's own. -/
theorem Allowed.catalog {fault : Fault} (h : fault.kind = .catalog) : Allowed s name entries fault :=
  .inl (by rw [h]; rfl)

/-! ## Locators -/

section

variable {n spec : Value} (hname : Occurs s name entries n) (hspec : Occurs s name entries spec)

include hname hspec

/-- A locator that cannot be made out. -/
theorem locator_failsBy : FailsBy (Allowed s name entries) (locator s n spec) := by
  have hincomplete : ∀ {α : Type}, FailsBy (Allowed s name entries)
      (do .error (.incompleteLocator (← s.text n)) : Except Fault α) :=
    fun {_} => .bind hname.text fun _ _ => .error (.catalog rfl)
  unfold locator
  cases hfields : s.entries? spec with
  | none => exact hincomplete
  | some fields =>
    simp only
    split
    · rename_i strategy target hby hvalue
      refine .bind (hspec.field? hfields hby).text fun word _ => ?_
      split
      · exact .bind (hspec.field? hfields hvalue).text fun _ _ => .ok _
      · exact .bind hname.text fun _ _ => .bind (hspec.field? hfields hby).inspect fun _ _ => .error (.catalog rfl)
    · exact hincomplete

/-- A kind of control that cannot be made out. -/
theorem finish_failsBy {fields : Value.Entries} (hfields : s.entries? spec = some fields)
    (hkind : (Value.field "kind" fields).hashable = false → Escape s name entries .wrongType) :
    FailsBy (Allowed s name entries) (finish s n (Value.field "kind" fields)) := by
  unfold finish
  split
  · exact .ok _
  · rename_i hnone
    have hoccurs := hspec.field hfields (Bool.eq_false_iff.mpr hnone)
    split
    · rename_i hhash
      exact .error (.inr (hkind (by simpa using hhash)))
    · split
      · exact .ok _
      · exact .bind hname.text fun _ _ => .bind hoccurs.inspect fun _ _ => .error (.catalog rfl)

/-- An element that cannot be made out. -/
theorem element_failsBy (hkind : ∀ fields, s.entries? spec = some fields →
    (Value.field "kind" fields).hashable = false → Escape s name entries .wrongType) :
    FailsBy (Allowed s name entries) (element s n spec) := by
  unfold element
  refine .bind (locator_failsBy hname hspec) fun found hfound => ?_
  obtain ⟨strategy, target, fields⟩ := found
  have hfields := locator_fields hfound
  exact .bind (finish_failsBy hname hspec hfields (hkind fields hfields)) fun _ _ => .ok _

/-- A value that cannot be made out. -/
theorem value_failsBy : FailsBy (Allowed s name entries) (value s n spec) := by
  unfold value
  refine .bind (locator_failsBy hname hspec) fun found _ => ?_
  obtain ⟨strategy, target, fields⟩ := found
  simp only
  split <;> exact .ok _

end

/-! ## Statements -/

/-- A title that cannot be made out. -/
theorem expectedTitle_failsBy (hpresent : (Value.field "expected_title" entries).isNone = false) :
    FailsBy (Allowed s name entries) (expectedTitle s (Value.field "expected_title" entries)) := by
  unfold expectedTitle
  split
  · exact .ok _
  · split
    · rename_i source hsource
      obtain ⟨v, hv, hword⟩ := Option.bind_eq_some_iff.mp hsource
      obtain ⟨fields, hfields, hpattern⟩ := Option.bind_eq_some_iff.mp hv
      split
      · exact .ok _
      · rename_i fault hcompile
        exact .error (.inr (.pattern hfields hpattern hword hcompile))
    · exact .bind (Occurs.of_field hpresent).inspect fun _ _ => .error (.catalog rfl)

/-- An element that is expected, but cannot be made out. -/
theorem expectedElement_failsBy (hpresent : (Value.field "expected_element" entries).isNone = false) :
    FailsBy (Allowed s name entries) (expectedElement s (Value.field "expected_element" entries)) := by
  have hbad : ∀ {α : Type}, FailsBy (Allowed s name entries)
      (do .error (.badExpectation (← s.inspect (Value.field "expected_element" entries))) : Except Fault α) :=
    fun {_} => .bind (Occurs.of_field hpresent).inspect fun _ _ => .error (.catalog rfl)
  unfold expectedElement
  split
  · exact .ok _
  · cases hfields : s.entries? (Value.field "expected_element" entries) with
    | none => exact hbad
    | some fields =>
      simp only [Option.map_some]
      split
      · exact hbad
      · split
        · exact .ok _
        · exact .bind (fun fault hfault => .inr (.timeout hfields hfault)) fun _ _ => .ok _

/-- A part that may be absent, but cannot be made out. -/
theorem single_fault {key : String} {state : Value → Entry.Step} {fault : Fault}
    (h : .error fault ∈ single entries key state)
    (hstate : (Value.field key entries).isNone = false →
      FailsBy (Allowed s name entries) (state (Value.field key entries))) : Allowed s name entries fault := by
  unfold single at h
  simp only at h
  split at h
  · cases h
  · rename_i hnone
    exact hstate (Bool.eq_false_iff.mpr hnone) fault (List.mem_singleton.mp h).symm

/-- A named part that cannot be made out. -/
theorem named_fault {key : String} (hkey : key ∈ ["elements", "values"]) {state : Value → Value → Entry.Step} {fault : Fault}
    (h : .error fault ∈ named s entries key state)
    (hstate : ∀ parts, s.entries? (Value.field key entries) = some parts → ∀ e ∈ parts,
      Occurs s name entries e.1 → Occurs s name entries e.2 → FailsBy (Allowed s name entries) (state e.1 e.2)) :
    Allowed s name entries fault := by
  unfold named at h
  simp only at h
  split at h
  · rename_i htruthy
    have hpart : Occurs s name entries (Value.field key entries) := Occurs.of_truthy htruthy
    split at h
    · rename_i parts hparts
      obtain ⟨e, he, hfault⟩ := List.mem_map.mp h
      exact hstate parts hparts e he (hpart.key hparts he) (hpart.trans (.entry hparts he (.self _))) fault hfault
    · rename_i hparts
      cases List.mem_singleton.mp h
      exact .inr (.parts hkey htruthy hparts)
  · cases h

/-- A label that cannot be made out. -/
theorem labels_fault {key : String} (hkey : key ∈ ["links", "buttons"]) {state : Value → Statement} {fault : Fault}
    (h : .error fault ∈ labels s entries key state) : Allowed s name entries fault := by
  unfold labels at h
  simp only at h
  split at h
  · rename_i htruthy
    have hpart : Occurs s name entries (Value.field key entries) := Occurs.of_truthy htruthy
    split at h
    · rename_i items hitems
      obtain ⟨v, hv, hfault⟩ := List.mem_map.mp h
      exact FailsBy.map (hpart.trans (.member hitems hv (.self _))).text _ fault hfault
    · rename_i hitems
      cases List.mem_singleton.mp h
      exact .inr (.labels hkey htruthy hitems)
  · cases h

/-- A statement of an entry that cannot be made out ends with one of the library's own
faults, or with one that escapes. -/
theorem steps_fault {fault : Fault} (h : .error fault ∈ steps s entries) : Allowed s name entries fault := by
  simp only [steps, List.mem_append] at h
  rcases h with (((((h | h) | h) | h) | h) | h) | h
  · exact single_fault h fun hpresent => (Occurs.of_field hpresent).text.map _
  · exact single_fault h expectedTitle_failsBy
  · exact single_fault h expectedElement_failsBy
  · exact named_fault (by decide) h fun parts hparts e he hkey hvalue =>
      element_failsBy hkey hvalue fun fields hfields hhash => .kind hparts he hfields hhash
  · exact named_fault (by decide) h fun _ _ _ _ hkey hvalue => value_failsBy hkey hvalue
  · exact labels_fault (by decide) h
  · exact labels_fault (by decide) h

/-- A statement that is made by a member of the root, gives data out of its entry for
names, and words for labels. -/
structure Sound (s : Scene) (name : Value) (entries : Value.Entries) (st : Statement) : Prop where
  known : st.Known
  worded : st.Worded
  names : ∀ v ∈ st.names, v.isAtom = true ∧ Occurs s name entries v

theorem Sound.of_names {st : Statement} (hknown : st.Known) (hworded : st.Worded) (hnil : st.names = []) :
    Sound s name entries st where
  known := hknown
  worded := hworded
  names v hv := by
    rw [hnil] at hv
    cases hv

section

variable {n : Value} (hn : n.isAtom = true) (hoccurs : Occurs s name entries n)

include hn hoccurs

/-- A binding by a member of the root, under a name that is data, is sound. -/
theorem Sound.binding {member : String} (hmember : member ∈ ["element", "value", "action"]) (body : Value) :
    Sound s name entries (.binding member n body) where
  known := hmember
  worded := trivial
  names v hv := by
    obtain rfl := List.mem_singleton.mp hv
    exact ⟨hn, hoccurs⟩

theorem element_gives (spec : Value) : Gives (Sound s name entries) (element s n spec) :=
  .bind fun _ _ => .bind fun _ _ => .ok (.binding hn hoccurs (by decide) _)

theorem value_gives (spec : Value) : Gives (Sound s name entries) (value s n spec) := by
  unfold value
  refine .bind fun found _ => ?_
  simp only
  split <;> exact .ok (.binding hn hoccurs (by decide) _)

end

theorem expectedTitle_gives (raw : Value) : Gives (Sound s name entries) (expectedTitle s raw) := by
  have htitle : ∀ title, Sound s name entries (.expectTitle title) := fun title => .of_names trivial trivial rfl
  unfold expectedTitle
  split
  · exact .ok (htitle _)
  · split
    · split
      · exact .ok (htitle _)
      · exact .error _
    · exact .bind fun _ _ => .error _

theorem expectedElement_gives (raw : Value) : Gives (Sound s name entries) (expectedElement s raw) := by
  have hexpect : ∀ {n : Value} (timeout : Option Value), n.word?.isSome = true →
      Sound s name entries (.expectElement n timeout) :=
    fun timeout hn => .of_names trivial hn rfl
  unfold expectedElement
  split
  · rename_i hword
    exact .ok (hexpect _ hword)
  · split
    · exact .bind fun _ _ => .error _
    · split
      · exact .bind fun _ _ => .error _
      · rename_i name timeout _ hword
        have hsome : name.word?.isSome = true := by
          rwa [Bool.not_eq_true, Option.isNone_eq_false_iff] at hword
        split
        · exact .ok (hexpect _ hsome)
        · exact .bind fun _ _ => .ok (hexpect _ hsome)

theorem single_statement {key : String} {state : Value → Entry.Step} {st : Statement}
    (h : .ok st ∈ single entries key state) (hstate : ∀ raw, Gives (Sound s name entries) (state raw)) :
    Sound s name entries st := by
  unfold single at h
  simp only at h
  split at h
  · cases h
  · exact hstate _ st (List.mem_singleton.mp h).symm

theorem named_statement (hentries : s.cells.DataEntries entries) {key : String} {state : Value → Value → Entry.Step}
    {st : Statement} (h : .ok st ∈ named s entries key state)
    (hstate : ∀ {n : Value}, n.isAtom = true → Occurs s name entries n → ∀ spec,
      Gives (Sound s name entries) (state n spec)) :
    Sound s name entries st := by
  unfold named at h
  simp only at h
  split at h
  · rename_i htruthy
    split at h
    · rename_i parts hparts
      obtain ⟨e, he, hst⟩ := List.mem_map.mp h
      have hpart : Occurs s name entries (Value.field key entries) := Occurs.of_truthy htruthy
      exact hstate (Scene.dataEntries (hentries.field key) hparts e he).1 (hpart.key hparts he) _ st hst
    · cases List.mem_singleton.mp h
  · cases h

theorem labels_statement {key : String} {state : Value → Statement} {st : Statement}
    (h : .ok st ∈ labels s entries key state) (hstate : ∀ t, Sound s name entries (state (.text t))) :
    Sound s name entries st := by
  unfold labels at h
  simp only at h
  split at h
  · split at h
    · obtain ⟨v, -, hst⟩ := List.mem_map.mp h
      cases ht : s.text v with
      | error fault =>
        rw [ht] at hst
        cases hst
      | ok t =>
        rw [ht] at hst
        cases hst
        exact hstate t
    · cases List.mem_singleton.mp h
  · cases h

/-- The statements of an entry that is data are sound. -/
theorem steps_statement (hentries : s.cells.DataEntries entries) {st : Statement} (h : .ok st ∈ steps s entries) :
    Sound s name entries st := by
  have haddress : ∀ raw, Gives (Sound s name entries) (address s raw) := by
    intro raw st hst
    unfold address at hst
    cases ht : s.text raw with
    | error fault =>
      rw [ht] at hst
      cases hst
    | ok t =>
      rw [ht] at hst
      cases hst
      exact .of_names trivial trivial rfl
  simp only [steps, List.mem_append] at h
  rcases h with (((((h | h) | h) | h) | h) | h) | h
  · exact single_statement h haddress
  · exact single_statement h expectedTitle_gives
  · exact single_statement h expectedElement_gives
  · exact named_statement hentries h element_gives
  · exact named_statement hentries h value_gives
  · exact labels_statement h fun t => .of_names trivial rfl rfl
  · exact labels_statement h fun t => .of_names trivial rfl rfl

end

/-! ## The kinds of what escapes -/

/-- The kinds of the faults that escape; no fault of the catalog is among them. -/
def Escape.kinds : List FaultKind :=
  [.type, .value, .absentName, .overflow, .depth, .pattern, .system, .unencodable]

/-- A fault is of a kind that escapes. -/
def Escaping (fault : Fault) : Prop := fault.kind ∈ Escape.kinds

instance (fault : Fault) : Decidable (Escaping fault) := inferInstanceAs (Decidable (fault.kind ∈ Escape.kinds))

/-- A name that no type can have. -/
theorem typeName_failsBy (name : Value) : FailsBy Escaping (Prog.typeName name) := by
  unfold Prog.typeName
  split
  · exact .error (by decide)
  · split
    · exact .error (by decide)
    · split
      · exact .error (by decide)
      · exact .ok _

/-- A value that is no number. -/
theorem toFloat_failsBy (v : Value) : FailsBy Escaping v.toFloat := by
  have hspelled : Escaping (.notANumber v.inspectPlain) := by simp [Escaping, Escape.kinds, Fault.kind]
  unfold Value.toFloat
  simp only
  split
  · exact .ok _
  · exact .ok _
  · exact .ok _
  · split
    · exact .ok _
    · exact .error (by decide)
  · split
    · exact .ok _
    · exact .error hspelled
  · split
    · split
      · exact .ok _
      · exact .error hspelled
    · exact .error (by decide)

/-- A pattern that cannot be compiled. -/
theorem ofPattern_escaping (fault : Pattern.Fault) : Escaping (.ofPattern fault) := by
  cases fault <;> simp [Escaping, Escape.kinds, Fault.ofPattern, Fault.kind]

end Catalog

namespace Scene

variable {s : Scene} {v : Value}

open Catalog in
/-- Data that cannot be shown: it goes too deep, or has a number that is too long. -/
theorem inspectAt_failsBy (depth : Nat) (path : List Key) (h : s.cells.Data v) :
    FailsBy Escaping (s.showing.inspectAt depth path v) := by
  induction depth generalizing path v with
  | zero => exact .error (by decide)
  | succ depth ih =>
    have hlisted : ∀ (opening closing : String) (path : List Key) (items : List Value), (∀ v ∈ items, s.cells.Data v) →
        FailsBy Escaping (Showing.listed opening closing (s.showing.inspectAt depth path) items) :=
      fun opening closing path items hitems => .bind (.mapM fun v hv => ih path (hitems v hv)) fun _ _ => .ok _
    unfold Showing.inspectAt
    simp only
    cases Showing.loopText? path v with
    | some text => exact .ok _
    | none =>
      cases h with
      | atom hatom =>
        cases v with
        | int n =>
          simp only
          by_cases hlong : Decimal.tooLongToShow n = true
          · rw [if_pos hlong]
            exact .error (by decide)
          · rw [if_neg hlong]
            exact .ok _
        | _ => first | (cases hatom; done) | exact .ok _
      | list hitems => exact hlisted _ _ _ _ hitems
      | @set i hitems =>
        have hlooked : (s.showing.look fun s => s.cells.setAt i) = .ok (s.cells.setAt i) := rfl
        simp only [hlooked]
        cases hmembers : s.cells.setAt i with
        | nil => exact .ok _
        | cons v rest => exact hlisted _ _ _ _ (by rwa [hmembers] at hitems)
      | @tuple items hitems =>
        rcases items with _ | ⟨v, _ | ⟨v', rest⟩⟩
        · exact hlisted _ _ _ _ hitems
        · exact .bind (ih _ (hitems v List.mem_cons_self)) fun _ _ => .ok _
        · exact hlisted _ _ _ _ hitems
      | @map i hkeys hentries =>
        have hentry : ∀ path, ∀ e ∈ s.cells.mapAt i,
            FailsBy Escaping (Showing.entry (s.showing.inspectAt depth path) e) := fun path e he =>
          .bind (ih _ (.atom (hkeys e he))) fun _ _ => .bind (ih _ (hentries e he)) fun _ _ => .ok _
        have hmapping : ∀ path, FailsBy Escaping (Showing.mapping (s.showing.inspectAt depth path) (s.cells.mapAt i)) :=
          fun path => .bind (.mapM (hentry path)) fun _ _ => .ok _
        exact hmapping _

/-- How data fails to be shown. -/
theorem shown_escaping (h : s.cells.Data v) {fault : Fault} (hfault : s.text v = .error fault ∨ s.inspect v = .error fault) :
    Catalog.Escaping fault := by
  have hinspect : FailsBy Catalog.Escaping (s.inspect v) := inspectAt_failsBy _ _ h
  rcases hfault with htext | hshown
  · unfold text Showing.text at htext
    split at htext
    · cases htext
    · cases h with
      | atom hatom => cases v <;> first | (cases hatom; done) | exact hinspect fault htext
      | list _ => exact hinspect fault htext
      | set _ => exact hinspect fault htext
      | tuple _ => exact hinspect fault htext
      | map _ _ => exact hinspect fault htext
  · exact hinspect fault hshown

/-- What data consists of is data. -/
theorem Within.data {u : Value} (h : s.Within v u) (hv : s.cells.Data v) : s.cells.Data u := by
  induction h with
  | self => exact hv
  | member hitems hx _ ih => exact ih (data_of_members? hv hitems _ hx)
  | entry hentries he _ ih => exact ih (dataEntries hv hentries _ he).2

end Scene

/-- What escapes from an entry that is data is of a kind that escapes. -/
theorem Catalog.Escape.escaping {s : Scene} {name : Value} {entries : Value.Entries} {fault : Fault}
    (h : Escape s name entries fault) (hname : s.cells.Data name) (hentries : s.cells.DataEntries entries) :
    Escaping fault := by
  cases h with
  | name h => exact typeName_failsBy name _ h
  | pattern _ _ _ _ => exact ofPattern_escaping _
  | timeout _ h => exact toFloat_failsBy _ _ h
  | shown hoccurs hfault =>
    refine Scene.shown_escaping ?_ hfault
    rcases hoccurs with h | ⟨e, he, h⟩
    · exact h.data hname
    · exact h.data (hentries e he).2
  | _ => decide

end PageObjects
