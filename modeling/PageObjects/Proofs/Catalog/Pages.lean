import PageObjects.Proofs.Catalog.Data
import PageObjects.Proofs.PageType.Extending

/-!
# Pages that entries describe

An entry of a catalog that is in order describes a page: where to go, what to expect,
and what is bound, in the order in which it is written.  It is read as the calls that
a hook written by hand makes for that page.  An accessor that a catalog makes does what
a function does that searches and uses what it has found.

Main definitions:

- `Catalog.Accessor`: how to search, and what to do with what is found.
- `Catalog.Accessor.body`: the body of a function that does the same.
- `Catalog.PageEntry`: the page that an entry describes.
- `Catalog.PageEntry.calls`: the calls of its hook.
- `Catalog.PageKey`, `Catalog.StrategyKey`, `Catalog.KindKey`: the documented keys.
- `Catalog.Describes`: an entry describes a page.

Main results:

- Theorem `Catalog.Accessor.call_eq`: accessors do what functions do.
- Theorem `Catalog.mem_known_iff`, `Catalog.strategies_lookup_iff` and
  `Catalog.finishes_lookup_iff`: an entry is read by the documented keys.
- Theorem `Catalog.Describes.steps`: the statements of an entry are the calls of the page.
-/

namespace PageObjects.Catalog

/-! ## Accessors -/

/-- How to search for an element, and what to do with what is found. -/
inductive Accessor where
  | locate (strategy target : String) (finish : Finish)
  | property (strategy target : String) (name : Value)

namespace Accessor

/-- The accessor that a catalog makes. -/
def value : Accessor → Value
  | locate strategy target finish => .locator "<lambda>" strategy target finish
  | property strategy target name => .attributeLocator strategy target name

/-- The search of a function that is written by hand. -/
def search (strategy target : String) : Expr := .request (.find (.text strategy) (.text target))

/-- The body of a function that is written by hand. -/
def body : Accessor → Expr
  | locate strategy target .element => search strategy target
  | locate strategy target (.wrapped kind) => .wrap kind (search strategy target)
  | locate strategy target .editable => .editable (search strategy target)
  | locate strategy target .text => .get (.text "text") (search strategy target)
  | locate strategy target .click => .call (.text "click") (search strategy target) [] []
  | property strategy target name =>
    .call (.text "get_attribute") (search strategy target) [.request (.const name)] []

/-- The program of an accessor is that of the body. -/
theorem enter_eq (a : Accessor) (page : Value) :
    Prog.enter a.value [page] [] = Prog.eval { page, args := [] } a.body := by
  cases a with
  | locate strategy target finish =>
    cases finish with
    | element => exact Prog.bind_done _
    | _ => rfl
  | property strategy target name => rfl

/-- An accessor that a catalog makes does what a function does that is written by hand. -/
theorem call_eq {a : Accessor} {w : World} {id : Nat} (h : w.scene.functions[id]? = some a.body)
    (rounds depth : Nat) (page : Value) :
    callAt rounds depth a.value [page] [] w = callAt rounds depth (.function id) [page] [] w := by
  cases depth with
  | zero => rfl
  | succ depth =>
    have hfunction : Prog.run (callAt rounds depth) rounds (Prog.enter (.function id) [page] []) w =
        Prog.run (callAt rounds depth) rounds (Prog.eval { page, args := [] } a.body) w := by
      have hbody : Prog.run (callAt rounds depth) rounds (Prog.bodyOf id) w = (.ok a.body, w) := by
        rw [Prog.bodyOf, Prog.bind_eq, Prog.run_view_bind, h]
        rfl
      show Prog.run (callAt rounds depth) rounds
        ((Prog.bodyOf id).bind fun e => Prog.eval (Frame.ofArguments [page]) e) w = _
      rw [Prog.run_bind, hbody]
      rfl
    rw [callAt, callAt, hfunction, enter_eq]

end Accessor

/-! ## Pages -/

/-- The page that an entry describes. -/
structure PageEntry where
  address : Option String := none
  title : Option TitleExpectation := none
  expected : Option ElementExpectation := none
  elements : List (String × Accessor) := []
  values : List (String × Accessor) := []
  links : List String := []
  buttons : List String := []

/-- The calls of a hook that declares a page: where to go, what to expect, and what is
bound, in this order. -/
def PageEntry.calls (p : PageEntry) : List Statement :=
  p.address.toList.map (fun t => .address (.text t))
    ++ p.title.toList.map (fun t => .expectTitle t.toValue)
    ++ p.expected.toList.map (fun e => .expectElement e.name (some e.timeout))
    ++ p.elements.map (fun e => .binding "element" (.text e.1) e.2.value)
    ++ p.values.map (fun e => .binding "value" (.text e.1) e.2.value)
    ++ p.links.map (fun label => .link (.text label))
    ++ p.buttons.map (fun label => .button (.text label))

/-! ## Documented keys -/

/-- The keys of a page's entry: its base, and what its hook declares. -/
inductive PageKey : String → Prop where
  | base : PageKey "base"
  | url : PageKey "url"
  | expectedTitle : PageKey "expected_title"
  | expectedElement : PageKey "expected_element"
  | elements : PageKey "elements"
  | values : PageKey "values"
  | links : PageKey "links"
  | buttons : PageKey "buttons"

/-- The keys of the ways to search, and what drivers call these ways. -/
inductive StrategyKey : String → String → Prop where
  | id : StrategyKey "id" "id"
  | name : StrategyKey "name" "name"
  | css : StrategyKey "css" "css selector"
  | xpath : StrategyKey "xpath" "xpath"
  | linkText : StrategyKey "link_text" "link text"
  | partialLinkText : StrategyKey "partial_link_text" "partial link text"
  | className : StrategyKey "class_name" "class name"
  | tagName : StrategyKey "tag_name" "tag name"

/-- The keys of the kinds of controls, and what becomes of an element that is found: a
control of that kind, or of the kind that suits the element. -/
inductive KindKey : String → Finish → Prop where
  | textField : KindKey "text_field" (.wrapped .textField)
  | selectList : KindKey "select_list" (.wrapped .selectList)
  | checkBox : KindKey "checkbox" (.wrapped .checkBox)
  | radio : KindKey "radio" (.wrapped .radioButton)
  | auto : KindKey "auto" .editable

/-- What stands under a key of a table is an entry of it. -/
theorem mem_of_lookup {β : Type} {table : List (String × β)} {key : String} {b : β}
    (h : table.lookup key = some b) : (key, b) ∈ table := by
  obtain ⟨before, after, rfl, -⟩ := List.lookup_eq_some_iff.mp h
  exact List.mem_append_right before List.mem_cons_self

/-- The known keys are those that are documented. -/
theorem mem_known_iff {key : String} : key ∈ Entry.known ↔ PageKey key := by
  constructor
  · intro h
    simp only [Entry.known, List.mem_cons, List.not_mem_nil, or_false] at h
    rcases h with rfl | rfl | rfl | rfl | rfl | rfl | rfl | rfl <;> constructor
  · intro h
    cases h <;> simp [Entry.known]

/-- The ways to search are found under the keys that are documented. -/
theorem strategies_lookup_iff {key strategy : String} :
    Entry.strategies.lookup key = some strategy ↔ StrategyKey key strategy := by
  constructor
  · intro h
    have hmem := mem_of_lookup h
    simp only [Entry.strategies, List.mem_cons, Prod.mk.injEq, List.not_mem_nil, or_false] at hmem
    rcases hmem with ⟨rfl, rfl⟩ | ⟨rfl, rfl⟩ | ⟨rfl, rfl⟩ | ⟨rfl, rfl⟩ | ⟨rfl, rfl⟩ | ⟨rfl, rfl⟩ | ⟨rfl, rfl⟩ |
      ⟨rfl, rfl⟩ <;> constructor
  · intro h
    cases h <;> rfl

/-- The kinds of controls are found under the keys that are documented. -/
theorem finishes_lookup_iff {key : String} {finish : Finish} :
    Entry.finishes.lookup key = some finish ↔ KindKey key finish := by
  constructor
  · intro h
    have hmem := mem_of_lookup h
    simp only [Entry.finishes, List.mem_cons, Prod.mk.injEq, List.not_mem_nil, or_false] at hmem
    rcases hmem with ⟨rfl, rfl⟩ | ⟨rfl, rfl⟩ | ⟨rfl, rfl⟩ | ⟨rfl, rfl⟩ | ⟨rfl, rfl⟩ <;> constructor
  · intro h
    cases h <;> rfl

/-! ## What entries describe -/

section

variable {β : Type}

/-- A part of an entry that may be absent describes what is given, if something is. -/
def Part (raw : Value) (describes : β → Prop) : Option β → Prop
  | none => raw.isNone = true
  | some b => raw.isNone = false ∧ describes b

/-- Named parts of an entry describe all of a list, in order. -/
def Parts (s : Scene) (raw : Value) (describes : Value → Value → β → Prop) (l : List β) : Prop :=
  (s.truthy raw = false ∧ l = []) ∨
    s.truthy raw = true ∧ ∃ entries, s.entries? raw = some entries ∧
      List.Forall₂ (fun e b => describes e.1 e.2 b) entries l

/-- The items of a part of an entry describe all of a list, in order. -/
def Items (s : Scene) (raw : Value) (describes : Value → β → Prop) (l : List β) : Prop :=
  (s.truthy raw = false ∧ l = []) ∨
    s.truthy raw = true ∧ ∃ items, s.members? raw = some items ∧ List.Forall₂ describes items l

end

/-- A title is expected by its text, or by a pattern. -/
def TitleIs (s : Scene) (raw : Value) : TitleExpectation → Prop
  | .exactly title => title = raw ∧ raw.word?.isSome = true
  | .matching source =>
    raw.word? = none ∧ ∃ fields v, s.entries? raw = some fields ∧ Value.field? "pattern" fields = some v ∧
      v.word? = some source ∧ ∃ p, Pattern.compile source = .ok p

/-- A time to wait is absent, or a number. -/
def TimeoutIs (raw timeout : Value) : Prop :=
  (raw.isNone = true ∧ timeout = .none) ∨
    raw.isNone = false ∧ ∃ x, raw.toFloat = .ok x ∧ timeout = .ofFloat x

/-- An element is expected by its name, or by its name and a time. -/
def ExpectationIs (s : Scene) (raw : Value) (e : ElementExpectation) : Prop :=
  (raw.word?.isSome = true ∧ e = ⟨raw, .none⟩) ∨
    raw.word? = none ∧ ∃ fields, s.entries? raw = some fields ∧ e.name = Value.field "name" fields ∧
      e.name.word?.isSome = true ∧ TimeoutIs (Value.field "timeout" fields) e.timeout

/-- A locator has a target, and a documented strategy whose key is read in lower case. -/
def LocatorIs (s : Scene) (spec : Value) (strategy target : String) (fields : Value.Entries) : Prop :=
  s.entries? spec = some fields ∧ ∃ by_ key value,
    Value.field? "by" fields = some by_ ∧ s.text by_ = .ok key ∧
      StrategyKey (Text.lowercaseString key) strategy ∧
      Value.field? "value" fields = some value ∧ s.text value = .ok target

/-- A kind of control is absent, or one that is documented. -/
def KindIs (kind : Value) (finish : Finish) : Prop :=
  (kind.isNone = true ∧ finish = .element) ∨
    kind.isNone = false ∧ ∃ word, kind.word? = some word ∧ KindKey word finish

/-- An element has a name and a locator, and may be of a kind. -/
def ElementIs (s : Scene) (name spec : Value) (e : String × Accessor) : Prop :=
  name = .text e.1 ∧ ∃ strategy target fields finish, LocatorIs s spec strategy target fields ∧
    KindIs (Value.field "kind" fields) finish ∧ e.2 = .locate strategy target finish

/-- The accessor of a value: the text of what is found, or an attribute of it. -/
def valueAccessor (strategy target : String) (name : Value) : Accessor :=
  if name.word? = some "text" then .locate strategy target .text else .property strategy target name

/-- A value has a name and a locator, and may be of an attribute. -/
def ValueIs (s : Scene) (name spec : Value) (e : String × Accessor) : Prop :=
  name = .text e.1 ∧ ∃ strategy target fields, LocatorIs s spec strategy target fields ∧
    e.2 = valueAccessor strategy target ((Value.field? "attribute" fields).getD (.text "text"))

/-- An entry of which all parts are known and in order describes a page. -/
structure Describes (s : Scene) (entries : Value.Entries) (p : PageEntry) : Prop where
  known : ∀ e ∈ entries, ∃ key, PageKey key ∧ e.1.word? = some key
  address : Part (Value.field "url" entries) (fun t => s.text (Value.field "url" entries) = .ok t) p.address
  title : Part (Value.field "expected_title" entries) (TitleIs s (Value.field "expected_title" entries)) p.title
  expected : Part (Value.field "expected_element" entries)
    (ExpectationIs s (Value.field "expected_element" entries)) p.expected
  elements : Parts s (Value.field "elements" entries) (ElementIs s) p.elements
  values : Parts s (Value.field "values" entries) (ValueIs s) p.values
  links : Items s (Value.field "links" entries) (fun v t => s.text v = .ok t) p.links
  buttons : Items s (Value.field "buttons" entries) (fun v t => s.text v = .ok t) p.buttons

namespace Describes

variable {s : Scene} {entries : Value.Entries} {p : PageEntry} {β : Type}

/-- An entry that describes a page has no unknown keys. -/
theorem unknownKeys (h : Describes s entries p) : Entry.unknownKeys entries = .ok [] := by
  have hnone : (entries.filter fun e => !Entry.known.any fun k => e.1.word? == some k) = [] := by
    refine List.filter_eq_nil_iff.mpr fun e he => ?_
    obtain ⟨key, hkey, hword⟩ := h.known e he
    have hany : (Entry.known.any fun k => e.1.word? == some k) = true :=
      List.any_eq_true.mpr ⟨key, mem_known_iff.mpr hkey, by rw [hword]; exact beq_self_eq_true _⟩
    rw [hany]
    exact Bool.false_ne_true
  simp only [Entry.unknownKeys, hnone]
  simp

/-! ## The statements of an entry -/

theorem single_eq {key : String} {state : Value → Entry.Step} {f : β → Statement} {describes : β → Prop}
    {o : Option β} (h : Part (Value.field key entries) describes o)
    (hstate : ∀ b, describes b → state (Value.field key entries) = .ok (f b)) :
    Entry.single entries key state = (o.toList.map f).map .ok := by
  rw [Entry.single]
  cases o with
  | none =>
    have hnone : (Value.field key entries).isNone = true := h
    simp only [hnone, if_true]
    rfl
  | some b =>
    obtain ⟨hsome, hb⟩ := h
    simp only [hsome, Bool.false_eq_true, if_false, hstate b hb]
    rfl

theorem named_eq {key : String} {state : Value → Value → Entry.Step} {f : β → Statement}
    {describes : Value → Value → β → Prop} {l : List β} (h : Parts s (Value.field key entries) describes l)
    (hstate : ∀ name spec b, describes name spec b → state name spec = .ok (f b)) :
    Entry.named s entries key state = (l.map f).map .ok := by
  unfold Entry.named
  rcases h with ⟨hfalse, rfl⟩ | ⟨htrue, found, hfound, hall⟩
  · simp only [hfalse, Bool.false_eq_true, if_false]
    rfl
  · simp only [htrue, if_true, hfound]
    clear hfound
    induction hall with
    | nil => rfl
    | cons he _ ih => rw [List.map_cons, List.map_cons, List.map_cons, ih, hstate _ _ _ he]

theorem labels_eq {key : String} {state : Value → Statement} {l : List String}
    (h : Items s (Value.field key entries) (fun v t => s.text v = .ok t) l) :
    Entry.labels s entries key state = (l.map fun t => state (.text t)).map .ok := by
  unfold Entry.labels
  rcases h with ⟨hfalse, rfl⟩ | ⟨htrue, found, hfound, hall⟩
  · simp only [hfalse, Bool.false_eq_true, if_false]
    rfl
  · simp only [htrue, if_true, hfound]
    clear hfound
    induction hall with
    | nil => rfl
    | cons hv _ ih =>
      rw [List.map_cons, List.map_cons, List.map_cons, ih, hv]
      rfl

theorem expectedTitle_eq {raw : Value} {t : TitleExpectation} (h : TitleIs s raw t) :
    Entry.expectedTitle s raw = .ok (.expectTitle t.toValue) := by
  unfold Entry.expectedTitle
  cases t with
  | exactly title =>
    obtain ⟨rfl, hword⟩ := h
    rw [if_pos hword]
    rfl
  | matching source =>
    obtain ⟨hword, fields, v, hfields, hv, hsource, pattern, hpattern⟩ := h
    rw [if_neg (by rw [hword]; exact Bool.false_ne_true), hfields, Option.bind_some, hv, Option.bind_some, hsource]
    simp only [hpattern]
    rfl

theorem expectedElement_eq {raw : Value} {e : ElementExpectation} (h : ExpectationIs s raw e) :
    Entry.expectedElement s raw = .ok (.expectElement e.name (some e.timeout)) := by
  unfold Entry.expectedElement
  rcases h with ⟨hword, rfl⟩ | ⟨hword, fields, hfields, hname, hisWord, htimeout⟩
  · rw [if_pos hword]
    rfl
  · have hnotNone : (Value.field "name" fields).word?.isNone = false := by
      rw [← hname, Option.isNone_eq_false_iff]
      exact hisWord
    have hnoWord : ¬ raw.word?.isSome = true := by rw [hword]; exact Bool.false_ne_true
    rw [if_neg hnoWord, hfields]
    simp only [Option.map_some, hnotNone, Bool.false_eq_true, if_false]
    rcases htimeout with ⟨hnone, ht⟩ | ⟨hsome, x, hx, ht⟩
    · rw [if_pos hnone, hname, ht]
      rfl
    · simp only [hsome, Bool.false_eq_true, if_false, hx, hname, ht]
      rfl

theorem locator_eq {name spec : Value} {strategy target : String} {fields : Value.Entries}
    (h : LocatorIs s spec strategy target fields) :
    Entry.locator s name spec = .ok (strategy, target, fields) := by
  obtain ⟨hfields, by_, key, value, hby, hkey, hstrategy, hvalue, htarget⟩ := h
  unfold Entry.locator
  rw [hfields]
  simp only [hby, hvalue, hkey, bind, Except.bind, strategies_lookup_iff.mpr hstrategy, htarget]
  rfl

theorem finish_eq {name kind : Value} {finish : Finish} (h : KindIs kind finish) :
    Entry.finish s name kind = .ok finish := by
  unfold Entry.finish
  rcases h with ⟨hnone, rfl⟩ | ⟨hsome, word, hword, hfinish⟩
  · rw [if_pos hnone]
    rfl
  · have hhash : kind.hashable = true := Value.hashable_of_word (by rw [hword]; rfl)
    rw [if_neg (by rw [hsome]; exact Bool.false_ne_true), if_neg (by rw [hhash]; exact Bool.false_ne_true), hword]
    simp only [Option.bind_some, finishes_lookup_iff.mpr hfinish]
    rfl

theorem element_eq {name spec : Value} {e : String × Accessor} (h : ElementIs s name spec e) :
    Entry.element s name spec = .ok (.binding "element" (.text e.1) e.2.value) := by
  obtain ⟨rfl, strategy, target, fields, finish, hlocator, hkind, haccessor⟩ := h
  unfold Entry.element
  rw [locator_eq hlocator, haccessor]
  simp only [bind, Except.bind, finish_eq hkind]
  rfl

theorem value_eq {name spec : Value} {e : String × Accessor} (h : ValueIs s name spec e) :
    Entry.value s name spec = .ok (.binding "value" (.text e.1) e.2.value) := by
  obtain ⟨rfl, strategy, target, fields, hlocator, haccessor⟩ := h
  unfold Entry.value
  rw [locator_eq hlocator, haccessor, valueAccessor]
  simp only [bind, Except.bind]
  split <;> rfl

/-- The statements of an entry that describes a page are the calls of its hook. -/
theorem steps (h : Describes s entries p) : Entry.steps s entries = p.calls.map .ok := by
  have haddress : ∀ t, s.text (Value.field "url" entries) = .ok t →
      Entry.address s (Value.field "url" entries) = .ok (.address (.text t)) := by
    intro t ht
    rw [Entry.address, ht]
    rfl
  rw [Entry.steps, single_eq h.address haddress, single_eq h.title fun t ht => expectedTitle_eq ht,
    single_eq h.expected fun e he => expectedElement_eq he, named_eq h.elements fun _ _ e he => element_eq he,
    named_eq h.values fun _ _ e he => value_eq he, labels_eq h.links, labels_eq h.buttons]
  simp only [PageEntry.calls, List.map_append]

/-- An element is expected by a word. -/
theorem expected_word (h : Describes s entries p) {e : ElementExpectation} (he : p.expected = some e) :
    e.name.word?.isSome = true := by
  have hpart := h.expected
  rw [he] at hpart
  rcases hpart.2 with ⟨hword, rfl⟩ | ⟨-, fields, -, -, hword, -⟩
  · exact hword
  · exact hword

/-- The calls of a page are made by members of the root, with words for names. -/
theorem mem_calls (h : Describes s entries p) {st : Statement} (hst : st ∈ p.calls) :
    st.Known ∧ st.Worded ∧ ∀ v ∈ st.names, v.word?.isSome = true := by
  have hquiet : ∀ {st : Statement}, st.names = [] → ∀ v ∈ st.names, v.word?.isSome = true := by
    intro st hnil v hv
    rw [hnil] at hv
    cases hv
  have hnamed : ∀ {member : String} (name : String) (body : Value), member ∈ ["element", "value", "action"] →
      (Statement.binding member (.text name) body).Known ∧ (Statement.binding member (.text name) body).Worded ∧
        ∀ v ∈ (Statement.binding member (.text name) body).names, v.word?.isSome = true := by
    intro member name body hmember
    refine ⟨hmember, trivial, fun v hv => ?_⟩
    obtain rfl := List.mem_singleton.mp hv
    rfl
  simp only [PageEntry.calls, List.mem_append, List.mem_map, Option.mem_toList] at hst
  rcases hst with
    (((((⟨t, -, rfl⟩ | ⟨t, -, rfl⟩) | ⟨e, he, rfl⟩) | ⟨e, -, rfl⟩) | ⟨e, -, rfl⟩) | ⟨label, -, rfl⟩) |
      ⟨label, -, rfl⟩
  · exact ⟨trivial, trivial, hquiet rfl⟩
  · exact ⟨trivial, trivial, hquiet rfl⟩
  · exact ⟨trivial, h.expected_word he, hquiet rfl⟩
  · exact hnamed _ _ (by decide)
  · exact hnamed _ _ (by decide)
  · exact ⟨trivial, rfl, hquiet rfl⟩
  · exact ⟨trivial, rfl, hquiet rfl⟩

end Describes

end PageObjects.Catalog
