import PageObjects.Fault
import PageObjects.Log.Journal

/-!
# Page definitions

A page definition holds what one page type declares: where to go, what to
expect there, and a table of named bindings.  It is open while the type is
being declared and locked afterwards.

An element name may be declared once, and not under a name that an action has
taken.  An action may take over any name, and keeps its place in the table.

Names are told apart as keys are; what is not a binding can only get into the
table from outside.

Main definitions:

- `Binding`, `Slot`, `Row`: the parts of the table.
- `TitleExpectation`, `ElementExpectation`: what is expected of a page.
- `Definition`: what one page type declares.
- `Entry`: the primitive changes, with `Definition.enter`.
- `Definition.derive`: the open copy that a subtype starts from.

Main results:

- Theorem `Definition.enter_locked`: a locked definition refuses every entry.
- Theorem `Definition.enter_open`: an open definition takes an entry as it is.
- Theorem `Definition.keys_putSlot`: what is put adds its key at most once.
-/

namespace PageObjects

/-- A named accessor or interaction. -/
structure Binding where
  name : Value
  kind : BindingKind
  payload : Value

/-- The value of a binding. -/
def Binding.toValue (b : Binding) : Value := .binding b.name b.kind b.payload

/-- What stands under a name: a binding, or what was put there from outside. -/
inductive Slot where
  | binding (b : Binding)
  | stray (v : Value)

namespace Slot

/-- The value of a slot. -/
def toValue : Slot → Value
  | .binding b => b.toValue
  | .stray v => v

/-- The slot for a value. -/
def ofValue : Value → Slot
  | .binding name kind payload => .binding ⟨name, kind, payload⟩
  | v => .stray v

/-- The binding in a slot. -/
def binding? : Slot → Option Binding
  | .binding b => some b
  | .stray _ => none

/-- Whether nothing but the absent value stands in a slot. -/
def isAbsent : Slot → Bool
  | .stray v => v.isNone
  | .binding _ => false

/-- The kind of binding that a slot holds; only some values have a kind at all. -/
def kind? : Slot → Except Fault (Option BindingKind)
  | .binding b => .ok (some b.kind)
  | .stray (.control ..) => .ok none
  | .stray _ => .error .noSuchName

end Slot

/-- A row of the table: a name as it was first given, and what stands under it. -/
structure Row where
  name : Value
  slot : Slot

/-- What the title of a page has to be. -/
inductive TitleExpectation where
  | exactly (title : Value)
  | matching (pattern : String)

namespace TitleExpectation

/-- The value of an expectation. -/
def toValue : TitleExpectation → Value
  | .exactly title => title
  | .matching source => .pattern source

/-- The expectation that a value stands for. -/
def ofValue? : Value → Option TitleExpectation
  | .pattern source => some (.matching source)
  | v => if v.word?.isSome then some (.exactly v) else none

/-- Whether a title satisfies an expectation.  A pattern needs a text to search. -/
def accepts (cells : Cells) (expected : TitleExpectation) (actual : Value) : Except Fault Bool :=
  match expected with
  | .exactly title => .ok (cells.same title actual)
  | .matching source =>
    match Pattern.compile source, actual.word? with
    | .ok pattern, some s => (pattern.foundIn s).mapError Fault.ofPattern
    | .error fault, _ => .error (.ofPattern fault)
    | _, none => .error .wrongType

end TitleExpectation

/-- An expected element, and how long to wait for it. -/
structure ElementExpectation where
  name : Value
  timeout : Value

/-- What one page type declares. -/
structure Definition where
  pageName : Label
  address : Value := .none
  expectedElement : Option ElementExpectation := none
  expectedTitle : Option TitleExpectation := none
  table : List (Key × Row) := []
  everElements : List Value := []
  locked : Bool := false

namespace Definition

/-! ## Reading -/

/-- What stands under a name. -/
def slot? (d : Definition) (key : Key) : Option Slot := (d.table.lookup key).map (·.slot)

/-- The binding under a name. -/
def get? (d : Definition) (key : Key) : Option Binding := (d.slot? key).bind Slot.binding?

/-- The keys of the table, in its order. -/
def keys (d : Definition) : List Key := d.table.map (·.1)

/-- The names of the table, in its order. -/
def names (d : Definition) : List Value := d.table.map (·.2.name)

/-- The table as entries of a mapping. -/
def entries (d : Definition) : Value.Entries := d.table.map fun e => (e.2.name, e.2.slot.toValue)

/-- Whether an element was ever declared under a name. -/
def everElement (d : Definition) (key : Key) : Bool := d.everElements.any fun v => v.identity == key

/-- The names of rows that are bound to a kind, in order. -/
def namesIn (kind : BindingKind) : List (Key × Row) → Except Fault (List Value)
  | [] => .ok []
  | (_, row) :: rest => do
    let k ← row.slot.kind?
    let others ← namesIn kind rest
    return if k = some kind then row.name :: others else others

/-- The names bound to accessors. -/
def elementNames (d : Definition) : Except Fault (List Value) := namesIn .element d.table

/-- The names bound to interactions. -/
def actionNames (d : Definition) : Except Fault (List Value) := namesIn .action d.table

/-! ## Changing -/

/-- Put something under a name: in the place of the name, or at the end. -/
def putSlot (name : Value) (slot : Slot) : List (Key × Row) → List (Key × Row)
  | [] => [(name.identity, ⟨name, slot⟩)]
  | (k, row) :: rest =>
    if k = name.identity then (k, { row with slot }) :: rest else (k, row) :: putSlot name slot rest

/-- The primitive changes of a definition. -/
inductive Entry where
  | address (url : Value)
  | expectElement (name timeout : Value)
  | expectTitle (title : Value)
  | element (name : Label) (locator : Value)
  | action (name : Label) (body : Value)

/-- What an entry declares, in the words of messages. -/
def Entry.what : Entry → String
  | .address _ => "page_url"
  | .expectElement .. => "expected_element"
  | .expectTitle _ => "expected_title"
  | .element name _ => "element '" ++ name.text ++ "'"
  | .action name _ => "action '" ++ name.text ++ "'"

/-- Whether an element may be declared under a name. -/
def admitsElement (d : Definition) (key : Key) : Except Fault Bool :=
  if d.everElement key then .ok false
  else
    match d.slot? key with
    | none => .ok true
    | some slot => if slot.isAbsent then .ok true else slot.kind?.map (· != some .action)

/-- An open definition with an element under a name. -/
def addElement (d : Definition) (name : Label) (locator : Value) : Definition :=
  { d with
    table := putSlot name.value (.binding ⟨name.value, .element, locator⟩) d.table
    everElements := d.everElements ++ [name.value] }

/-- An open definition with an action under a name. -/
def addAction (d : Definition) (name : Label) (body : Value) : Definition :=
  { d with table := putSlot name.value (.binding ⟨name.value, .action, body⟩) d.table }

/-- An open definition after an entry.  What has no key cannot be a name. -/
def enterOpen (d : Definition) : Entry → Except Fault Definition
  | .address url => .ok { d with address := url }
  | .expectElement name timeout => .ok { d with expectedElement := some ⟨name, timeout⟩ }
  | .expectTitle title =>
    match TitleExpectation.ofValue? title with
    | some t => .ok { d with expectedTitle := some t }
    | none => .error (.titleNotText d.pageName.text title.typeName)
  | .element name locator =>
    if name.value.hashable then
      match d.admitsElement name.key with
      | .ok true => .ok (d.addElement name locator)
      | .ok false => .error (.duplicate name.text d.pageName.text)
      | .error fault => .error fault
    else .error .wrongType
  | .action name body => if name.value.hashable then .ok (d.addAction name body) else .error .wrongType

/-- Whether something may still be declared. -/
def ensureOpen (d : Definition) (what : String) : Except Fault Unit :=
  if d.locked then .error (.locked d.pageName.text what) else .ok ()

/-- A definition after an entry. -/
def enter (d : Definition) (e : Entry) : Except Fault Definition :=
  match d.ensureOpen e.what with
  | .error fault => .error fault
  | .ok () => d.enterOpen e

/-- The notice that an entry gives. -/
def notice? (d : Definition) : Entry → Option Log.Entry
  | .element name _ =>
    some (Log.diagnostic .define "element declared" [("page", d.pageName.logged), ("name", name.value)])
  | .action name _ =>
    let replaced : Value := if (d.slot? name.key).isSome then .bool true else .none
    some (Log.diagnostic .define "action declared"
      [("page", d.pageName.logged), ("name", name.value), ("replaced", replaced)])
  | _ => none

/-- A locked definition. -/
def lock (d : Definition) : Definition := { d with locked := true }

/-- The open copy that a subtype starts from. -/
def derive (d : Definition) (pageName : Label) : Definition :=
  { d with pageName, locked := false }

/-- A definition whose table was written to from outside. -/
def write (d : Definition) (name value : Value) : Definition :=
  { d with table := putSlot name (Slot.ofValue value) d.table }

/-! ## Small facts -/

/-- A locked definition refuses every entry. -/
theorem enter_locked {d : Definition} (h : d.locked = true) (e : Entry) :
    d.enter e = .error (.locked d.pageName.text e.what) := by
  simp [enter, ensureOpen, h]

/-- An open definition takes an entry as it is. -/
theorem enter_open {d : Definition} (h : d.locked = false) (e : Entry) :
    d.enter e = d.enterOpen e := by
  simp [enter, ensureOpen, h]

@[simp] theorem lock_locked (d : Definition) : d.lock.locked = true := rfl

@[simp] theorem derive_locked (d : Definition) (n : Label) : (d.derive n).locked = false := rfl

@[simp] theorem derive_table (d : Definition) (n : Label) : (d.derive n).table = d.table := rfl

@[simp] theorem derive_everElements (d : Definition) (n : Label) :
    (d.derive n).everElements = d.everElements := rfl

/-- What is put under a name adds the key of the name at the end unless the key is there. -/
theorem keys_putSlot (name : Value) (slot : Slot) (t : List (Key × Row)) :
    (putSlot name slot t).map (·.1) =
      if name.identity ∈ t.map (·.1) then t.map (·.1) else t.map (·.1) ++ [name.identity] := by
  induction t with
  | nil => simp [putSlot]
  | cons e rest ih =>
    obtain ⟨k, row⟩ := e
    by_cases hk : k = name.identity
    · simp [putSlot, hk]
    · have hk' : ¬ name.identity = k := fun h => hk h.symm
      by_cases hr : name.identity ∈ rest.map (·.1)
      · simp only [hr, if_true] at ih
        simp only [putSlot, hk, if_false, List.map_cons, ih, List.mem_cons, hr, or_true, if_true]
      · simp only [hr, if_false] at ih
        simp only [putSlot, hk, if_false, List.map_cons, ih, List.mem_cons, hr, or_false, hk', List.cons_append]

/-- What is found under a key after something was put. -/
theorem lookup_putSlot (name : Value) (slot : Slot) (k : Key) (t : List (Key × Row)) :
    ((putSlot name slot t).lookup k).map (·.slot) =
      if k = name.identity then some slot else (t.lookup k).map (·.slot) := by
  induction t with
  | nil =>
    by_cases h : k = name.identity
    · simp [putSlot, h]
    · have h' : (k == name.identity) = false := by simp [h]
      simp [putSlot, List.lookup_cons, h, h']
  | cons e rest ih =>
    obtain ⟨k', row⟩ := e
    by_cases hk : k' = name.identity
    · subst hk
      by_cases h : k = name.identity
      · simp [putSlot, h]
      · have h' : (k == name.identity) = false := by simp [h]
        simp [putSlot, List.lookup_cons, h, h']
    · by_cases h : k = k'
      · subst h
        simp [putSlot, hk]
      · have h' : (k == k') = false := by simp [h]
        simp only [putSlot, hk, if_false, List.lookup_cons, h', ih]

end Definition

end PageObjects
