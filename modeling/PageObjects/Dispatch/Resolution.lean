import PageObjects.Dispatch.Native

/-!
# What a name stands for

The attributes of pages, types, records and definitions, read off the scene.  A
page looks a name up on itself, then along the lineage of its type, then among
the bindings of its type, and at last hands it to its driver.  A type may define
a member of its own that is asked for names that are not found.

Main definitions:

- `Resolution`: what a name comes to.
- `Scene.resolve`, `Scene.fallback`: the attributes of a page, and those that are
  not found on it or its type.
- `Scene.resolveControl`, `Scene.resolveInstance`: the attributes of controls, and
  of records and sessions.
- `Scene.typeAttribute?`, `Scene.definitionAttribute?`: the attributes of types
  and of definitions.

Main results:

- Theorem `Scene.resolve_field`: what a page keeps wins over its type.
- Theorem `Scene.fallback_binding`: a binding wins over the driver.
-/

namespace PageObjects

/-- What a name comes to: a value, the answer of a member that is asked for it,
what something gives that is to be bound to a page, the same name on something else, or
a fault. -/
inductive Resolution where
  | found (v : Value)
  | asked (getter : Value)
  | tied (thing page : Value)
  | forwarded (target : Value)
  | refused (fault : Fault)

/-- The member by which what stands in a definition is bound to a page. -/
def bindingMember : String := "bind"

/-- The member of a type that is asked for every name. -/
def everyName : String := "__getattribute__"

/-- The member of a type that is asked for names that are not found. -/
def furtherName : String := "__getattr__"

/-- The member of a type that sets fields. -/
def settingName : String := "__setattr__"

/-- Whether a hook is called for the type that declares. -/
def Hook.isOnType : Hook → Bool
  | .onType _ | .entry _ => true
  | _ => false

namespace Scene

/-! ## Members of types -/

/-- An attribute of a page type as the type itself has it. -/
def ofType (s : Scene) (v : Value) (cls : ClassRef) : Value :=
  match v with
  | .hook d => if (s.hook? d).any Hook.isOnType then .held v (.pageType cls) else v
  | v => v

/-- An attribute of a page type as its pages have it: functions get their owner. -/
def ofPage (s : Scene) (v page : Value) (cls : ClassRef) : Value :=
  match v with
  | .hook d =>
    match s.hook? d with
    | some .detached => v
    | some (.plain _) => .held v page
    | _ => .held v (.pageType cls)
  | v => v.boundTo page

/-- A member of the root of all page types. -/
def rootAttribute (s : Scene) (owner : Value) (cls : ClassRef) (name : String) : Value :=
  match name with
  | "_definition" => ((s.definitionOf? cls).map Value.definition).getD .none
  | "value" => .member owner "element"
  | "__weakref__" => .none
  | name => .member owner name

/-- What every thing that keeps fields has whatever it keeps: its fields, its type, and no
weak references. -/
def thingPart? (id : Nat) (type : Value) (name : String) : Option Value :=
  if name = "__dict__" then some (.mapping (.fields id))
  else if name = "__class__" then some type
  else if name = "__weakref__" then some .none
  else none

/-! ## Pages -/

/-- What stands under a name in the definition of a page type. -/
def slot? (s : Scene) (cls : ClassRef) (name : String) : Option Slot :=
  (s.definition? cls).bind fun d => d.slot? [.text name]

/-- What a page hands a name to, if it keeps a driver. -/
def handedOn (s : Scene) (id : Nat) : Resolution :=
  match s.field? id PageType.reservedField with
  | some browser => .forwarded browser
  | none => .refused .noSuchName

/-- The attributes of a page that neither it nor its type has: bindings, then
those of the driver. -/
def fallback (s : Scene) (page : Value) (id : Nat) (cls : ClassRef) (name : String) : Resolution :=
  if PageType.isGuarded name then .refused .noSuchName
  else
    match s.slot? cls name with
    | some (.binding b) =>
      match b.name.word? with
      | some n => .found (.bound n b.kind b.payload page)
      | none => .refused .wrongType
    | some (.stray v) => if v.isNone then s.handedOn id else .tied v page
    | none => s.handedOn id

/-- What a page has whatever it keeps, unless its type has an attribute of that name. -/
def pagePart? (s : Scene) (id : Nat) (cls : ClassRef) (name : String) : Option Value :=
  if (s.member? cls name).isSome then none else thingPart? id (.pageType cls) name

/-- The attributes of a page. -/
def resolve (s : Scene) (page : Value) (id : Nat) (cls : ClassRef) (name : String) : Resolution :=
  match s.pagePart? id cls name with
  | some part => .found part
  | none =>
    match s.field? id name with
    | some v => .found v
    | none =>
      match s.member? cls name with
      | some v => .found (s.ofPage v page cls)
      | none =>
        if PageType.isRootName name then .found (s.rootAttribute page cls name)
        else
          match s.member? cls furtherName with
          | some getter => .asked (s.ofPage getter page cls)
          | none => s.fallback page id cls name

/-! ## Page types -/

/-- The parts of a page type that belong to it as a type. -/
def typePart? (s : Scene) (cls : ClassRef) (name : String) : Option Value :=
  match name with
  | "__name__" => some (.text cls.name)
  | "__qualname__" => some (.text (s.fullName cls))
  | "__class__" => some (.systemType "type")
  | "__bases__" =>
    let bases := ((s.pageType? cls).map (·.bases)).getD []
    some (.tuple (if bases.isEmpty then [.systemType "object"] else bases.map .pageType))
  | "__base__" =>
    some (((((s.pageType? cls).map (·.bases)).getD []).head?.map Value.pageType).getD (.systemType "object"))
  | "__mro__" => some (.tuple ((s.lineage cls).map .pageType ++ [.systemType "object"]))
  | "__doc__" | "__module__" => some (((s.ownMembers cls).lookup name).getD .none)
  | "__annotations__" => some (((s.ownMembers cls).lookup name).getD (.map 2))
  | "__text_signature__" => some .none
  | "__basicsize__" => some (.int 24)
  | "__dictoffset__" => some (.int (-48))
  | "__flags__" => some (.int 22032)
  | "__itemsize__" => some (.int 0)
  | "__weakrefoffset__" => some (.int 16)
  | _ => none

/-- The attributes of a page type. -/
def typeAttribute? (s : Scene) (cls : ClassRef) (name : String) : Option Value :=
  match s.typePart? cls name with
  | some v => some v
  | none =>
    match s.member? cls name with
    | some v => some (s.ofType v cls)
    | none =>
      if PageType.isRootName name then some (s.rootAttribute (.pageType cls) cls name)
      else if PageType.typeOnlyNames.contains name then some (.member (.pageType cls) name)
      else none

/-! ## Controls -/

/-- The members that a kind of control has itself. -/
def controlMember? (owner : Value) (kind : ControlKind) (name : String) : Option Value :=
  match name with
  | "kind" => some (.text kind.word)
  | "fit" => some (.member owner "fit")
  | "assert_writable" => if kind = .textField then some (.member owner name) else none
  | "__class__" => some (.systemType kind.typeName)
  | "__module__" => (homeOf kind.typeName).map .text
  | "__doc__" => some (typeNotes kind.typeName)
  | "__weakref__" => some .none
  | name =>
    if PageType.commonNames.contains name || name == furtherName then some (.member owner name) else none

/-- The attributes of a control: its own, then those of what it wraps. -/
def resolveControl (s : Scene) (owner : Value) (id : Nat) (kind : ControlKind) (name : String) :
    Resolution :=
  match thingPart? id (.systemType kind.typeName) name with
  | some part => .found part
  | none =>
    match (s.field? id name).or (controlMember? owner kind name) with
    | some v => .found v
    | none =>
      if PageType.isGuarded name then .refused .noSuchName
      else
        match s.field? id "element" with
        | some element => .forwarded element
        | none => .refused .noSuchName

/-! ## Records and sessions -/

/-- The members of what remembers pages. -/
def pagingMember? (owner : Value) (name : String) : Option Value :=
  match name with
  | "visit" | "on" | "make" | "create" => some (.member owner name)
  | "on_page" => some (.member owner "on")
  | "current_page" => some .none
  | _ => none

/-- The members of what keeps options. -/
def optionMember? (owner : Value) (name : String) : Option Value :=
  match name with
  | "set_options" | "requires" => some (.member owner name)
  | "update_options" => some (.member owner "set_options")
  | _ => none

/-- A member of records and sessions; `kind` says whether of a plain record, if of a record at all. -/
def sharedMember? (plain : Option Bool) (owner : Value) (name : String) : Option Value :=
  let common : Option Value :=
    match name with
    | "__weakref__" | "__doc__" => some .none
    | "__module__" => some (.text "__main__")
    | name => if PageType.commonNames.contains name then some (.member owner name) else none
  match plain with
  | none => (pagingMember? owner name).or common
  | some true => (optionMember? owner name).or common
  | some false =>
    (if name == "defaults" then some (.map 1) else none).or
      ((optionMember? owner name).or ((pagingMember? owner name).or common))

/-- The types that a record type builds on, the nearest first. -/
def recordBases (plain : Bool) : List Value :=
  ((if plain then [] else ["DataObject", "Foundry"]) ++ ["DataFactory", "object"]).map .systemType

/-- The parts of a record type that belong to it as a type. -/
def recordTypePart? (cls : ClassRef) (plain : Bool) (name : String) : Option Value :=
  match name with
  | "__name__" | "__qualname__" => some (.text cls.name)
  | "__class__" => some (.systemType "type")
  | "__bases__" => some (.tuple ((recordBases plain).take 1))
  | "__base__" => (recordBases plain).head?
  | "__mro__" => some (.tuple (.recordType cls :: recordBases plain))
  | _ => none

/-- The attributes of a record type. -/
def recordTypeAttribute? (s : Scene) (cls : ClassRef) (name : String) : Option Value :=
  (s.recordType? cls).bind fun t =>
    (recordTypePart? cls t.plain name).or <|
      (t.members.lookup name).or <|
        (sharedMember? (some t.plain) (.recordType cls) name).or <|
          if PageType.typeOnlyNames.contains name then some (.member (.recordType cls) name) else none

/-- The attributes of a record or a session. -/
def resolveInstance (s : Scene) (owner : Value) (id : Nat) (type : Option ClassRef) (name : String) :
    Resolution :=
  let member (n : String) : Option Value := s.typeMember? owner n
  match if (member name).isSome then none
    else thingPart? id ((type.map Value.recordType).getD (.systemType "Session")) name with
  | some part => .found part
  | none =>
    let plain := (type.bind s.recordType?).map (·.plain)
    match (s.field? id name).or ((member name).map (·.boundTo owner)) with
    | some v => .found v
    | none =>
      match sharedMember? plain owner name, member furtherName with
      | some v, _ => .found v
      | none, some getter => .asked (getter.boundTo owner)
      | none, none => .refused .noSuchName

/-! ## Definitions and catalogs -/

/-- The members of definitions that can be called. -/
def definitionMembers : List String :=
  ["get", "element_names", "action_names", "ensure_open", "set_url", "set_expected_element",
   "set_expected_title", "add_element", "add_action", "lock", "derive"]

/-- The attributes of a definition. -/
def definitionAttribute? (s : Scene) (id : Nat) (name : String) : Option Value :=
  (s.definitions[id]?).bind fun d =>
    match name with
    | "page_name" => some d.pageName.value
    | "url" => some d.address
    | "expected_element" => some (Showing.expectationValue d.expectedElement)
    | "expected_title" => some ((d.expectedTitle.map (·.toValue)).getD .none)
    | "locked" | "_locked" => some (.bool d.locked)
    | "bindings" => some (.mapping (.bindings id))
    | "_bindings" => some (.mapping (.table id))
    | "__class__" => some (.systemType "PageDefinition")
    | "__module__" => (homeOf "PageDefinition").map .text
    | "__doc__" => some (typeNotes "PageDefinition")
    | name => if definitionMembers.contains name || PageType.commonNames.contains name then
        some (.member (.definition id) name) else none

/-- The members of catalogs that can be called. -/
def catalogMembers : List String :=
  ["read_path", "build_page", "_read_file", "_read_directory", "_load_raw", "__getitem__", "__contains__"]

/-- What a catalog announces its reading to. -/
def announcer (c : Catalog) : Value := if c.announces then .announcer else .none

/-- The attributes of a catalog. -/
def catalogAttribute? (s : Scene) (id : Nat) (name : String) : Option Value :=
  (s.catalogs[id]?).bind fun c =>
    match name with
    | "pages" => some (.mapping (.pages id))
    | "logger" => some (announcer c)
    | "__class__" => some (.systemType "PageCatalog")
    | "__module__" => (homeOf "PageCatalog").map .text
    | "__doc__" => some (typeNotes "PageCatalog")
    | "__weakref__" => some .none
    | name => if catalogMembers.contains name || PageType.commonNames.contains name then
        some (.member (.catalog id) name) else none

/-! ## Plain values -/

/-- The attributes of all other values. -/
def plainAttribute? (v : Value) (name : String) : Option Value :=
  (nativeValue? v name).or <|
    match name with
    | "__class__" => some (.systemType v.typeName)
    | "__name__" | "__qualname__" => v.callableName?.map .text
    | "__doc__" => some (typeNotes v.typeName)
    | "__module__" => if v.callableName?.isSome then some (.text "__main__") else (homeOf v.typeName).map .text
    | name =>
      if (nativeNames v).contains name || PageType.commonNames.contains name then some (.member v name)
      else none

/-! ## Small facts -/

/-- Under most names a page has nothing but what it keeps. -/
theorem pagePart?_eq_none {s : Scene} {id : Nat} {cls : ClassRef} {name : String}
    (h : thingPart? id (.pageType cls) name = none) : s.pagePart? id cls name = none := by
  simp [pagePart?, h]

/-- What a page keeps wins over its type. -/
theorem resolve_field {s : Scene} {page : Value} {id : Nat} {cls : ClassRef} {name : String} {v : Value}
    (hpart : s.pagePart? id cls name = none) (h : s.field? id name = some v) :
    s.resolve page id cls name = .found v := by
  simp [resolve, hpart, h]

/-- A binding wins over the driver. -/
theorem fallback_binding {s : Scene} {page : Value} {id : Nat} {cls : ClassRef} {name n : String}
    {b : Binding} (hg : PageType.isGuarded name = false) (hb : s.slot? cls name = some (.binding b))
    (hn : b.name.word? = some n) :
    s.fallback page id cls name = .found (.bound n b.kind b.payload page) := by
  simp [fallback, hg, hb, hn]

end Scene

end PageObjects
