import PageObjects.Arguments
import PageObjects.Dispatch.Resolution
import PageObjects.Program.Text

/-!
# Looking names up

The attribute of a value under a name.  Elements and drivers leave a trace when
some of their attributes are read; a page that hands a name to its driver says
so; a control hands what it does not have itself to what it wraps.  A name that
is handed on for ever is a fault.

Main definitions:

- `Prog.callValue`, `Prog.callMember`: call a value, or an attribute of one.
- `Prog.attributeOf`: the attribute of a value.
- `Prog.hasAttribute`: whether there is one.
- `Prog.setAttribute`: set an attribute of what keeps fields.

Main results:

- Theorem `Prog.attributeAt_page`, `Prog.attributeOf_element` and `Prog.attributeOf_driver`: the
  attributes of pages, elements and drivers.
-/

namespace PageObjects.Prog

/-! ## Calls -/

/-- The operation that a call of a member of an element or a driver stands for. -/
def directOp? (f : Value) (args : List Value) (named : Named) : Option (Op (Except Raised Value)) :=
  match f with
  | .member (.element element) name => (ElementUse.ofCall? name args named).map fun u => .useElement element u
  | .member (.driver driver) "get" =>
    match bindArguments [("url", true)] args named with
    | some [some address] => some (.visit driver address)
    | _ => none
  | .member (.driver driver) "find_element" =>
    match bindArguments [("by", true), ("value", true)] args named with
    | some [some strategy, some target] => some (.search driver strategy target)
    | _ => none
  | _ => none

/-- Call a value.  Elements and drivers are used at once. -/
def callValue (f : Value) (args : List Value) (named : Named) : Prog Value :=
  match directOp? f args named with
  | some o => performing o
  | none => call f args named

/-! ## Attributes -/

/-- An attribute of an element. -/
def elementAttribute (element name : String) : Prog Value :=
  match name with
  | "tag_name" => performing (.useElement element .tagName)
  | "text" => performing (.useElement element .text)
  | name =>
    if ElementUse.memberNames.contains name then .done (.member (.element element) name)
    else do
      let field ← view fun s => (s.elements.lookup element).bind fun e => e.field? name
      ofOption .noSuchName (field.or (Scene.plainAttribute? (.element element) name))

/-- An attribute of a driver. -/
def driverAttribute (driver name : String) : Prog Value :=
  match name with
  | "title" => performing (.readTitle driver)
  | "get" | "find_element" => .done (.member (.driver driver) name)
  | name => do
    let own ← view fun s => (s.drivers.lookup driver).bind fun d =>
      (d.attributes.lookup name).or
        ((d.methods.lookup name).map fun _ => Value.member (.driver driver) name)
    ofOption .noSuchName (own.or (Scene.plainAttribute? (.driver driver) name))

/-- The note that a page hands a name to its driver. -/
def forwarding (pageName name : String) : Log.Entry :=
  Log.trace .dispatch "forwarding to browser" [("page", .text pageName), ("name", .text name)]

/-- What a resolution comes to; `handOn` looks the name up on something else, and `binder`
finds the member by which a thing is bound to a page. -/
def settle (handOn binder : Value → Prog Value) (name : String) : Resolution → Prog Value
  | .found v => .done v
  | .asked getter => callValue getter [.text name] []
  | .tied thing page => do callValue (← binder thing) [page] []
  | .forwarded target => handOn target
  | .refused fault => raise fault

/-- To hand a name on to the driver of a page, which is noted. -/
def forward (next : String → Value → Prog Value) (cls : ClassRef) (name : String) (target : Value) : Prog Value := do
  let pageName ← view fun s => s.fullName cls
  log (forwarding pageName name)
  next name target

/-- What a resolution of a page comes to; `next` looks names up on something else. -/
def settlePage (next : String → Value → Prog Value) (cls : ClassRef) (name : String) : Resolution → Prog Value :=
  settle (forward next cls name) (next bindingMember) name

/-- The answer of a member that is asked for every name.  Where it has none, the
name is not found on the thing or its type. -/
def intercepted (getter : Value) (name : String) (otherwise : Prog Value) : Prog Value := do
  match ← outcome (callValue getter [.text name] []) with
  | .ok v => pure v
  | .error r => if r.kind = .absentName then otherwise else .fail r

/-- The attributes of a page that neither it nor its type has. -/
def furtherAttribute (next : String → Value → Prog Value) (page : Value) (id : Nat) (cls : ClassRef) (name : String) :
    Prog Value := do
  match ← view fun s => s.member? cls furtherName with
  | some getter => callValue (← view fun s => s.ofPage getter page cls) [.text name] []
  | none => settlePage next cls name (← view fun s => s.fallback page id cls name)

/-- An attribute of a page; `next` looks names up on something else. -/
def pageAttribute (next : String → Value → Prog Value) (page : Value) (id : Nat) (cls : ClassRef) (name : String) :
    Prog Value := do
  match ← view fun s => s.member? cls everyName with
  | none => settlePage next cls name (← view fun s => s.resolve page id cls name)
  | some getter => do
    let getter ← view fun s => s.ofPage getter page cls
    intercepted getter name (furtherAttribute next page id cls name)

/-- An attribute of a record or a session. -/
def instanceAttribute (owner : Value) (id : Nat) (type : Option ClassRef) (name : String) : Prog Value := do
  match ← view fun s => s.typeMember? owner everyName with
  | none => settle .done .done name (← view fun s => s.resolveInstance owner id type name)
  | some getter =>
    intercepted (getter.boundTo owner) name do
      match ← view fun s => s.typeMember? owner furtherName with
      | some getter => callValue (getter.boundTo owner) [.text name] []
      | none => raise .noSuchName

/-- What a definition or a catalog consists of, as a new mapping. -/
def partsOf (parts : List (String × Value)) : Prog Value := do
  let i ← op (.makeCell (.map (Value.named parts)))
  pure (.map i)

/-- An attribute of what consists of named parts only. -/
def partAttribute (parts : List (String × Value)) (v : Value) (name : String) : Prog Value :=
  if name = "__dict__" then partsOf parts else ofOption .noSuchName (Scene.plainAttribute? v name)

/-- An attribute of a definition. -/
def definitionAttribute (id : Nat) (name : String) : Prog Value := do
  if name = "__dict__" then do
    let d ← ofOption .unset (← view fun s => s.definitions[id]?)
    let names ← op (.makeCell (.set d.everElements))
    partsOf (Showing.definitionParts d ++
      [("_bindings", .mapping (.table id)), ("_element_names", .set names), ("_locked", .bool d.locked)])
  else if name = "_element_names" then do
    let d ← ofOption .unset (← view fun s => s.definitions[id]?)
    pure (.set (← op (.makeCell (.set d.everElements))))
  else ofOption .noSuchName (← view fun s => s.definitionAttribute? id name)

/-- An attribute of a catalog. -/
def catalogAttribute (id : Nat) (name : String) : Prog Value := do
  if name = "__dict__" then do
    let c ← ofOption .unset (← view fun s => s.catalogs[id]?)
    partsOf [("logger", Scene.announcer c), ("pages", .mapping (.pages id))]
  else ofOption .noSuchName (← view fun s => s.catalogAttribute? id name)

/-- The attribute of a value under a name, which is handed on `depth` times at most. -/
def attributeAt : (depth : Nat) → (name : String) → Value → Prog Value
  | 0, _, _ => raise .tooDeep
  | depth + 1, name, v =>
    match v with
    | .page id cls => pageAttribute (attributeAt depth) (.page id cls) id cls name
    | .control id kind => do
      settle (attributeAt depth name) .done name
        (← view fun s => s.resolveControl (.control id kind) id kind name)
    | .element element => elementAttribute element name
    | .driver driver => driverAttribute driver name
    | .pageType cls => do ofOption .noSuchName (← view fun s => s.typeAttribute? cls name)
    | .recordType cls => do ofOption .noSuchName (← view fun s => s.recordTypeAttribute? cls name)
    | .object id type => instanceAttribute (.object id type) id type name
    | .definition id => definitionAttribute id name
    | .catalog id => catalogAttribute id name
    | .expectation n timeout => partAttribute [("name", n), ("timeout", timeout)] v name
    | .binding n kind payload => partAttribute (Showing.bindingParts n kind payload) v name
    | v => ofOption .noSuchName (Scene.plainAttribute? v name)

/-- The most times that a name is handed on. -/
def handingLimit : Nat := 999

/-- The attribute of a value under a name. -/
def attributeOf (name : String) (v : Value) : Prog Value := attributeAt (handingLimit + 1) name v

/-- Whether a value has an attribute.  Only its absence counts; any other fault goes on. -/
def hasAttribute (v : Value) (name : String) : Prog Bool := do
  match ← outcome (attributeOf name v) with
  | .ok _ => pure true
  | .error r => if r.kind = .absentName then pure false else .fail r

/-- Call an attribute with positional arguments. -/
def callMember (v : Value) (name : String) (args : List Value) : Prog Value := do
  let f ← attributeOf name v
  callValue f args []

/-- Search with what a page or a driver finds elements with. -/
def findElement (page strategy target : Value) : Prog Value :=
  callMember page "find_element" [strategy, target]

/-! ## Setting -/

/-- The fields that are texts among the entries of a mapping. -/
def fieldsAmong (entries : Value.Entries) : List (String × Value) :=
  entries.filterMap fun e => e.1.word?.map fun n => (n, e.2)

/-- Set a field of an instance, whatever its type says. -/
def setOwnField (id : Nat) (name : String) (v : Value) : Prog Unit :=
  if name = "__dict__" then do
    let entries ← ofOption .wrongType (← view fun s => s.entries? v)
    op (.setFields id (fieldsAmong entries))
  else if name = "__class__" then raise .wrongType
  else if name = "__weakref__" then raise .noSuchName
  else op (.setField id name v)

/-- The number of what keeps fields. -/
def instanceOf? : Value → Option Nat
  | .page id _ | .control id _ | .object id _ => some id
  | _ => none

/-- Set an attribute of what keeps fields; its type may have a member that does it. -/
def setAttribute (target : Value) (name : String) (v : Value) : Prog Unit := do
  match ← view fun s => s.typeMember? target settingName with
  | some setter =>
    let _ ← callValue (setter.boundTo target) [.text name, v] []
  | none => do
    let id ← ofOption .noSuchName (instanceOf? target)
    setOwnField id name v

/-! ## Small facts -/

theorem attributeAt_page (depth : Nat) (name : String) (id : Nat) (cls : ClassRef) :
    attributeAt (depth + 1) name (.page id cls) =
      pageAttribute (attributeAt depth) (.page id cls) id cls name := rfl

/-- Elements and drivers never hand a name on. -/
@[simp] theorem attributeOf_element (name element : String) :
    attributeOf name (.element element) = elementAttribute element name := rfl

@[simp] theorem attributeOf_driver (name driver : String) :
    attributeOf name (.driver driver) = driverAttribute driver name := rfl

end PageObjects.Prog
