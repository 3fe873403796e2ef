import PageObjects.Dispatch.Attribute

/-!
# Defining page types

A page type starts from an open copy of the definition of its first base, runs
its hook, and is locked.  What it expects has to be declared or an attribute by
then.  A base may set up the types that build on it by a member of its own; such
a type has no definition beside the one that it inherits.

Main definitions:

- `Prog.declareOn`: a declaration on a page type.
- `Prog.declareBinding`, `Prog.declareOrDecorate`: an element or an action, or what
  turns a function into one.
- `Prog.statement`: a declaration by the member of the type that is named for it.
- `Draft`, `Prog.definePageType`: define a page type.
-/

namespace PageObjects

namespace Prog

/-! ## Declarations -/

/-- The number of the definition of a page type. -/
def definitionNumber (cls : ClassRef) : Prog Nat := do
  ofOption .unset (← view fun s => s.definitionOf? cls)

/-- The definition of a page type. -/
def definitionOf (cls : ClassRef) : Prog Definition := do
  let d ← view fun s => s.definition? cls
  ofOption .unset d

/-- A declaration on a page type. -/
def declareOn (cls : ClassRef) (d : Declaration) : Prog Unit := do
  let facts ← view fun s => s.facts cls
  let definition ← definitionNumber cls
  declaring (.declare definition facts d)

/-- The declaration of a named binding. -/
def bindingDeclaration (kind : BindingKind) (name : GivenName) (body : Value) : Declaration :=
  match kind with
  | .element => .element name body
  | .action => .action name body

/-- The entry of a named binding. -/
def bindingEntry (kind : BindingKind) (name : Label) (body : Value) : Definition.Entry :=
  match kind with
  | .element => .element name body
  | .action => .action name body

/-- Call the member that a page type has in the place of one of the root, or do what that one does. -/
def callTypeMember (cls : ClassRef) (name : String) (args : List Value) (usual : Prog Value) : Prog Value := do
  match ← view fun s => s.member? cls name with
  | some v => callValue (← view fun s => s.ofType v cls) args []
  | none => usual

/-- The member that checks the names of bindings. -/
def checkingMember : String := "_check_name"

/-- Declare a binding.  A type that checks names by its own means is asked. -/
def declareBinding (cls : ClassRef) (kind : BindingKind) (name body : Value) : Prog Unit := do
  if ← view fun s => s.overrides cls [checkingMember] then do
    let _ ← callTypeMember cls checkingMember [name, .text (Value.bindingWord kind)] (pure .none)
    let label ← labelled name
    declaring (.enter (← definitionNumber cls) (bindingEntry kind label body))
  else declareOn cls (bindingDeclaration kind (← givenName name) body)

/-- Declare a binding; without a body, answer with what declares one. -/
def declareOrDecorate (cls : ClassRef) (kind : BindingKind) (name body : Value) : Prog Value :=
  if body.isNone then .done (.decorator cls kind name)
  else do
    declareBinding cls kind name body
    pure body

/-- The kind of binding that a member of the root declares. -/
def kindDeclaredBy (member : String) : BindingKind := if member = "action" then .action else .element

/-- Declare a binding by a member of a page type. -/
def declareBy (cls : ClassRef) (member : String) (name body : Value) : Prog Value :=
  callTypeMember cls member [name, body] (declareOrDecorate cls (kindDeclaredBy member) name body)

/-- Declare a binding by turning a function into one. -/
def decorateBy (cls : ClassRef) (member : String) (name body : Value) : Prog Value := do
  if ← view fun s => s.overrides cls [member] then do
    let decorator ← callTypeMember cls member [name] (pure .none)
    callValue decorator [body] []
  else declareBy cls (Value.bindingWord (kindDeclaredBy member)) name body

/-- The members that declare what links and buttons stand for. -/
def pairMembers : List String := ["element", "action", checkingMember]

/-- Declare both bindings of a link or a button, one after the other. -/
def declareBoth (cls : ClassRef) (p : Definition.Pair) : Prog Unit := do
  let _ ← declareBy cls "element" (.text p.element) p.locator
  let _ ← declareBy cls "action" (.text p.action) p.body

/-- Declare a link. -/
def declareLink (cls : ClassRef) (label : Value) : Prog Unit := do
  let s ← ofOption .wrongType label.word?
  if ← view fun s => s.overrides cls pairMembers then declareBoth cls (.ofLink s)
  else declareOn cls (.link (← labelled label))

/-- Declare a button. -/
def declareButton (cls : ClassRef) (label : Value) : Prog Unit := do
  let s ← ofOption .wrongType label.word?
  let l ← labelled label
  if ← view fun s => s.overrides cls pairMembers then declareBoth cls (.ofButton s l.text)
  else declareOn cls (.button l)

/-- The expectation of an element; without a time, the usual one. -/
def expectElement (cls : ClassRef) (name timeout : Value) : Prog Unit := do
  let usual ← view fun s => s.settings.elementTimeout
  declareOn cls (.expectElement name (if timeout.isNone then usual else timeout))

/-- Check a name for a binding. -/
def checkName (cls : ClassRef) (name what : Value) : Prog Value := do
  let d ← definitionOf cls
  let facts ← view fun s => s.facts cls
  let what ← formatted what
  let given ← givenName name
  ofFault (Definition.checkName facts d what given)
  pure .none

end Prog

/-! ## Statements -/

/-- What a hook states about its page type; a binding is stated by the member of
the page type that is named for it. -/
inductive Statement where
  | address (url : Value)
  | expectElement (name : Value) (timeout : Option Value)
  | expectTitle (title : Value)
  | binding (member : String) (name body : Value)
  | decorated (member : String) (name body : Value)
  | link (label : Value)
  | button (label : Value)

namespace Prog

/-- A declaration by the member of the type that is named for it. -/
def statement (cls : ClassRef) : Statement → Prog Value
  | .address url => callTypeMember cls "page_url" [url] (silently (declareOn cls (.address url)))
  | .expectElement name timeout =>
    callTypeMember cls "expected_element" (name :: timeout.toList)
      (silently (expectElement cls name (timeout.getD .none)))
  | .expectTitle title =>
    callTypeMember cls "expected_title" [title] (silently (declareOn cls (.expectTitle title)))
  | .binding member name body => declareBy cls member name body
  | .decorated member name body => decorateBy cls member name body
  | .link label => callTypeMember cls "link" [label] (silently (declareLink cls label))
  | .button label => callTypeMember cls "button" [label] (silently (declareButton cls label))

end Prog

/-! ## Page types -/

/-- What a page type is defined from. -/
structure Draft where
  name : Value
  bases : List ClassRef
  members : List (String × Value) := []
  hook : Option Hook := none
  home : String := "__main__"

namespace Draft

/-- The member that a hook is. -/
def hookMember : String := "declare"

/-- The member that holds the definition of a page type. -/
def definitionMember : String := "_definition"

/-- The member that holds the full name of a page type. -/
def fullNameMember : String := "__qualname__"

/-- The full name of a page type, which is its name unless it is given. -/
def fullName (d : Draft) (name : String) : Except Fault String :=
  match d.members.lookup fullNameMember with
  | none => .ok name
  | some v =>
    match v.word? with
    | some s => .ok s
    | none => .error .wrongType

/-- A member, unless there is one already. -/
def withDefault (name : String) (v : Value) (members : List (String × Value)) : List (String × Value) :=
  if (members.lookup name).isSome then members else members ++ [(name, v)]

/-- All members of a page type that is defined. -/
def allMembers (d : Draft) (self : ClassRef) : List (String × Value) :=
  let given := d.members.filter fun m => m.1 != fullNameMember
  let hooked := if d.hook.isSome then Assoc.put hookMember (.hook self) given else given
  withDefault "__doc__" .none (withDefault "__module__" (.text d.home) hooked)

end Draft

namespace Prog

/-- The name of a new type. -/
def typeName (name : Value) : Except Fault String :=
  match name.word? with
  | none => .error .wrongType
  | some s =>
    if Text.Half.within s then .error (.plain .unencodable)
    else if s.contains '\x00' then .error .badTypeName
    else .ok s

/-- The lineage of a new page type, if its bases admit one. -/
def newLineage (s : Scene) (self : ClassRef) (bases : List ClassRef) : Option (List ClassRef) :=
  PageType.linearization self bases (bases.map s.lineage)

/-- What stands under the name of an expected element, if anything. -/
def expectedSlot (cls : ClassRef) (name : Value) : Prog (Option Slot) := do
  if name.hashable then do
    let slot ← view fun s => (s.definition? cls).bind fun d => d.slot? name.identity
    pure (slot.filter fun x => !x.isAbsent)
  else raise .wrongType

/-- End with a fault if a page type expects an element that it cannot have. -/
def checkExpectation (cls : ClassRef) : Prog Unit := do
  match (← view fun s => s.definition? cls).bind (·.expectedElement) with
  | none => pure ()
  | some e => do
    match ← expectedSlot cls e.name with
    | some _ => pure ()
    | none => do
      let name ← ofOption .wrongType e.name.word?
      if ← view fun s => s.hasAttribute cls name then pure ()
      else raise (.unresolvable (← view fun s => s.fullName cls) (← formatted e.name))

/-- The note that a page type has been defined. -/
def typeDefined (fullName : String) (elements actions : Nat) : Log.Entry :=
  Log.diagnostic .define "page type defined"
    [("page", .text fullName), ("elements", .text (toString elements)), ("actions", .text (toString actions))]

/-- Lock a page type. -/
def lockType (cls : ClassRef) : Prog Unit := do
  op (.lock (← definitionNumber cls))
  let d ← definitionOf cls
  let elements ← ofFault d.elementNames
  let actions ← ofFault d.actionNames
  log (typeDefined (← view fun s => s.fullName cls) elements.length actions.length)

/-- Whether a member is the hook of a page type. -/
def isHookOf (self : ClassRef) : Value → Bool
  | .hook cls => cls == self
  | _ => false

/-- Run the hook of a new page type: its own declarations, or whatever else stands for it. -/
def runOwnHook (self : ClassRef) (members : List (String × Value)) (declare : ClassRef → Prog (List Raised)) :
    Prog (List Raised) := do
  match members.lookup Draft.hookMember with
  | none | some .none => pure []
  | some v =>
    if isHookOf self v then declare self
    else do
      let _ ← callValue v [.pageType self] []
      pure []

/-- The definition that a new page type starts from. -/
def parentOf (members : List (String × Value)) (lineage : List ClassRef) : Prog Nat := do
  match members.lookup Draft.definitionMember with
  | some (.definition id) => pure id
  | some _ => raise .noSuchName
  | none => ofOption .unset (← view fun s => (lineage[1]?).bind s.definitionOf?)

/-- Set up a page type that starts from a definition, runs its hook, and is locked. -/
def setUpType (t : PageType) (self : ClassRef) (declare : ClassRef → Prog (List Raised)) :
    Prog (List Raised) := do
  let parent ← parentOf t.members t.lineage
  let definition ← op (.derive parent (.ofText t.fullName))
  let members := t.members.filter fun m => m.1 != Draft.definitionMember
  op (.addPageType { t with members, definition := some definition })
  let caught ← runOwnHook self members declare
  checkExpectation self
  lockType self
  pure caught

/-- Set up a page type by the member of a base. -/
def setUpBy (setter : Value) (t : PageType) (self : ClassRef) : Prog (List Raised) := do
  op (.addPageType t)
  let bindsType := match setter with
    | .method .. | .function _ => true
    | _ => false
  let _ ← callValue setter (if bindsType then [.pageType self] else []) []
  pure []

/-- The member by which a base sets up the types that build on it. -/
def settingUpMember : String := "__init_subclass__"

/-- Define a page type; `declare` runs its hook, and the faults that it has caught are handed on. -/
def definePageType (d : Draft) (declare : ClassRef → Prog (List Raised)) :
    Prog (ClassRef × List Raised) := do
  let name ← ofFault (typeName d.name)
  let bases := if d.bases.isEmpty then [rootType] else d.bases
  let self : ClassRef := ⟨← view fun s => s.pageTypes.length, name⟩
  let fullName ← ofFault (d.fullName name)
  let lineage ← ofOption .wrongType (← view fun s => newLineage s self bases)
  let t : PageType :=
    { name, fullName, bases, lineage, members := d.allMembers self, hook := d.hook }
  let caught ← match ← view fun s => s.inherited? lineage settingUpMember with
    | some setter => setUpBy setter t self
    | none => setUpType t self declare
  pure (self, caught)

end Prog

end PageObjects
