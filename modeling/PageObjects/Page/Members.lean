import PageObjects.Catalog.Build
import PageObjects.Control.Fit
import PageObjects.Page.Current
import PageObjects.Record.Options

/-!
# Calling members

What the members of pages, types, controls, definitions, records, sessions and
catalogs do when they are called.

Main definitions:

- `Prog.useFound`: what a generated accessor does with the element it has found.
- `Prog.callPageMember`, `Prog.callDefinitionMember`, `Prog.callInstanceMember`: the members.
- `Prog.callOwned`: all of them, by their owner.
-/

namespace PageObjects.Prog

/-- The value of an argument that may be missing. -/
def given (v : Option Value) : Value := v.getD .none

/-- The one argument of a member. -/
def single (param : String) (args : List Value) (named : Named) : Prog Value :=
  match bindArguments [(param, true)] args named with
  | some [some v] => .done v
  | _ => raise .wrongType

/-- A member that takes no arguments. -/
def alone (args : List Value) (named : Named) (p : Prog Value) : Prog Value :=
  if args.isEmpty && named.isEmpty then p else raise .wrongType

/-- What a generated accessor does with the element it has found. -/
def useFound (finish : Finish) (found : Value) : Prog Value :=
  match finish with
  | .element => .done found
  | .wrapped kind => makeControl kind found
  | .editable => editable found
  | .text => attributeOf "text" found
  | .click => callMember found "click" []

/-! ## What all things have -/

/-- What a thing has under a name without asking further. -/
def plainlyFound : Resolution → Prog Value
  | .found v => .done v
  | .refused fault => raise fault
  | _ => raise .noSuchName

/-- The attribute of a thing under a name, as far as the thing or its type has it. -/
def ownAttribute (v : Value) (name : String) : Prog Value := do
  match v with
  | .page id cls => plainlyFound (← view fun s => s.resolve v id cls name)
  | .control id kind => plainlyFound (← view fun s => s.resolveControl v id kind name)
  | .object id type => plainlyFound (← view fun s => s.resolveInstance v id type name)
  | v => attributeOf name v

/-- The attribute of a thing under a name that the thing and its type do not have. -/
def handedAttribute (v : Value) (name : String) : Prog Value := do
  match v with
  | .page id cls => settlePage attributeOf cls name (← view fun s => s.fallback v id cls name)
  | .control id _ =>
    if PageType.isGuarded name then raise .noSuchName
    else do
      let wrapped ← ofOption .noSuchName (← view fun s => s.field? id wrappedField)
      attributeOf name wrapped
  | _ => raise .noSuchName

/-- Take a field from a thing. -/
def dropField (v : Value) (name : String) : Prog Unit := do
  let id ← ofOption .noSuchName (instanceOf? v)
  let fields ← view fun s => s.fieldsOf id
  if (fields.lookup name).isSome then op (.setFields id (fields.filter fun f => f.1 != name))
  else raise .noSuchName

/-- Call a member that all things have. -/
def callCommon (v : Value) (name : String) (args : List Value) (named : Named) : Prog Value := do
  match name, args, named with
  | "__repr__", [], [] => do pure (.text (← inspected v))
  | "__str__", [], [] | "__format__", [.text ""], [] => do pure (.text (← shown v))
  | "__getattribute__", [n], [] => do ownAttribute v (← ofOption .wrongType n.word?)
  | "__getattr__", [n], [] => do handedAttribute v (← ofOption .wrongType n.word?)
  | "__setattr__", [n, value], [] => do
    let id ← ofOption .noSuchName (instanceOf? v)
    silently (setOwnField id (← ofOption .wrongType n.word?) value)
  | "__delattr__", [n], [] => do silently (dropField v (← ofOption .wrongType n.word?))
  | _, _, _ => raise .wrongType

/-! ## Pages and page types -/

/-- The canonical name of a label. -/
def nameOfLabel (label : Value) : Prog Value :=
  match label.word? with
  | some s => .done (.text (Text.canonicalName s))
  | none => raise .noSuchName

/-- A member that needs a page: the one it was looked up on, or the first argument. -/
def onSelf (self : Option Value) (args : List Value) (use : Value → ClassRef → List Value → Prog Value) :
    Prog Value :=
  match self, args with
  | some (.page id cls), args => use (.page id cls) cls args
  | none, .page id cls :: args => use (.page id cls) cls args
  | _, _ => raise .wrongType

/-- A stage of a construction that is called by name. -/
def callStage (usual : Value → ClassRef → Prog Value) (page : Value) (cls : ClassRef)
    (args : List Value) : Prog Value :=
  if args.isEmpty then usual page cls else raise .wrongType

/-- Call a member of the root that declares something. -/
def callDeclaring (cls : ClassRef) (name : String) (args : List Value) (named : Named) : Prog Value :=
  match name with
  | "page_url" => do
    let url ← single "url" args named
    silently (declareOn cls (.address url))
  | "expected_element" =>
    match bindArguments [("element_name", true), ("timeout", false)] args named with
    | some [n, timeout] => silently (expectElement cls (given n) (given timeout))
    | _ => raise .wrongType
  | "expected_title" => do
    let title ← single "expected_title" args named
    silently (declareOn cls (.expectTitle title))
  | "element" =>
    match bindArguments [("element_name", true), ("locator", false)] args named with
    | some [n, locator] => declareOrDecorate cls .element (given n) (given locator)
    | _ => raise .wrongType
  | "action" =>
    match bindArguments [("method_name", true), ("body", false)] args named with
    | some [n, body] => declareOrDecorate cls .action (given n) (given body)
    | _ => raise .wrongType
  | "link" => do
    let label ← single "link_text" args named
    silently (declareLink cls label)
  | "button" => do
    let label ← single "button_text" args named
    silently (declareButton cls label)
  | "_check_name" =>
    match bindArguments [("name", true), ("what", true)] args named with
    | some [n, what] => checkName cls (given n) (given what)
    | _ => raise .wrongType
  | "declare" => alone args named (pure .none)
  | _ => raise .wrongType

/-- Call a member of the root that needs a page. -/
def callOnPage (self : Option Value) (name : String) (args : List Value) (named : Named) : Prog Value :=
  match name with
  | "goto" => if named.isEmpty then onSelf self args (callStage goTo) else raise .wrongType
  | "wait_for_expected_element" =>
    if named.isEmpty then onSelf self args (callStage waitForExpected) else raise .wrongType
  | "verify_expected_title" =>
    if named.isEmpty then onSelf self args (callStage verifyTitle) else raise .wrongType
  | "_resolve_accessor" =>
    onSelf self args fun page _ args => do
      let n ← single "name" args named
      resolveAccessor page (← ofOption .wrongType n.word?)
  | "__init__" =>
    onSelf self args fun page cls args => silently (setUpPageWith page cls args named)
  | name => onSelf self args fun page _ args => callCommon page name args named

/-- The lineage of a page type as a list. -/
def lineageOf (cls : ClassRef) : Prog Value := do
  let lineage ← view fun s => s.lineage cls
  newList (lineage.map .pageType ++ [.systemType "object"])

/-- The members of the root that declare something. -/
def declaringMembers : List String :=
  ["page_url", "expected_element", "expected_title", "element", "action", "link", "button", "_check_name",
   "declare"]

/-- Call a member of a page or a page type. -/
def callPageMember (self : Option Value) (cls : ClassRef) (name : String) (args : List Value)
    (named : Named) : Prog Value :=
  if declaringMembers.contains name then callDeclaring cls name args named
  else
    match name with
    | "damballa" => do nameOfLabel (← single "text" args named)
    | "page_definition" => alone args named do pure (.definition (← definitionNumber cls))
    | "mro" => alone args named (lineageOf cls)
    | name => callOnPage self name args named

/-! ## Controls -/

/-- Call a member of a control. -/
def callControlMember (id : Nat) (kind : ControlKind) (name : String) (args : List Value) (named : Named) :
    Prog Value :=
  match name with
  | "fit" => do
    let value ← single "value" args named
    silently (fitControl id kind value)
  | "assert_writable" => alone args named (silently (assertWritable id kind))
  | "__init__" => do
    let wrapped ← single "element" args named
    silently (op (.setField id wrappedField wrapped))
  | name => callCommon (.control id kind) name args named

/-! ## Definitions -/

/-- Add a binding to a definition. -/
def addBinding (definition : Nat) (kind : BindingKind) (name payload : Value) : Prog Value := do
  let label ← labelled name
  declaring (.enter definition (bindingEntry kind label payload))
  pure (.binding name kind payload)

/-- What stands under a name in a definition. -/
def slotValue (d : Definition) (name : Value) : Prog Value :=
  if name.hashable then .done (((d.slot? name.identity).map (·.toValue)).getD .none)
  else raise .wrongType

/-- Call a member of a definition. -/
def callDefinitionMember (id : Nat) (name : String) (args : List Value) (named : Named) : Prog Value := do
  let d ← ofOption .unset (← view fun s => s.definitions[id]?)
  let two (first second : String) : Prog (Value × Value) :=
    match bindArguments [(first, true), (second, true)] args named with
    | some [a, b] => .done (given a, given b)
    | _ => raise .wrongType
  match name with
  | "get" => do slotValue d (← single "name" args named)
  | "element_names" => alone args named do newList (← ofFault d.elementNames)
  | "action_names" => alone args named do newList (← ofFault d.actionNames)
  | "ensure_open" => do
    let what ← single "what" args named
    -- the text is needed only to say that nothing more may be declared
    let text ← if d.locked then formatted what else pure ""
    silently (ofFault (d.ensureOpen text))
  | "set_url" => do
    let url ← single "url" args named
    silently (declaring (.enter id (.address url)))
  | "set_expected_element" => do
    let (n, timeout) ← two "name" "timeout"
    silently (declaring (.enter id (.expectElement n timeout)))
  | "set_expected_title" => do
    let title ← single "expected" args named
    silently (declaring (.enter id (.expectTitle title)))
  | "add_element" => do
    let (n, locator) ← two "name" "locator"
    addBinding id .element n locator
  | "add_action" => do
    let (n, body) ← two "name" "body"
    addBinding id .action n body
  | "lock" => alone args named (silently (op (.lock id)))
  | "derive" => do
    let label ← labelled (← single "page_name" args named)
    let derived ← op (.derive id label)
    pure (.definition derived)
  | name => callCommon (.definition id) name args named

/-! ## Records, sessions and catalogs -/

/-- The parameter that takes the type that something is made from. -/
def madeFrom : String := "data_object_class"

/-- The type that something is made from, and the options. -/
def making (args : List Value) (named : Named) : Prog (Value × Named) :=
  match args, named.lookup madeFrom, named.lookup "self" with
  | [type], none, none => .done (type, named)
  | [], some type, none => .done (type, named.filter fun e => e.1 != madeFrom)
  | _, _, _ => raise .wrongType

/-- Whether something is a record, and a plain one. -/
def recordPlain? (type : Option ClassRef) : Prog (Option Bool) :=
  view fun s => (type.bind s.recordType?).map (·.plain)

/-- Set up a record or a session once more. -/
def setUpAgain (owner : Value) (type : Option ClassRef) (args : List Value) (named : Named) : Prog Unit := do
  match ← recordPlain? type with
  | some false => setUpRecordWith owner args named
  | _ => if args.isEmpty && named.isEmpty then pure () else raise .wrongType

/-- Call a member of a record or a session. -/
def callInstanceMember (owner : Value) (type : Option ClassRef) (name : String) (args : List Value)
    (named : Named) : Prog Value := do
  match name with
  | "on" =>
    match bindArguments [("page_class", true), ("visit", false), ("block", false)] args named with
    | some [cls, visit, block] => onPage owner (given cls) (visit.getD (.bool false)) (given block)
    | _ => raise .wrongType
  | "visit" =>
    match bindArguments [("page_class", true), ("block", false)] args named with
    | some [cls, block] => visitPage owner (given cls) (given block)
    | _ => raise .wrongType
  | "make" => do
    let (recordType, options) ← making args named
    makeRecord owner recordType options
  | "create" => do
    if (← recordPlain? type).isSome then
      alone args named (raise (.createUndefined owner.typeName))
    else
      let (recordType, options) ← making args named
      createRecord owner recordType options
  | "set_options" => do
    let options ← single "opts" args named
    silently (setOptions owner options)
  | "requires" => if named.isEmpty then silently (requireFields owner args) else raise .wrongType
  | "__init__" => silently (setUpAgain owner type args named)
  | name => callCommon owner name args named

/-- Call a member of a record type: its lineage, or what its records do. -/
def callRecordTypeMember (cls : ClassRef) (name : String) (args : List Value) (named : Named) : Prog Value := do
  match name, args with
  | "mro", [] => alone args named do
    let type ← ofOption .unset (← view fun s => s.recordType? cls)
    newList (.recordType cls :: Scene.recordBases type.plain)
  | _, .object id type :: args => callInstanceMember (.object id type) type name args named
  | _, _ => raise .wrongType

/-- Call a member of a catalog. -/
def callCatalogMember (id : Nat) (name : String) (args : List Value) (named : Named) : Prog Value :=
  match name with
  | "read_path" => do
    let built ← readPath id (← single "path" args named)
    newMap (built.map fun e => (.text e.1, .pageType e.2))
  | "build_page" =>
    match bindArguments [("name", true), ("raw", true)] args named with
    | some [n, raw] => do
      let cls ← buildPage id (given n) (given raw)
      pure (.pageType cls)
    | _ => raise .wrongType
  | "_read_file" | "_load_raw" => do
    let _ ← single "file_path" args named
    raise .noSuchName
  | "_read_directory" => do
    let _ ← single "dir_path" args named
    raise .noSuchName
  | "__getitem__" => do itemOf (.catalog id) (← single "name" args named)
  | "__contains__" => do
    let has ← containsItem (.catalog id) (← single "name" args named)
    pure (.bool has)
  | name => callCommon (.catalog id) name args named

/-- Call a member of any other value. -/
def callOther (v : Value) (name : String) (args : List Value) (named : Named) : Prog Value :=
  if (nativeNames v).contains name then callPlainMember v name args named
  else callCommon v name args named

/-- Call a member by its owner. -/
def callOwned (owner : Value) (name : String) (args : List Value) (named : Named) : Prog Value :=
  match owner with
  | .page id cls => callPageMember (some (.page id cls)) cls name args named
  | .pageType cls => callPageMember none cls name args named
  | .control id kind => callControlMember id kind name args named
  | .definition id => callDefinitionMember id name args named
  | .object id type => callInstanceMember (.object id type) type name args named
  | .recordType cls => callRecordTypeMember cls name args named
  | .catalog id => callCatalogMember id name args named
  | v => callOther v name args named

end PageObjects.Prog
