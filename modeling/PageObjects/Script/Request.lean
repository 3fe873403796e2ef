import PageObjects.Page.Members
import PageObjects.Script.Logging

/-!
# Requests

The answers to what scripts ask for without evaluating other expressions first.

Main definitions:

- `Prog.readVariable`, `Prog.typeIn`: what variables hold.
- `Prog.newSession`, `Prog.newCatalog`, `Prog.constructFrom`: what scripts make.
- `Prog.request`: the answer to a request.
-/

namespace PageObjects.Prog

/-! ## Variables -/

/-- What a variable holds. -/
def readVariable (name : String) : Prog Value := do
  ofExcept (← view fun s => s.readVariable name)

/-- The page type that a variable holds. -/
def typeIn (name : String) : Prog ClassRef := do
  match ← readVariable name with
  | .pageType cls => pure cls
  | _ => raise .wrongType

/-- The page types that variables hold, in order. -/
def typesIn : List String → Prog (List ClassRef)
  | [] => .done []
  | v :: rest => do
    let cls ← typeIn v
    let others ← typesIn rest
    pure (cls :: others)

/-- The catalog that a variable holds. -/
def catalogIn (name : String) : Prog Nat := do
  match ← readVariable name with
  | .catalog id => pure id
  | _ => raise .noSuchName

/-- The pattern of a source. -/
def patternOf (source : Value) : Prog Value := do
  let s ← ofOption .wrongType source.word?
  match Pattern.compile s with
  | .ok _ => pure (.pattern s)
  | .error fault => raise (.ofPattern fault)

/-- Whether one type is another, or builds on it. -/
def isSubtype (sub super : Value) : Prog Value :=
  match sub, super with
  | .pageType a, .pageType b => do
    let lineage ← view fun s => s.lineage a
    pure (.bool (lineage.contains b))
  | .recordType a, .recordType b => .done (.bool (a == b))
  | .recordType _, .pageType _ | .pageType _, .recordType _ => .done (.bool false)
  | _, _ => raise .wrongType

/-! ## Things -/

/-- A thing of a type that has not been set up. -/
def bareOf (type : Value) : Prog Value :=
  match type with
  | .pageType cls => do
    let id ← op (.addInstance {})
    pure (.page id cls)
  | .recordType cls => bareRecord cls
  | _ => raise .wrongType

/-- The fields of a thing in ascending order, but for its driver. -/
def shownFields (fields : List (String × Value)) : List (String × Value) :=
  (fields.filter fun f => f.1 != PageType.reservedField).mergeSort fun a b => Text.Half.precedes a.1 b.1

/-- The state of an element, or the fields of a thing. -/
def stateOf (target : Value) : Prog Value :=
  match target with
  | .element name => do
    let e ← ofOption .unset (← view fun s => s.elements.lookup name)
    newMap (Value.named [("value", e.value), ("selected", e.selected), ("displayed", e.displayed)])
  | .object id _ | .page id _ | .control id _ => do
    let fields ← view fun s => s.fieldsOf id
    newMap (Value.named (shownFields fields))
  | _ => raise .wrongType

/-- The definition of the type that a variable holds. -/
def definitionIn (name : String) : Prog Value := do
  let v ← readVariable name
  callMember v "page_definition" []

/-- Make a session. -/
def newSession (browser : Value) : Prog Value := do
  let id ← op (.addInstance { fields := [(PageType.reservedField, browser)] })
  pure (.object id none)

/-- The page types that a catalog starts with. -/
def startingPages : List (String × String) → Prog Value.Entries
  | [] => .done []
  | (name, source) :: rest => do
    let v ← readVariable source
    let others ← startingPages rest
    pure ((.text name, v) :: others)

/-- Make a catalog that starts with the page types of a new mapping. -/
def newCatalog (bases : List (String × String)) (announces : Bool) : Prog Value := do
  let pages ← startingPages bases
  let i ← op (.makeCell (.map pages))
  startCatalog (.map i) announces

/-- The name of a page type, the name of its first base, and its definition. -/
def describe (cls : ClassRef) : Prog Value := do
  let type ← ofOption .unset (← view fun s => s.pageType? cls)
  let base := (type.bases.head?.map (·.name)).getD ""
  newList [.text cls.name, .text base, .definition (← definitionNumber cls)]

/-- Keep page types in variables under their names, and describe them. -/
def keepBuilt : Built → Prog (List Value)
  | [] => .done []
  | (name, cls) :: rest => do
    op (.assign name (.pageType cls))
    let first ← describe cls
    let others ← keepBuilt rest
    pure (first :: others)

/-- Count a call. -/
def countCall (key : String) : Prog Value := do
  let n ← op (.count key)
  pure (.int n)

/-- Construct what a variable holds with the driver that another holds. -/
def constructFrom (type driver : String) (visit : Option Value) : Prog Value := do
  let cls ← readVariable type
  let browser ← readVariable driver
  callValue cls [browser] (match visit with
    | some v => [("visit", v)]
    | none => [])

/-- Whether a field can only be read. -/
def isReadOnly : Value → String → Bool
  | .element _, field => field == "text" || field == "tag_name"
  | .driver _, field => field == "title"
  | _, _ => false

/-- Set a field from outside. -/
def poke (target : Value) (field : String) (v : Value) : Prog Value :=
  if isReadOnly target field then raise .noSuchName
  else silently (op (.adjust target field v))

/-! ## Lines -/

/-- Lines as a list. -/
def listLines (text : String) : Prog Value := newList ((Log.readLines text).map .text)

/-- The lines of a file. -/
def linesOfFile (path : Value) : Prog Value := do
  let p := Path.read (← ofOption .wrongType path.word?)
  if p.hasHalf then raise (.plain .unencodable)
  else if p.hasNull then raise (valueFault "embedded null byte")
  else do
    let (content, logged) ← contentOf p
    listLines (← ofOption (.plain .encoding) (content.decode? logged))

/-! ## Requests -/

/-- The answer to a request. -/
def request (frame : Frame) : Request → Prog Value
  | .const v => .done v
  | .held name => readVariable name
  | .argument i => ofOption .unset frame.args[i]?
  | .arguments => newList frame.args
  | .page => .done frame.page
  | .pattern source => patternOf source
  | .toggle t => .done (.toggle t)
  | .raise kind message => raise (.raised kind message)
  | .sleep seconds => performing (.sleep seconds)
  | .count key => countCall key
  | .poke target field v => do poke (← readVariable target) field v
  | .find strategy target => findElement frame.page strategy target
  | .isSubtype sub super => do
    let a ← readVariable sub
    let b ← readVariable super
    isSubtype a b
  | .bareControl kind => bareControl kind
  | .bare type => do bareOf (← readVariable type)
  | .state target => do stateOf (← readVariable target)
  | .definition type => definitionIn type
  | .newDefinition name => do
    let id ← op (.addDefinition (← labelled name))
    pure (.definition id)
  | .construct type driver visit => constructFrom type driver visit
  | .session driver => do newSession (← readVariable driver)
  | .catalog bases announces => newCatalog bases announces
  | .readCatalog path catalog => do
    let built ← readPath (← catalogIn catalog) path
    newList (← keepBuilt built)
  | .buildPage name raw catalog => do
    let cls ← buildPage (← catalogIn catalog) name raw
    op (.assign cls.name (.pageType cls))
    describe cls
  | .policy mode includeContext => setPolicy mode includeContext
  | .signal message category level context =>
    logged category message fun truthy c text => Log.signalEntry truthy c text level context
  | .diagnostic message category context =>
    logged category message fun _ c text => Log.quietEntry .diagnostic c text context
  | .trace message category context =>
    logged category message fun _ c text => Log.quietEntry .trace c text context
  | .setUpLogging verbose file => silently (setUpLogging verbose file)
  | .linesOfFile path => linesOfFile path
  | .linesOfConsole => do listLines (← op .consoleText)

end PageObjects.Prog
