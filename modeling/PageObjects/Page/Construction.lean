import PageObjects.PageType.Declaring
import PageObjects.Text.Template

/-!
# Constructing pages

A page is constructed in three stages, each of which only happens if there is
something to do: go to the address, wait for the expected element, and check
the title.  A type may replace a stage by an attribute of its own, or the whole
construction.

Main definitions:

- `Prog.goTo`, `Prog.waitForExpected`, `Prog.verifyTitle`: the stages.
- `Prog.poll`: one check for the expected element.
- `Prog.construct`: construct a page.
-/

namespace PageObjects.Prog

/-- What a page hands names to. -/
def browserOf (page : Value) : Prog Value := attributeOf PageType.reservedField page

/-- Whether a page has something else in the place of a member of the root. -/
def replaces (page : Value) (cls : ClassRef) (name : String) : Prog Bool :=
  view fun s => s.overrides cls [name, everyName] ||
    ((instanceOf? page).bind fun id => s.field? id name).isSome

/-- Do what a member of the root does, unless the page has something else in its place. -/
def stage (page : Value) (cls : ClassRef) (name : String) (args : List Value) (usual : Prog Value) :
    Prog Value := do
  if ← replaces page cls name then callMember page name args else usual

/-! ## Going to the address -/

/-- The note that a page is being visited. -/
def navigating (pageName : Label) (url : String) : Log.Entry :=
  { Log.signal .lifecycle "navigating" [("page", pageName.logged), ("url", .text url)] with level := 10 }

/-- The address of a page, with the base address filled in. -/
def fullAddress (base address : Value) : Except Fault String :=
  match address.word?, base.word? with
  | none, _ => .error .noSuchName
  | some _, none => .error .wrongType
  | some template, some base => .ok (Text.resolveAddress base template)

/-- Go to the address of a page. -/
def goTo (page : Value) (cls : ClassRef) : Prog Value := do
  let d ← definitionOf cls
  if d.address.isNone then raise (.noAddress d.pageName.text)
  else do
    let base ← view fun s => s.settings.baseAddress
    let url ← ofFault (fullAddress base d.address)
    log (navigating d.pageName url)
    let browser ← browserOf page
    callMember browser "get" [.text url]

/-! ## Waiting for the expected element -/

/-- The control that a name of a page stands for: what a function gives, or the value itself. -/
def resolveAccessor (page : Value) (name : String) : Prog Value := do
  let target ← attributeOf name page
  if ← view fun s => s.callable target then callValue target [] [] else pure target

/-- Whether a control is there and is displayed. -/
def displayed (control : Value) : Prog (Option Value) := do
  if control.isNone then pure none
  else if ← truth (← callMember control "is_displayed" []) then
    if ← truth control then pure (some control) else pure none
  else pure none

/-- One check for the expected element: the control, if it is there and is displayed. -/
def poll (page : Value) (cls : ClassRef) (name : String) : Prog (Option Value) := do
  let control ← stage page cls "_resolve_accessor" [.text name] (resolveAccessor page name)
  displayed control

/-- How long to sleep between checks when no time is set. -/
def usualInterval : Value := .float 0.5

/-- How long to sleep between checks. -/
def interval (s : Settings) : Value :=
  if s.pollInterval.whole? = some 0 then usualInterval else s.pollInterval

/-- The fault of a wait: when the time is over, that the element was not present. -/
def waitFault (pageName : Label) (name timeout : Value) (r : Raised) : Prog Value := do
  if r.kind = .timeout then
    match Fault.absence pageName (← labelled name) timeout with
    | .notPresent page element timeout =>
      .fail { fault := .notPresent page element timeout, cause := some r.fault }
    | fault => raise fault
  else .fail r

/-- Wait until the expected element is displayed. -/
def waitForExpected (page : Value) (cls : ClassRef) : Prog Value := do
  let d ← definitionOf cls
  match d.expectedElement with
  | none => pure .none
  | some e => do
    let _ ← browserOf page
    let timeout ← ofFault e.timeout.toFloat
    let interval ← view fun s => interval s.settings
    let name ← ofOption .wrongType e.name.word?
    match ← outcome (waitFor { timeout, interval } (poll page cls name)) with
    | .ok control => pure control
    | .error r => waitFault d.pageName e.name e.timeout r

/-! ## Checking the title -/

/-- Check the title of a page. -/
def verifyTitle (page : Value) (cls : ClassRef) : Prog Value := do
  let d ← definitionOf cls
  match d.expectedTitle with
  | none => pure .none
  | some expected => do
    let browser ← browserOf page
    let actual ← attributeOf "title" browser
    let accepted ← ofFault (← view fun s => expected.accepts s.cells actual)
    if accepted then pure .none
    else do
      let wanted ← labelled expected.toValue
      raise (.titleMismatch (Fault.titleLabel wanted) (← labelled actual))

/-! ## Construction -/

/-- Run a program if it is needed. -/
def whenNeeded (needed : Bool) (p : Prog Value) : Prog Unit :=
  if needed then do let _ ← p else .done ()

/-- The stages of a construction. -/
def stages (page : Value) (cls : ClassRef) (d : Definition) (visit : Value) : Prog Unit := do
  let visit ← truth visit
  whenNeeded visit (stage page cls "goto" [] (goTo page cls))
  whenNeeded d.expectedElement.isSome
    (stage page cls "wait_for_expected_element" [] (waitForExpected page cls))
  whenNeeded d.expectedTitle.isSome
    (stage page cls "verify_expected_title" [] (verifyTitle page cls))

/-- The phase of a construction. -/
def constructionPhase (pageName : Label) (visit : Value) : Phase := .construction pageName visit

/-- Set a page up: keep its driver and go through the stages. -/
def setUpPage (page : Value) (cls : ClassRef) (browser visit : Value) : Prog Unit := do
  setAttribute page PageType.reservedField browser
  let d ← definitionOf cls
  timed (constructionPhase d.pageName visit) (stages page cls d visit)

/-- Set a page up with what its construction is asked with. -/
def setUpPageWith (page : Value) (cls : ClassRef) (args : List Value) (named : Named) : Prog Unit :=
  match bindArguments [("browser", true), ("visit", false)] args named with
  | some [some browser, visit] => setUpPage page cls browser (visit.getD (.bool false))
  | _ => raise .wrongType

/-- The member of a type that sets up its things. -/
def setUpMember : String := "__init__"

/-- The member of a type that makes its things. -/
def makingMember : String := "__new__"

/-- Set up a thing by a member of its type, which may answer with nothing. -/
def setUpByMember (f thing : Value) (args : List Value) (named : Named) : Prog Unit := do
  let answer ← callValue (f.boundTo thing) args named
  if answer.isNone then pure () else raise .wrongType

/-- Construct a page that its type sets up. -/
def newPage (cls : ClassRef) (args : List Value) (named : Named) : Prog Value := do
  let setter ← view fun s => s.member? cls setUpMember
  let id ← op (.addInstance {})
  let page : Value := .page id cls
  match setter with
  | some f => setUpByMember f page args named
  | none => setUpPageWith page cls args named
  pure page

/-- Construct a page. -/
def construct (cls : ClassRef) (args : List Value) (named : Named) : Prog Value := do
  match ← view fun s => s.member? cls makingMember with
  | some maker => callValue maker (.pageType cls :: args) named
  | none => newPage cls args named

end PageObjects.Prog
