import PageObjects.Decimal.Fixed
import PageObjects.Value.Display

/-!
# Faults

Everything that can go wrong, as causes.  The wording of a fault is a function
of its cause, and so is its kind; the kinds of the library's own faults form a
tree below one root.

Main definitions:

- `FaultKind`: the kinds, with `FaultKind.name` and `FaultKind.ancestors`.
- `Fault`: the causes, with `Fault.kind` and `Fault.message`.
- `Raised`: a fault on its way, with the one that it was raised from.
-/

namespace PageObjects

/-- The kinds of faults. -/
inductive FaultKind where
  | pageObjects
  | definition
  | duplicateDefinition
  | reservedName
  | definitionLocked
  | lifecycle
  | undefinedHook
  | presenceTimeout
  | titleMismatch
  | controlNotEditable
  | missingData
  | catalog
  | value
  | runtime
  | notImplemented
  | fileNotFound
  | isDirectory
  | notDirectory
  | otherSystem
  | type
  | absentName
  | key
  | position
  | overflow
  | depth
  | json
  | encoding
  | unencodable
  | system
  | yaml
  | pattern
  | noSuchElement
  | staleElement
  | timeout
  | webDriver
  | unexpectedTag
  | unset
deriving Repr, DecidableEq

namespace FaultKind

/-- The name of a kind. -/
def name : FaultKind → String
  | .pageObjects => "PageFactoryError"
  | .definition => "DefinitionError"
  | .duplicateDefinition => "DuplicateDefinitionError"
  | .reservedName => "ReservedNameError"
  | .definitionLocked => "DefinitionLockedError"
  | .lifecycle => "LifecycleError"
  | .undefinedHook => "UndefinedHookError"
  | .presenceTimeout => "PresenceTimeoutError"
  | .titleMismatch => "TitleMismatchError"
  | .controlNotEditable => "ControlNotEditableError"
  | .missingData => "MissingDataError"
  | .catalog => "CatalogError"
  | .value => "ValueError"
  | .runtime => "RuntimeError"
  | .notImplemented => "NotImplementedError"
  | .fileNotFound => "FileNotFoundError"
  | .isDirectory => "IsADirectoryError"
  | .notDirectory => "NotADirectoryError"
  | .otherSystem => "OSError"
  | .type => "TypeError"
  | .absentName => "AttributeError"
  | .key => "KeyError"
  | .position => "IndexError"
  | .overflow => "OverflowError"
  | .depth => "RecursionError"
  | .json => "JSONDecodeError"
  | .encoding => "UnicodeDecodeError"
  | .unencodable => "UnicodeEncodeError"
  | .system => "SystemError"
  | .yaml => "YAMLError"
  | .pattern => "RegexError"
  | .noSuchElement => "NoSuchElementException"
  | .staleElement => "StaleElementReferenceException"
  | .timeout => "TimeoutException"
  | .webDriver => "WebDriverException"
  | .unexpectedTag => "UnexpectedTagNameException"
  | .unset => "Unset"

/-- The kind that a kind specialises, within the library's own kinds. -/
def parent? : FaultKind → Option FaultKind
  | .pageObjects => some .runtime
  | .definition | .lifecycle | .controlNotEditable | .missingData | .catalog => some .pageObjects
  | .duplicateDefinition | .reservedName | .definitionLocked => some .definition
  | .undefinedHook | .presenceTimeout | .titleMismatch => some .lifecycle
  | _ => none

/-- A kind and the kinds it specialises, up to `n` steps. -/
def chain : (n : Nat) → FaultKind → List FaultKind
  | 0, k => [k]
  | n + 1, k =>
    match k.parent? with
    | some p => k :: chain n p
    | none => [k]

/-- A kind and the kinds it specialises.  Faults of catalogs are also faults of values. -/
def ancestors (k : FaultKind) : List FaultKind :=
  k.chain 3 ++ (if k = .catalog then [.value] else [])

/-- Whether a kind is one of the library's own. -/
def isOwn (k : FaultKind) : Bool :=
  k.ancestors.contains .pageObjects

/-- The library's own kinds. -/
def own : List FaultKind :=
  [.pageObjects, .definition, .duplicateDefinition, .reservedName, .definitionLocked, .lifecycle,
   .undefinedHook, .presenceTimeout, .titleMismatch, .controlNotEditable, .missingData, .catalog]

/-- The kinds that a script may raise. -/
def raisable : List FaultKind :=
  [.noSuchElement, .staleElement, .timeout, .webDriver, .runtime, .key, .value, .absentName,
   .notImplemented]

/-- The kind with a name. -/
def ofName? (candidates : List FaultKind) (name : String) : Option FaultKind :=
  candidates.find? fun k => k.name == name

end FaultKind

/-- The causes of failure. -/
inductive Fault where
  | locked (page what : String)
  | titleNotText (page typeName : String)
  | duplicate (name page : String)
  | reserved (name type what : String)
  | unnamed (what type shown : String)
  | unresolvable (type name : String)
  | noAddress (page : String)
  | notPresent (page element : Label) (timeout : Value)
  | titleMismatch (expected actual : Label)
  | notEditable (shown : String)
  | missingData (type : String) (names : List String)
  | fitUnsupported (kind : ControlKind)
  | createUndefined (type : String)
  | badToggle (shown : String)
  | radioCleared
  | noOptionMatching (pattern : String)
  | noOptionTexted (text : String)
  | noElement (strategy target : String)
  | notASelect
  | stale
  | timedOut
  | catalogShape (file : String)
  | catalogExtension (suffix : String)
  | pageNotMapping (page : String)
  | unknownKeys (page : String) (keys : List String)
  | unknownBase (page shown : String)
  | badTitle (shown : String)
  | badExpectation (shown : String)
  | incompleteLocator (name : String)
  | unknownStrategy (name shown : String)
  | unknownControl (name shown : String)
  | inPage (file page : String) (inner : Fault)
  | pathNotFound (path : String)
  | notANumber (shown : String)
  | notAnInteger (base : Nat) (text : String)
  | tooManyDigits (digits : Nat)
  | tooLongToShow
  | clashingOptions
  | notAPair (index length : Nat)
  | notTwo (length : Nat)
  | notAMode (shown : String)
  | notACategory (shown : String)
  | badTypeName
  | badFormat (typeName : String)
  | badDate (message : String)
  | raised (kind : FaultKind) (message : Option String)
  | constructed (kind : FaultKind) (message : String)
  | plain (kind : FaultKind)

namespace Fault

/-- A value of the wrong type, or the wrong number of arguments. -/
abbrev wrongType : Fault := .plain .type

/-- A name that a value does not have. -/
abbrev noSuchName : Fault := .plain .absentName

/-- A variable that was never set. -/
abbrev unset : Fault := .plain .unset

/-- Calls that go too deep, or a wait that does not end. -/
abbrev tooDeep : Fault := .plain .depth

/-- The kind of a fault. -/
def kind : Fault → FaultKind
  | .locked .. => .definitionLocked
  | .titleNotText .. | .unnamed .. | .unresolvable .. => .definition
  | .duplicate .. => .duplicateDefinition
  | .reserved .. => .reservedName
  | .noAddress _ => .undefinedHook
  | .notPresent .. => .presenceTimeout
  | .titleMismatch .. => .titleMismatch
  | .notEditable _ => .controlNotEditable
  | .missingData .. => .missingData
  | .fitUnsupported _ | .createUndefined _ => .notImplemented
  | .badToggle _ | .radioCleared | .notANumber _ | .notAnInteger .. | .tooManyDigits _ | .tooLongToShow
  | .clashingOptions | .notAPair .. | .notTwo _ | .notAMode _ | .notACategory _ | .badTypeName
  | .badFormat _ | .badDate _ => .value
  | .noOptionMatching _ | .noOptionTexted _ | .noElement .. => .noSuchElement
  | .notASelect => .unexpectedTag
  | .stale => .staleElement
  | .timedOut => .timeout
  | .catalogShape _ | .catalogExtension _ | .pageNotMapping _ | .unknownKeys .. | .unknownBase ..
  | .badTitle _ | .badExpectation _ | .incompleteLocator _ | .unknownStrategy .. | .unknownControl ..
  | .inPage .. => .catalog
  | .pathNotFound _ => .fileNotFound
  | .raised kind _ | .constructed kind _ | .plain kind => kind

/-- A waiting time with six significant digits. -/
def waitingTime (timeout : Value) : String :=
  match timeout with
  | .float x => Decimal.general 6 x
  | .int n => match Decimal.ofInt? n with
    | some x => Decimal.general 6 x
    | none => toString n
  | .bool b => if b then "1" else "0"
  | v => v.inspectPlain

/-- The beginning of what is said of integers with too many digits. -/
def digitsExceeded : String := "Exceeds the limit (4300 digits) for integer string conversion"

/-- The end of what is said of integers with too many digits. -/
def digitsAdvice : String := "; use sys.set_int_max_str_digits() to increase the limit"

/-- The wording of a fault; none if it has no stable wording. -/
def message : Fault → Option String
  | .locked page what =>
    some (page ++ " is already defined; cannot declare " ++ what ++ " after its declare() hook")
  | .titleNotText page typeName =>
    some ("expected_title on " ++ page ++ " must be a str or compiled pattern, got " ++ typeName)
  | .duplicate name page => some (name ++ " is being defined twice in " ++ page ++ "!")
  | .reserved name type what =>
    some (name ++ " is already an attribute of " ++ type ++ "; a " ++ what
      ++ " with that name could never be reached")
  | .unnamed what type shown =>
    some (what ++ " on " ++ type ++ " needs a non-empty name, got " ++ shown)
  | .unresolvable type name =>
    some (type ++ " expects element '" ++ name ++ "', which is neither declared nor an attribute")
  | .noAddress page => some (page ++ " has no page_url; it cannot be visited")
  | .notPresent page element timeout =>
    some ("Expected element '" ++ element.text ++ "' on " ++ page.text
      ++ " was not present after " ++ waitingTime timeout ++ "s")
  | .titleMismatch expected actual =>
    some ("Expected title '" ++ expected.text ++ "' instead of '" ++ actual.text ++ "'")
  | .notEditable shown => some (shown ++ " is disabled or read-only")
  | .missingData type names => some (type ++ " needs values for: " ++ ", ".intercalate names)
  | .fitUnsupported kind => some (kind.typeName ++ " does not support fit()")
  | .createUndefined type => some (type ++ " does not define create()")
  | .badToggle shown => some ("fit() expects 'set', 'clear' or None, got " ++ shown)
  | .radioCleared =>
    some "a radio button cannot be cleared; set another one in its group instead"
  | .noOptionMatching source => some ("Could not locate option matching pattern: " ++ source)
  | .noOptionTexted text => some ("Could not locate element with visible text: " ++ text)
  | .noElement strategy target => some ("no element for " ++ strategy ++ "=" ++ target)
  | .notASelect => some "not a select"
  | .stale => some "stale"
  | .timedOut => none
  | .catalogShape file =>
    some (file ++ ": expected a mapping with a 'pages' mapping at the top")
  | .catalogExtension suffix => some ("Unsupported catalog file extension: " ++ suffix)
  | .pageNotMapping page => some ("page " ++ page ++ " must be a mapping")
  | .unknownKeys page keys =>
    some ("page " ++ page ++ " has unknown keys: " ++ ", ".intercalate keys)
  | .unknownBase page shown => some ("page " ++ page ++ " names unknown base page " ++ shown)
  | .badTitle shown =>
    some ("expected_title must be a string or \x7bpattern: ...\x7d, got " ++ shown)
  | .badExpectation shown =>
    some ("expected_element must be a name or \x7bname: ..., timeout: ...\x7d, got " ++ shown)
  | .incompleteLocator name => some (name ++ ": locator needs 'by' and 'value'")
  | .unknownStrategy name shown => some (name ++ ": unknown locator strategy " ++ shown)
  | .unknownControl name shown => some (name ++ ": unknown control kind " ++ shown)
  | .inPage file page inner =>
    some (file ++ ": page " ++ page ++ ": " ++ (inner.message).getD "")
  | .pathNotFound path => some ("Page catalog path not found: " ++ path)
  | .notANumber shown => some ("could not convert string to float: " ++ shown)
  | .notAnInteger base text =>
    some ("invalid literal for int() with base " ++ toString base ++ ": "
      ++ String.ofList ((Text.quoted text).toList.take 200))
  | .tooManyDigits digits =>
    some (digitsExceeded ++ ": value has " ++ toString digits ++ " digits" ++ digitsAdvice)
  | .tooLongToShow => some (digitsExceeded ++ digitsAdvice)
  | .clashingOptions => some "ASCII and UNICODE flags are incompatible"
  | .notAPair index length =>
    some ("dictionary update sequence element #" ++ toString index ++ " has length "
      ++ toString length ++ "; 2 is required")
  | .notTwo length =>
    some (if length < 2 then
      "not enough values to unpack (expected 2, got " ++ toString length ++ ")"
    else "too many values to unpack (expected 2)")
  | .notAMode shown => some (shown ++ " is not a valid LogMode")
  | .notACategory shown => some (shown ++ " is not a valid Cat")
  | .badTypeName => some "type name must not contain null characters"
  | .badFormat typeName =>
    some ("Unknown format code 'g' for object of type '" ++ typeName ++ "'")
  | .badDate message => some message
  | .raised _ message => message
  | .constructed _ message => some message
  | .plain _ => none

/-- What keeps a waiting time from being shown in a message. -/
def waitingTimeFault? : Value → Option Fault
  | .float _ | .nan _ | .bool _ => none
  | .int n => if (Decimal.ofInt? n).isSome then none else some (.plain .overflow)
  | .text _ | .toggle _ | .bindingKind _ => some (.badFormat "str")
  | _ => some .wrongType

/-- The fault that an element was not present in time, or what is wrong with the waiting time. -/
def absence (page element : Label) (timeout : Value) : Fault :=
  (waitingTimeFault? timeout).getD (.notPresent page element timeout)

/-- The label of an expected title: a pattern is shown by its source. -/
def titleLabel (expected : Label) : Label :=
  match expected.value with
  | .pattern source => ⟨.pattern source, source⟩
  | _ => expected

/-- One of the library's own faults, made from its kind and arguments; `shown` is
the text of all arguments together. -/
def construct (kind : FaultKind) (arguments : List Label) (shown : String) : Except Fault Fault :=
  match kind, arguments with
  | .presenceTimeout, [page, element, timeout] =>
    match waitingTimeFault? timeout.value with
    | some fault => .error fault
    | none => .ok (.notPresent page element timeout.value)
  | .titleMismatch, [expected, actual] => .ok (.titleMismatch (titleLabel expected) actual)
  | .presenceTimeout, _ | .titleMismatch, _ => .error .wrongType
  | kind, [] => .ok (.constructed kind "")
  | kind, [only] => .ok (.constructed kind only.text)
  | kind, _ => .ok (.constructed kind shown)

/-- What a fault keeps of its arguments. -/
def fields : Fault → List (String × Value)
  | .notPresent page element timeout =>
    [("page_name", page.value), ("element_name", element.value), ("timeout", timeout)]
  | .titleMismatch expected actual => [("expected", expected.value), ("actual", actual.value)]
  | _ => []

/-- The fault of a text that is no pattern. -/
def ofPattern : Pattern.Fault → Fault
  | .malformed => .plain .pattern
  | .countTooLarge => .plain .overflow
  | .clashingOptions => .clashingOptions
  | .integerTooLong digits => .tooManyDigits digits
  | .tooDeep => .tooDeep
  | .brokenGroup => .plain .system

end Fault

/-- A fault on its way, with the one that it was raised from. -/
structure Raised where
  fault : Fault
  cause : Option Fault := none

namespace Raised

/-- The kind of what was raised. -/
def kind (r : Raised) : FaultKind := r.fault.kind

end Raised

/-! ## Numbers out of values -/

/-- The number that is no number, where it does not matter which one. -/
def Value.anyNan : Nat := 2

/-- A number as a value. -/
def Value.ofFloat (x : Float) : Value := if x.isNaN then .nan anyNan else .float x

/-- The text that bytes spell in ASCII. -/
def asciiText? (bytes : List UInt8) : Option String :=
  if bytes.all (· < 128) then some (String.ofList (bytes.map fun b => Char.ofNat b.toNat)) else none

/-- The number that a value is or spells. -/
def Value.toFloat (v : Value) : Except Fault Float :=
  let spelled (text : Option String) : Except Fault Float :=
    match text.bind Decimal.readFloat? with
    | some x => .ok x
    | Option.none => .error (.notANumber v.inspectPlain)
  match v with
  | .float x => .ok x
  | .nan _ => .ok Decimal.notANumber
  | .bool b => .ok (if b then 1 else 0)
  | .int n => match Decimal.ofInt? n with
    | some x => .ok x
    | Option.none => .error (.plain .overflow)
  | .bytes bs => spelled (asciiText? bs)
  | v => match v.word? with
    | some s => spelled (some s)
    | Option.none => .error .wrongType

end PageObjects
