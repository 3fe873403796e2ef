import PageObjects.Decimal.Integer
import PageObjects.Decimal.Shortest
import PageObjects.Pattern.Basic
import PageObjects.Text.Quoted
import PageObjects.Value.Cells

/-!
# Names and texts of values

The names of types and of closed choices, and the texts of values that consist
of nothing else: the one that shows the kind of a value, and the one that is put
into messages.

Main definitions:

- `ControlKind.word`, `ControlKind.typeName`: names of the kinds of controls.
- `Value.inspectPlain`: the text that shows the kind of a value.
- `Value.plainText?`: the text that is put into messages, where it differs.
- `Value.isPlain`, `Value.plainText`: values that are shown without asking, and their texts.
- `Value.typeName`: the name of the type of a value.
- `Label`: a value with the text that messages show it with.
-/

namespace PageObjects

/-- The word for a kind of control. -/
def ControlKind.word : ControlKind → String
  | .control => "control"
  | .textField => "text_field"
  | .selectList => "select_list"
  | .checkBox => "checkbox"
  | .radioButton => "radio"

/-- The type name of a kind of control. -/
def ControlKind.typeName : ControlKind → String
  | .control => "Control"
  | .textField => "TextField"
  | .selectList => "SelectList"
  | .checkBox => "CheckBox"
  | .radioButton => "RadioButton"

/-- The kinds of controls. -/
def ControlKind.all : List ControlKind := [.control, .textField, .selectList, .checkBox, .radioButton]

/-- The kind of control of a type name. -/
def ControlKind.ofTypeName? (name : String) : Option ControlKind :=
  ControlKind.all.find? fun k => k.typeName == name

/-- The kind of control of a word. -/
def ControlKind.ofWord? (word : String) : Option ControlKind :=
  ControlKind.all.find? fun k => k.word == word

/-- The name of a state of a check box. -/
def Toggle.name : Toggle → String
  | .set => "SET"
  | .clear => "CLEAR"

/-- The name of a kind of binding. -/
def BindingKind.name : BindingKind → String
  | .element => "ELEMENT"
  | .action => "ACTION"

/-- The module that a type of the library belongs to. -/
def homeOf (typeName : String) : Option String :=
  if ["Control", "TextField", "SelectList", "CheckBox", "RadioButton", "Toggle"].contains typeName then
    some "page_factory.controls"
  else if ["PageDefinition", "ElementBinding", "ActionBinding", "ExpectedElement", "BindingKind"].contains
      typeName then some "page_factory.definition"
  else if typeName == "PageCatalog" then some "page_factory.page_catalog"
  else if typeName == "PageFactory" then some "page_factory.page_factory"
  else if typeName == "Foundry" then some "page_factory.foundry"
  else if ["DataFactory", "DataObject"].contains typeName then some "page_factory.data_factory"
  else if ["date", "datetime"].contains typeName then some "datetime"
  else if ["Pattern", "Match"].contains typeName then some "re"
  else none

namespace Value

/-- Items between brackets. -/
def bracketed (opening closing : String) (items : List String) : String :=
  opening ++ ", ".intercalate items ++ closing

/-- The options of a pattern by name. -/
def optionNames (source : String) : List String :=
  match Pattern.compile source with
  | .ok p =>
    (if p.options.template then ["re.TEMPLATE"] else [])
      ++ (if p.options.ignoreCase then ["re.IGNORECASE"] else [])
      ++ (if p.options.multiline then ["re.MULTILINE"] else [])
      ++ (if p.options.dotAll then ["re.DOTALL"] else [])
      ++ (if p.options.verbose then ["re.VERBOSE"] else [])
      ++ (if p.options.ascii then ["re.ASCII"] else [])
  | .error _ => []

/-- A pattern by its source, of which two hundred characters are shown. -/
def inspectPattern (source : String) : String :=
  let shown := String.ofList ((Text.quoted source).toList.take 200)
  let options := optionNames source
  "re.compile(" ++ shown ++ (if options.isEmpty then "" else ", " ++ "|".intercalate options) ++ ")"

/-- An occurrence by the span and the text of the whole match. -/
def inspectOccurrence (f : Occurrence) : String :=
  let span := (f.span? 0).getD (0, 0)
  "<re.Match object; span=(" ++ toString span.1 ++ ", " ++ toString span.2 ++ "), match="
    ++ Text.quoted ((f.part? 0).getD "") ++ ">"

/-- A type by its name, with the module that it belongs to. -/
def inspectType (name : String) (home : Option String) : String :=
  "<class '" ++ (match home with
    | some h => h ++ "." ++ name
    | Option.none => name) ++ "'>"

/-- The text that shows the kind of a value that consists of nothing else. -/
def inspectPlain : Value → String
  | .none => "None"
  | .bool b => if b then "True" else "False"
  | .int n => toString n
  | .float x => Decimal.showFloat x
  | .nan _ => "nan"
  | .text s => Text.quoted s
  | .bytes bs => Text.quotedBytes bs
  | .date d => d.inspect
  | .moment m => m.inspect
  | .pattern source => inspectPattern source
  | .occurrence f => inspectOccurrence f
  | .toggle t => "<Toggle." ++ t.name ++ ": " ++ Text.quoted (toggleWord t) ++ ">"
  | .bindingKind k => "<BindingKind." ++ k.name ++ ": " ++ Text.quoted (bindingWord k) ++ ">"
  | .element name => "<el " ++ name ++ ">"
  | .driver name => "<driver " ++ name ++ ">"
  | .systemType name => inspectType name (homeOf name)
  | .catalog _ => "<PageCatalog object>"
  | .announcer => "<Logger object>"
  | .object _ type => "<" ++ (type.map (·.name)).getD "Session" ++ " object>"
  | .member _ name => "<bound method " ++ name ++ ">"
  | v => "<function " ++ (v.callableName?.getD "") ++ ">"

/-- The text that is put into messages and typed into fields, for values that
have one beside the text that shows their kind. -/
def plainText? : Value → Option String
  | .text s => some s
  | .toggle t => some ("Toggle." ++ t.name)
  | .bindingKind k => some ("BindingKind." ++ k.name)
  | .date d => some d.text
  | .moment m => some m.text
  | _ => Option.none

/-- Whether a value can be shown whatever it is, and without asking any type. -/
def isPlain : Value → Bool
  | .none | .bool _ | .float _ | .nan _ | .text _ | .toggle _ | .bindingKind _ => true
  | _ => false

/-- The text of such a value in messages. -/
def plainText (v : Value) : String := v.plainText?.getD v.inspectPlain

/-- The name of the type of a value. -/
def typeName : Value → String
  | .none => "NoneType"
  | .bool _ => "bool"
  | .int _ => "int"
  | .float _ | .nan _ => "float"
  | .text _ => "str"
  | .bytes _ => "bytes"
  | .date _ => "date"
  | .moment _ => "datetime"
  | .list _ => "list"
  | .tuple _ => "tuple"
  | .set _ => "set"
  | .map _ => "dict"
  | .series type _ => type
  | .mapping (.bindings _) => "mappingproxy"
  | .mapping _ => "dict"
  | .pattern _ => "Pattern"
  | .occurrence _ => "Match"
  | .toggle _ => "Toggle"
  | .bindingKind _ => "BindingKind"
  | .element _ => "Element"
  | .driver _ => "Driver"
  | .control _ kind => kind.typeName
  | .page _ cls => cls.name
  | .pageType _ | .recordType _ | .systemType _ => "type"
  | .object _ type => (type.map (·.name)).getD "Session"
  | .definition _ => "PageDefinition"
  | .expectation .. => "ExpectedElement"
  | .binding _ .element _ => "ElementBinding"
  | .binding _ .action _ => "ActionBinding"
  | .catalog _ => "PageCatalog"
  | .announcer => "Logger"
  | .bound .. | .function _ | .method .. | .hook _ | .locator .. | .attributeLocator .. | .decorator .. =>
    "function"
  | .held .. | .member .. => "method"

end Value

/-- A value with the text that messages show it with. -/
structure Label where
  value : Value
  text : String
deriving Inhabited

namespace Label

/-- The label of a text. -/
def ofText (s : String) : Label := ⟨.text s, s⟩

/-- What lines of the log show for a label. -/
def logged (l : Label) : Value := if l.value.isNone then .none else .text l.text

/-- What a label is told apart by. -/
def key (l : Label) : Key := l.value.identity

@[simp] theorem key_ofText (s : String) : (ofText s).key = [.text s] := by
  simp [ofText, key, Value.identity]

@[simp] theorem text_ofText (s : String) : (ofText s).text = s := rfl

/-- What lines of the log show for a label is shown without asking. -/
theorem logged_plain (l : Label) : l.logged.isPlain = true := by
  unfold logged
  split <;> rfl

end Label

end PageObjects
