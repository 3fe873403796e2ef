import PageObjects.Assoc
import PageObjects.Fault
import PageObjects.Arguments

/-!
# Elements

An element of a page as scripts set it up: its tag, its text, its state, and
how it behaves when it is asked to show itself or clicked.  Every use of an
element is one of a few kinds, and a use that fails leaves the element as it
was, apart from the count of failures that are still to come.

Fields hold whatever a script has put there; a use of a field that does not
suit is a fault.

Main definitions:

- `Raised.ofValue?`: a fault that a script has set up.
- `Element`: the state of an element.
- `ElementUse`: the ways to use an element.
- `Element.use`: the answer to a use, and the element after it.

Main results:

- Theorem `Element.use_click_checkbox` and `Element.use_click_other`: a click
  turns a check box over and sets anything else.
- Theorem `Element.use_sendKeys`: keys are added to the value.
-/

namespace PageObjects

/-- The text of a value that was set up, if it is not absent. -/
def Value.setUpText? : Value → Option String
  | .none => Option.none
  | .text s => some s
  | v => some v.inspectPlain

/-- A fault that a script has set up: a mapping with a kind and a message. -/
def Raised.ofValue? (cells : Cells) (v : Value) : Option Raised :=
  (cells.entries? v).map fun fields =>
    let kind := ((Value.field "raise" fields).text?.bind fun n => FaultKind.ofName? FaultKind.raisable n).getD
      .runtime
    { fault := .raised kind (Value.field "message" fields).setUpText? }

/-- Whether a count that was set up has not run out. -/
def Value.isLeft : Value → Except Fault Bool
  | .bool b => .ok b
  | .int n => .ok (0 < n)
  | .float x => .ok (0 < x)
  | .nan _ => .ok false
  | _ => .error .wrongType

/-- A count that was set up, after one more. -/
def Value.counted : Value → Value
  | .bool b => .int ((if b then 1 else 0) - 1)
  | .int n => .int (n - 1)
  | .float x => .float (x - 1)
  | v => v

/-- The state of an element. -/
structure Element where
  tag : Value := .text "input"
  text : Value := .text ""
  value : Value := .text ""
  displayed : Value := .bool true
  enabled : Value := .bool true
  selected : Value := .bool false
  attributes : Value := .none
  options : Value := .none
  displayedAfter : Value := .int 0
  stale : Value := .int 0
  clickFault : Value := .none
  extras : List (String × Value) := []

/-- The ways to use an element. -/
inductive ElementUse where
  | tagName
  | text
  | clear
  | sendKeys (keys : List Value)
  | click
  | isDisplayed
  | isEnabled
  | isSelected
  | getAttribute (name : Value)

namespace ElementUse

/-- The word for a use. -/
def word : ElementUse → String
  | .tagName => "tag_name"
  | .text => "text"
  | .clear => "clear"
  | .sendKeys _ => "send_keys"
  | .click => "click"
  | .isDisplayed => "is_displayed"
  | .isEnabled => "is_enabled"
  | .isSelected => "is_selected"
  | .getAttribute _ => "get_attribute"

/-- What a use is given. -/
def arguments : ElementUse → List Value
  | .sendKeys keys => keys
  | .getAttribute name => [name]
  | _ => []

/-- The use that a call of a member stands for. -/
def ofCall? (name : String) (args : List Value) (named : List (String × Value)) : Option ElementUse :=
  let plain (use : ElementUse) : Option ElementUse := (bindArguments [] args named).map fun _ => use
  match name with
  | "clear" => plain .clear
  | "send_keys" => if named.isEmpty then some (.sendKeys args) else none
  | "click" => plain .click
  | "is_displayed" => plain .isDisplayed
  | "is_enabled" => plain .isEnabled
  | "is_selected" => plain .isSelected
  | "get_attribute" =>
    match bindArguments [("name", true)] args named with
    | some [some n] => some (.getAttribute n)
    | _ => none
  | _ => none

/-- The names of the members that can be called. -/
def memberNames : List String :=
  ["clear", "send_keys", "click", "is_displayed", "is_enabled", "is_selected", "get_attribute"]

end ElementUse

namespace Element

/-- An attribute of an element. -/
def getAttribute (cells : Cells) (e : Element) (name : Value) : Except Fault Value :=
  match cells.entries? e.attributes with
  | some entries =>
    if name.hashable then .ok ((Value.lookup? name entries).getD .none) else .error .wrongType
  | none => .error .noSuchName

/-- Whether a click turns the element over. -/
def flips (cells : Cells) (e : Element) : Except Fault Bool :=
  (e.getAttribute cells (.text "type")).map fun v => cells.same v (.text "checkbox")

/-- The element after a click that takes effect. -/
def clicked (cells : Cells) (e : Element) (flips : Bool) : Element :=
  { e with selected := .bool (if flips then !cells.truthy e.selected else true) }

/-- The text that keys spell, if all of them are texts. -/
def spelled? : List Value → Option String
  | [] => some ""
  | k :: ks =>
    match k.word?, spelled? ks with
    | some s, some rest => some (s ++ rest)
    | _, _ => none

/-- The answer to whether an element is displayed, and the element after it. -/
def showing (e : Element) : Except Raised Value × Element :=
  match e.stale.isLeft, e.displayedAfter.isLeft with
  | .error fault, _ => (.error { fault }, e)
  | .ok true, _ => (.error { fault := .stale }, { e with stale := e.stale.counted })
  | .ok false, .error fault => (.error { fault }, e)
  | .ok false, .ok true => (.ok (.bool false), { e with displayedAfter := e.displayedAfter.counted })
  | .ok false, .ok false => (.ok e.displayed, e)

/-- The answer to a click, and the element after it. -/
def clicking (cells : Cells) (e : Element) : Except Raised Value × Element :=
  match Raised.ofValue? cells e.clickFault with
  | some r => (.error r, e)
  | none =>
    match e.flips cells with
    | .ok flips => (.ok .none, e.clicked cells flips)
    | .error fault => (.error { fault }, e)

/-- The answer to a use, and the element after it. -/
def use (cells : Cells) (e : Element) : ElementUse → Except Raised Value × Element
  | .tagName => (.ok e.tag, e)
  | .text => (.ok e.text, e)
  | .clear => (.ok .none, { e with value := .text "" })
  | .sendKeys keys =>
    match e.value.word?, spelled? keys with
    | some old, some s => (.ok .none, { e with value := .text (old ++ s) })
    | _, _ => (.error { fault := .wrongType }, e)
  | .click => e.clicking cells
  | .isDisplayed => e.showing
  | .isEnabled => (.ok e.enabled, e)
  | .isSelected => (.ok e.selected, e)
  | .getAttribute name =>
    match e.getAttribute cells name with
    | .ok v => (.ok v, e)
    | .error fault => (.error { fault }, e)

/-- A field of an element that is read without leaving a trace. -/
def field? (e : Element) (name : String) : Option Value :=
  match e.extras.lookup name with
  | some v => some v
  | none =>
    match name with
    | "value" => some e.value
    | "displayed" => some e.displayed
    | "enabled" => some e.enabled
    | "selected" => some e.selected
    | "attrs" => some e.attributes
    | "options" => some e.options
    | "displayed_after" => some e.displayedAfter
    | "stale" => some e.stale
    | "click_error" => some e.clickFault
    | _ => none

/-- An element with a field set from outside. -/
def setField (e : Element) (field : String) (v : Value) : Element :=
  match field with
  | "_tag" => { e with tag := v }
  | "_text" => { e with text := v }
  | "value" => { e with value := v }
  | "displayed" => { e with displayed := v }
  | "enabled" => { e with enabled := v }
  | "selected" => { e with selected := v }
  | "attrs" => { e with attributes := v }
  | "options" => { e with options := v }
  | "displayed_after" => { e with displayedAfter := v }
  | "stale" => { e with stale := v }
  | "click_error" => { e with clickFault := v }
  | field => { e with extras := Assoc.put field v e.extras }

/-! ## Small facts -/

/-- A click turns a check box over. -/
theorem use_click_checkbox {cells : Cells} {e : Element} (h : Raised.ofValue? cells e.clickFault = none)
    (hf : e.flips cells = .ok true) :
    e.use cells .click = (.ok .none, { e with selected := .bool !cells.truthy e.selected }) := by
  simp [use, clicking, h, hf, clicked]

/-- A click sets anything that is no check box. -/
theorem use_click_other {cells : Cells} {e : Element} (h : Raised.ofValue? cells e.clickFault = none)
    (hf : e.flips cells = .ok false) :
    e.use cells .click = (.ok .none, { e with selected := .bool true }) := by
  simp [use, clicking, h, hf, clicked]

/-- Keys are added to the value. -/
theorem use_sendKeys (cells : Cells) {e : Element} {old : String} (h : e.value = .text old) (s : String) :
    e.use cells (.sendKeys [.text s]) = (.ok .none, { e with value := .text (old ++ s) }) := by
  simp [use, h, spelled?, Value.word?]

end Element

end PageObjects
