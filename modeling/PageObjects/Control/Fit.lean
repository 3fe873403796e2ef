import PageObjects.Dispatch.Attribute

/-!
# Fitting controls

To fit a control is to bring it into a wanted state.  The absent value leaves a
control alone; what is wrong with a control or a value is found out before the
control is touched.

Main definitions:

- `Prog.editable`: the control that suits an element.
- `Prog.byMember`: what a control keeps in the place of one of its members.
- `Prog.fitControl`: fit a control.
- `Prog.fit`: fit a control or an element.

Main results:

- Theorem `Prog.fit_none`: the absent value leaves everything alone.
-/

namespace PageObjects.Prog

/-- The field in which a control keeps what it wraps. -/
def wrappedField : String := "element"

/-- Make a control. -/
def makeControl (kind : ControlKind) (wrapped : Value) : Prog Value := do
  let id ← op (.addInstance { fields := [(wrappedField, wrapped)] })
  pure (.control id kind)

/-- Make a control that wraps nothing. -/
def bareControl (kind : ControlKind) : Prog Value := do
  let id ← op (.addInstance {})
  pure (.control id kind)

/-- A text in lower case; an absent or empty one is replaced. -/
def lowered (instead : String) (v : Value) : Prog String := do
  if ← truth v then
    match v.word? with
    | some s => pure (Text.lowercaseString s)
    | none => raise .noSuchName
  else pure instead

/-- The kind of control that suits an input. -/
def inputKind (type : String) : ControlKind :=
  if type = "checkbox" then .checkBox
  else if type = "radio" then .radioButton
  else .textField

/-- The control that suits an element; a control suits itself. -/
def editable (v : Value) : Prog Value :=
  match v with
  | .control id kind => .done (.control id kind)
  | v => do
    let tag ← lowered "" (← attributeOf "tag_name" v)
    if tag = "select" then makeControl .selectList v
    else if tag = "input" then do
      let type ← lowered "text" (← callMember v "get_attribute" [.text "type"])
      makeControl (inputKind type) v
    else makeControl .textField v

/-- What a control wraps. -/
def wrappedIn (id : Nat) : Prog Value := do
  ofOption .noSuchName (← view fun s => s.field? id wrappedField)

/-- A note that a control is being fitted. -/
def fitting (message : String) (id : Nat) (kind : ControlKind) (context : Log.Context) : Prog Unit := do
  let shown ← view fun s => (s.field? id "kind").getD (.text kind.word)
  log (Log.diagnostic .fit message (("kind", shown) :: context))

/-- Whether an attribute says that a field may be written to. -/
def allowsWriting (cells : Cells) (readonly : Value) : Bool :=
  readonly.isNone || cells.same readonly (.text "false")

/-- The fault that a text field may not be written to. -/
def refuseWriting (id : Nat) (kind : ControlKind) : Prog Unit := do
  raise (.notEditable (← inspected (.control id kind)))

/-- End with a fault unless a text field may be written to. -/
def assertWritable (id : Nat) (kind : ControlKind) : Prog Unit := do
  let element ← wrappedIn id
  if ← truth (← callMember element "is_enabled" []) then do
    let readonly ← callMember element "get_attribute" [.text "readonly"]
    if ← view fun s => allowsWriting s.cells readonly then pure () else refuseWriting id kind
  else refuseWriting id kind

/-- Do what a control keeps in the place of one of its members, or else what is usual. -/
def byMember (id : Nat) (name : String) (args : List Value) (usual : Prog Unit) : Prog Unit := do
  match ← view fun s => s.field? id name with
  | some f =>
    let _ ← callValue f args []
  | none => usual

/-- The member of text fields that says whether they may be written to. -/
def writableMember : String := "assert_writable"

/-- Replace the text of a text field. -/
def fitText (id : Nat) (value : Value) : Prog Unit := do
  byMember id writableMember [] (assertWritable id .textField)
  let text ← shown value
  fitting "clear + type" id .textField [("chars", .text (toString text.length))]
  let element ← wrappedIn id
  let _ ← callMember element "clear" []
  let element ← wrappedIn id
  let sendKeys ← attributeOf "send_keys" element
  let typed ← shown value
  let _ ← callValue sendKeys [.text typed] []

/-- What the variables hold that values name. -/
def namedValues : List Value → Prog (List Value)
  | [] => .done []
  | v :: rest => do
    let held ← ofExcept (← view fun s => s.readNamed v)
    let others ← namedValues rest
    pure (held :: others)

/-- The options of a list of choices. -/
def optionsOf (element : Value) : Prog (List Value) := do
  let named ← attributeOf "options" element
  namedValues (← ofOption .wrongType (← view fun s => s.members? named))

/-- Choose the first option whose text a pattern is found in, unless it is chosen. -/
def chooseMatching (source : String) (pattern : Pattern.Compiled) : List Value → Prog Unit
  | [] => raise (.noOptionMatching source)
  | option :: rest => do
    let text ← ofOption .wrongType (← attributeOf "text" option).word?
    if ← ofFault ((pattern.foundIn text).mapError .ofPattern) then do
      if ← truth (← callMember option "is_selected" []) then pure ()
      else
        let _ ← callMember option "click" []
    else chooseMatching source pattern rest

/-- Choose the first option with a text. -/
def chooseTexted (value : Value) : List Value → Prog Unit
  | [] => do raise (.noOptionTexted (← shown value))
  | option :: rest => do
    let text ← attributeOf "text" option
    if ← view fun s => s.cells.same text value then
      let _ ← callMember option "click" []
    else chooseTexted value rest

/-- Choose an option of a list of choices. -/
def fitChoice (id : Nat) (value : Value) : Prog Unit := do
  let element ← wrappedIn id
  match (← attributeOf "tag_name" element).word? with
  | none => raise .noSuchName
  | some tag =>
    if Text.lowercaseString tag = "select" then
      match value with
      | .pattern source => do
        fitting "select by pattern" id .selectList [("pattern", .text source)]
        match Pattern.compile source with
        | .ok pattern => do chooseMatching source pattern (← optionsOf element)
        | .error fault => raise (.ofPattern fault)
      | value => do
        fitting "select by text" id .selectList [("text", value)]
        chooseTexted value (← optionsOf element)
    else raise .notASelect

/-- The state that a word stands for. -/
def stateNamed? : String → Option Toggle
  | "set" => some .set
  | "clear" => some .clear
  | _ => none

/-- The state that a value stands for. -/
def wantedState (value : Value) : Prog Toggle := do
  match value.word?.bind stateNamed? with
  | some t => pure t
  | none => raise (.badToggle (← inspected value))

/-- Turn a check box over unless it is in the wanted state. -/
def fitCheckBox (id : Nat) (value : Value) : Prog Unit := do
  let wanted ← wantedState value
  let element ← wrappedIn id
  let selected ← callMember element "is_selected" []
  if ← view fun s => s.cells.same selected (.bool (wanted == .set)) then pure ()
  else do
    fitting "toggle" id .checkBox [("to", .text (Value.toggleWord wanted))]
    let element ← wrappedIn id
    let _ ← callMember element "click" []

/-- Choose a radio button unless it is chosen. -/
def fitRadioButton (id : Nat) (value : Value) : Prog Unit := do
  match ← wantedState value with
  | .clear => raise .radioCleared
  | .set =>
    let element ← wrappedIn id
    if ← truth (← callMember element "is_selected" []) then pure ()
    else do
      fitting "select radio" id .radioButton []
      let element ← wrappedIn id
      let _ ← callMember element "click" []

/-- Fit a control.  A control of no particular kind cannot be fitted. -/
def fitControl (id : Nat) (kind : ControlKind) (value : Value) : Prog Unit :=
  match kind with
  | .control => raise (.fitUnsupported .control)
  | kind =>
    if value.isNone then .done ()
    else
      match kind with
      | .textField => fitText id value
      | .selectList => fitChoice id value
      | .checkBox => fitCheckBox id value
      | _ => fitRadioButton id value

/-- The member that fits controls. -/
def fittingMember : String := "fit"

/-- Fit a control by its member, which may have been replaced on the control itself. -/
def fitByMember (id : Nat) (kind : ControlKind) (value : Value) : Prog Unit :=
  byMember id fittingMember [value] (fitControl id kind value)

/-- Fit a control or an element. -/
def fit (control value : Value) : Prog Unit :=
  if value.isNone then .done ()
  else do
    match ← editable control with
    | .control id kind => fitByMember id kind value
    | _ => raise .noSuchName

/-- The absent value leaves everything alone. -/
@[simp] theorem fit_none (control : Value) : fit control .none = .done () := by
  simp [fit]

end PageObjects.Prog
