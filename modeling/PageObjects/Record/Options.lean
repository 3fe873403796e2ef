import PageObjects.Collection.Members
import PageObjects.Page.Construction

/-!
# The options of records

A record keeps what it describes in fields.  Options that are absent leave the
fields as they are, so what a form was filled with can be handed on as it is.

Main definitions:

- `Prog.setOptions`: copy options to the fields of a record.
- `Prog.requireFields`: end with a fault unless fields have values.
- `Prog.newRecord`: make a record of a type.

Main results:

- Theorem `Prog.setEntries_none`: absent options are passed over.
-/

namespace PageObjects.Prog

/-! ## Options -/

/-- Set a field of a record. -/
def setEntry (record key value : Value) : Prog Unit :=
  match key.word? with
  | none => raise .wrongType
  | some name => setAttribute record name value

/-- Set the fields that options have values for. -/
def setEntries (record : Value) : Value.Entries → Prog Unit
  | [] => .done ()
  | (key, value) :: rest =>
    if value.isNone then setEntries record rest
    else do
      setEntry record key value
      setEntries record rest

/-- A value that gives exactly two, as an entry. -/
def pairOf (v : Value) : Prog (Value × Value) := do
  match ← membersOf v with
  | [key, value] => pure (key, value)
  | parts => raise (.notTwo parts.length)

/-- Set the fields for which values give pairs, one after the other. -/
def setPairs (record : Value) : List Value → Prog Unit
  | [] => .done ()
  | v :: rest => do
    let entry ← pairOf v
    setEntries record [entry]
    setPairs record rest

/-- Copy options to the fields of a record. -/
def setOptions (record options : Value) : Prog Unit := do
  match ← view fun s => s.entries? options with
  | some entries => setEntries record entries
  | none =>
    if ← truth options then do
      let items ← callMember options "items" []
      setPairs record (← membersOf items)
    else pure ()

/-! ## Requirements -/

/-- Whether a record has no value under a name. -/
def lacks (record : Value) (name : String) : Prog Bool := do
  match ← outcome (attributeOf name record) with
  | .ok v => pure v.isNone
  | .error r => if r.kind = .absentName then pure true else .fail r

/-- The values among names that a record has no value for. -/
def missingFields (record : Value) : List Value → Prog (List String)
  | [] => .done []
  | name :: rest => do
    let n ← ofOption .wrongType name.word?
    let absent ← lacks record n
    let others ← missingFields record rest
    pure (if absent then n :: others else others)

/-- End with a fault unless a record has values for all names. -/
def requireFields (record : Value) (names : List Value) : Prog Unit := do
  let missing ← missingFields record names
  if missing.isEmpty then pure () else raise (.missingData record.typeName missing)

/-! ## Making records -/

/-- Copy options to the fields of a record by its own means. -/
def applyOptions (record options : Value) : Prog Unit := do
  let own ← view fun s => (s.typeMember? record "set_options").isSome ||
    (s.typeMember? record everyName).isSome ||
    ((instanceOf? record).bind fun id => s.field? id "set_options").isSome
  if own then do
    let _ ← callMember record "set_options" [options]
  else setOptions record options

/-- Set a record up with a driver and options. -/
def setUpRecord (record browser : Value) (options : Named) : Prog Unit := do
  setAttribute record PageType.reservedField browser
  let defaults ← attributeOf "defaults" record
  let defaults ← newMap (← entriesOf defaults)
  applyOptions record defaults
  applyOptions record (← newMap (Value.named options))

/-- Set a record up with what it is made with.  Options may not be named like
what a record is given anyway. -/
def setUpRecordWith (record : Value) (args : List Value) (named : Named) : Prog Unit :=
  match args, named.lookup PageType.reservedField, named.lookup "self" with
  | [browser], none, none => setUpRecord record browser named
  | [], some browser, none => setUpRecord record browser (named.filter fun e => e.1 != PageType.reservedField)
  | _, _, _ => raise .wrongType

/-- Make a record without a driver. -/
def bareRecord (cls : ClassRef) : Prog Value := do
  let id ← op (.addInstance {})
  pure (.object id (some cls))

/-- Make a record that its type sets up.  A plain one takes no arguments. -/
def buildRecord (cls : ClassRef) (args : List Value) (named : Named) : Prog Value := do
  let type ← ofOption .unset (← view fun s => s.recordType? cls)
  let setter := type.members.lookup setUpMember
  if setter.isNone && type.plain && !(args.isEmpty && named.isEmpty) then raise .wrongType
  else do
    let record ← bareRecord cls
    match setter with
    | some f => setUpByMember f record args named
    | none => if type.plain then pure () else setUpRecordWith record args named
    pure record

/-- Make a record of a type. -/
def newRecord (cls : ClassRef) (args : List Value) (named : Named) : Prog Value := do
  match ← view fun s => s.recordMember? cls makingMember with
  | some maker => callValue maker (.recordType cls :: args) named
  | none => buildRecord cls args named

/-- Absent options are passed over. -/
@[simp] theorem setEntries_none (record key : Value) (rest : Value.Entries) :
    setEntries record ((key, .none) :: rest) = setEntries record rest := rfl

end PageObjects.Prog
