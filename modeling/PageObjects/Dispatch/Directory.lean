import PageObjects.Collection.Items
import PageObjects.Dispatch.Resolution

/-!
# The names of attributes

The names of the attributes of a value, in ascending order and apart from those
that all pages have.  A type may list the names of its things by a member of its
own.

Main definitions:

- `Scene.ownNames`: the names that a value has of its own, or from its type.
- `Prog.directory`: the names as they are listed.
-/

namespace PageObjects

namespace Scene

/-- The attributes that a page type and its bases define. -/
def memberNames (s : Scene) (cls : ClassRef) : List String :=
  (s.lineage cls).flatMap fun c => (s.ownMembers c).map (·.1)

/-- The names of the fields of an instance. -/
def fieldNames (s : Scene) (id : Nat) : List Value := (s.fieldsOf id).map fun f => .text f.1

/-- Names as values. -/
def texts (names : List String) : List Value := names.map .text

/-- The names of the members of what remembers pages. -/
def pagingNames : List String := ["create", "current_page", "make", "on", "on_page", "visit"]

/-- The names of the members of what keeps options. -/
def optionNames : List String := ["requires", "set_options", "update_options"]

/-- The names that a record type has. -/
def recordNames (s : Scene) (cls : ClassRef) : List String :=
  match s.recordType? cls with
  | none => []
  | some t =>
    t.members.map (·.1) ++ optionNames ++ (if t.plain then [] else "defaults" :: pagingNames)

/-- The names that definitions have. -/
def definitionNames : List String :=
  ["__dataclass_fields__", "__dataclass_params__", "__match_args__", "_bindings", "_element_names", "_locked",
   "bindings", "locked", "page_name", "url"] ++ definitionMembers

/-- The names that elements have. -/
def elementNames : List String :=
  ["attrs", "click_error", "displayed", "displayed_after", "enabled", "options", "selected", "stale",
   "tag_name", "text"] ++ ElementUse.memberNames

/-- The names that a value has of its own, or from its type. -/
def ownNames (s : Scene) : Value → List Value
  | .page id cls =>
    s.fieldNames id ++ texts (s.memberNames cls) ++ ((s.definition? cls).map (·.names)).getD []
  | .pageType cls => texts (s.memberNames cls)
  | .control id kind =>
    s.fieldNames id ++ texts (["fit", "kind"] ++ (if kind = .textField then ["assert_writable"] else []))
  | .object id none => s.fieldNames id ++ texts pagingNames
  | .object id (some cls) => s.fieldNames id ++ texts (s.recordNames cls)
  | .recordType cls => texts (s.recordNames cls)
  | .element _ => texts elementNames
  | .driver name =>
    texts (["find_element", "get", "title"] ++ ((s.drivers.lookup name).map fun d =>
      d.attributes.map (·.1) ++ d.methods.map (·.1)).getD [])
  | .definition _ => texts definitionNames
  | .catalog _ => texts (["logger", "pages"] ++ catalogMembers)
  | _ => []

end Scene

namespace Prog

/-- The member of a type that lists the names of its things. -/
def listingMember : String := "__dir__"

/-- Names in ascending order, each once; all of them have to be texts. -/
def ordered (names : List Value) : Prog (List String) := do
  let names ← ofOption .wrongType (names.mapM Value.word?)
  pure (names.eraseDups.mergeSort Text.Half.precedes)

/-- The names of the attributes of a value, apart from those that all pages have. -/
def directory (v : Value) : Prog (List String) := do
  let names ← match ← askType v listingMember with
    | some listed => membersOf listed
    | none => view fun s => s.ownNames v
  let names ← ordered names
  pure (names.filter fun n => !PageType.isRootName n)

end Prog

end PageObjects
