import PageObjects.Scene.Display

/-!
# Members of plain values

The members that texts, collections and patterns have themselves, by their
names: those that are values, and those that can be called.

Main definitions:

- `Scene.nativeNames`: the names of the members that can be called.
- `Scene.nativeValue?`: the members that are values.
-/

namespace PageObjects

/-- The members of texts that can be called. -/
def textMembers : List String :=
  ["capitalize", "casefold", "center", "count", "encode", "endswith", "expandtabs", "find", "format",
   "format_map", "index", "isalnum", "isalpha", "isascii", "isdecimal", "isdigit", "isidentifier",
   "islower", "isnumeric", "isprintable", "isspace", "istitle", "isupper", "join", "ljust", "lower",
   "lstrip", "maketrans", "partition", "removeprefix", "removesuffix", "replace", "rfind", "rindex",
   "rjust", "rpartition", "rsplit", "rstrip", "split", "splitlines", "startswith", "strip", "swapcase",
   "title", "translate", "upper", "zfill", "__contains__", "__getitem__", "__iter__", "__len__"]

/-- The members of collections that can be called and change nothing. -/
def readingMembers : List String := ["__contains__", "__getitem__", "__iter__", "__len__"]

/-- The members of mappings that can be called. -/
def mapMembers : List String :=
  ["clear", "copy", "fromkeys", "get", "items", "keys", "pop", "popitem", "setdefault", "update",
   "values", "__setitem__", "__delitem__"] ++ readingMembers

/-- The members of lists that can be called. -/
def listMembers : List String :=
  ["append", "clear", "copy", "count", "extend", "index", "insert", "pop", "remove", "reverse", "sort",
   "__setitem__", "__delitem__"] ++ readingMembers

/-- The members of patterns that can be called. -/
def patternMembers : List String :=
  ["findall", "finditer", "fullmatch", "match", "scanner", "search", "split", "sub", "subn"]

/-- The members of occurrences that can be called. -/
def occurrenceMembers : List String := ["end", "group", "groupdict", "groups", "span", "start", "__getitem__"]

/-- The names of the members of a plain value that can be called. -/
def nativeNames : Value → List String
  | .text _ | .toggle _ | .bindingKind _ => textMembers
  | .list _ => listMembers
  | .tuple _ => ["count", "index"] ++ readingMembers
  | .map _ => mapMembers
  | .mapping (.bindings _) => ["copy", "get", "items", "keys", "values"] ++ readingMembers
  | .mapping _ => mapMembers
  | .set _ | .series .. => ["__contains__", "__iter__", "__len__"]
  | .pattern _ => patternMembers
  | .occurrence _ => occurrenceMembers
  | .announcer => ["info"]
  | .binding .. => ["bind"]
  | _ => []

/-- The number that stands for the options of a pattern. -/
def optionBits (source : String) : Int :=
  match Pattern.compile source with
  | .ok p =>
    (if p.options.template then 1 else 0) + (if p.options.ignoreCase then 2 else 0)
      + (if p.options.multiline then 8 else 0) + (if p.options.dotAll then 16 else 0)
      + (if p.options.ascii then 256 else 32) + (if p.options.verbose then 64 else 0)
  | .error _ => 32

/-- The number of groups of a pattern. -/
def groupCount (source : String) : Nat :=
  match Pattern.compile source with
  | .ok p => p.groupCount
  | .error _ => 0

/-- The members of plain values that are values. -/
def nativeValue? (v : Value) (name : String) : Option Value :=
  match v, name with
  | .pattern source, "pattern" => some (.text source)
  | .pattern source, "flags" => some (.int (optionBits source))
  | .pattern source, "groups" => some (.int (groupCount source))
  | .occurrence f, "string" => some (.text f.subject)
  | .occurrence f, "re" => some (.pattern f.source)
  | .occurrence _, "pos" => some (.int 0)
  | .occurrence f, "endpos" => some (.int f.subject.length)
  | .toggle t, "value" | .toggle t, "_value_" => some (.text (Value.toggleWord t))
  | .toggle t, "name" | .toggle t, "_name_" => some (.text t.name)
  | .bindingKind k, "value" | .bindingKind k, "_value_" => some (.text (Value.bindingWord k))
  | .bindingKind k, "name" | .bindingKind k, "_name_" => some (.text k.name)
  | .expectation n _, "name" => some n
  | .expectation _ t, "timeout" => some t
  | .binding n _ _, "name" => some n
  | .binding _ k _, "kind" => some (.bindingKind k)
  | .binding _ .element p, "locator" => some p
  | .binding _ .action p, "body" => some p
  | .held f _, "__func__" => some f
  | .held _ owner, "__self__" => some owner
  | .member owner _, "__self__" => some owner
  | .systemType n, "__name__" | .systemType n, "__qualname__" => some (.text n)
  | .systemType n, "__module__" => some (.text ((homeOf n).getD "builtins"))
  | .systemType _, "__class__" => some (.systemType "type")
  | _, _ => none

/-- The notes that types of the library keep on themselves. -/
def typeNotes (typeName : String) : Value :=
  match typeName with
  | "Control" => .text "Wraps a WebElement; anything not defined here goes to the element."
  | "TextField" => .text "Text inputs, textareas and anything else that takes keystrokes."
  | "ExpectedElement" => .text "ExpectedElement(name: 'str', timeout: 'float')"
  | "ElementBinding" =>
    .text "\n    Named accessor: calls ``locator(page)`` each time, nothing is cached.\n    "
  | "ActionBinding" => .text "\n    Named, parametrized interaction: ``body(*args, page)``.\n    "
  | "PageDefinition" =>
    .text ("\n    Everything one page type declared: navigation target, construction checks,\n"
      ++ "    and the name -> binding dispatch table.\n\n"
      ++ "    Mutable only until lock() is called; after that every declaration raises\n"
      ++ "    DefinitionLockedError.\n    ")
  | "PageCatalog" =>
    .text ("\n    Reads page declarations from a file or directory and builds PageFactory subclasses.\n\n"
      ++ "    Pages may name a ``base`` page (declared earlier in the same catalog, or passed\n"
      ++ "    in ``bases``) to inherit its declarations.\n    ")
  | _ => .none

end PageObjects
