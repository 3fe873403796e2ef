/-!
# Names that every page type has

Some names belong to the root of all page types, and so to every page; others
belong to types only.

Main definitions:

- `rootName`: the name of the root.
- `rootMembers`: the members of the root that pages share.
- `commonNames`: the names that types, pages and all other things share.
- `typeOnlyNames`: the names that types have and pages do not.
- `reservedField`: the name that every page sets on itself.
- `isGuarded`: the shape of names that are never looked up elsewhere.
-/

namespace PageObjects.PageType

/-- The name of the root of all page types. -/
def rootName : String := "PageFactory"

/-- The members of the root that pages share. -/
def rootMembers : List String :=
  ["_check_name", "_definition", "_resolve_accessor", "action", "button", "damballa", "declare",
   "element", "expected_element", "expected_title", "goto", "link", "page_definition", "page_url",
   "value", "verify_expected_title", "wait_for_expected_element"]

/-- The names that every thing has. -/
def commonNames : List String :=
  ["__class__", "__delattr__", "__dir__", "__doc__", "__eq__", "__format__", "__ge__",
   "__getattribute__", "__getstate__", "__gt__", "__hash__", "__init__", "__init_subclass__",
   "__le__", "__lt__", "__ne__", "__new__", "__reduce__", "__reduce_ex__", "__repr__",
   "__setattr__", "__sizeof__", "__str__", "__subclasshook__"]

/-- The further names that every page and every page type has. -/
def furtherNames : List String :=
  ["__annotations__", "__dict__", "__getattr__", "__module__", "__weakref__"]

/-- The names that types have and pages do not. -/
def typeOnlyNames : List String :=
  ["mro", "__base__", "__bases__", "__basicsize__", "__call__", "__dictoffset__", "__flags__",
   "__instancecheck__", "__itemsize__", "__mro__", "__name__", "__or__", "__prepare__",
   "__qualname__", "__ror__", "__subclasscheck__", "__subclasses__", "__text_signature__",
   "__weakrefoffset__"]

/-- The name that every page sets on itself. -/
def reservedField : String := "browser"

/-- Whether a page has a name from the root of all page types. -/
def isRootName (name : String) : Bool :=
  rootMembers.contains name || commonNames.contains name || furtherNames.contains name

/-- Whether a name begins and ends with two underscores. -/
def isGuarded (name : String) : Bool :=
  name.startsWith "__" && name.endsWith "__"

end PageObjects.PageType
