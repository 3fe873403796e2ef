import PageObjects.Dispatch.Attribute

/-!
# The current page

Sessions and records hold a driver and remember the page they made last.  A page
that cannot be constructed does not change what is remembered, and neither does
a block that fails.

Main definitions:

- `Prog.onPage`: construct a page, remember it, and hand it to a block.
- `Prog.visitPage`: the same, going to its address first.
- `Prog.makeRecord`, `Prog.createRecord`: make a record, and create what it describes.
-/

namespace PageObjects.Prog

/-- The name under which the current page is remembered. -/
def currentPage : String := "current_page"

/-- Construct a page, remember it, and hand it to a block. -/
def onPage (owner pageType visit block : Value) : Prog Value := do
  let browser ← attributeOf PageType.reservedField owner
  let page ← callValue pageType [browser, visit] []
  setAttribute owner currentPage page
  if block.isNone then pure page
  else do
    let _ ← callValue block [page] []
    pure page

/-- Construct a page after going to its address. -/
def visitPage (owner pageType block : Value) : Prog Value := do
  let f ← attributeOf "on" owner
  callValue f [pageType] [("visit", .bool true), ("block", block)]

/-- Make a record without creating what it describes. -/
def makeRecord (owner recordType : Value) (options : Named) : Prog Value := do
  let browser ← attributeOf PageType.reservedField owner
  callValue recordType [browser] options

/-- Make a record and create what it describes. -/
def createRecord (owner recordType : Value) (options : Named) : Prog Value := do
  let f ← attributeOf "make" owner
  let record ← callValue f [recordType] options
  let _ ← callMember record "create" []
  pure record

end PageObjects.Prog
