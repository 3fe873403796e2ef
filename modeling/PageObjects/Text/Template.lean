/-!
# Address templates

An address template may name the base address of the site under test.  Each
occurrence of the placeholder is replaced in one pass from the left, and the
inserted address is not scanned again.

Main definitions:

- `replaceAll`: replacement of every occurrence of a pattern in one pass.
- `resolveAddress`: a template with the base address put in.
-/

namespace PageObjects.Text

/-- Scan a text for the placeholder; `skip` characters belong to an occurrence
that has been replaced already. -/
def replaceFrom (pattern value : List Char) : (skip : Nat) → List Char → List Char
  | _, [] => []
  | skip + 1, _ :: text => replaceFrom pattern value skip text
  | 0, c :: text =>
    if pattern.isPrefixOf (c :: text) then
      value ++ replaceFrom pattern value (pattern.length - 1) text
    else c :: replaceFrom pattern value 0 text

/-- A text with every occurrence of a non-empty pattern replaced in one pass. -/
def replaceAll (pattern value text : List Char) : List Char :=
  replaceFrom pattern value 0 text

/-- The placeholder for the base address. -/
def basePlaceholder : List Char := ['\x7b', 'b', 'a', 's', 'e', '_', 'u', 'r', 'l', '\x7d']

/-- A template with the base address in place of every placeholder. -/
def resolveAddress (base template : String) : String :=
  String.ofList (replaceAll basePlaceholder base.toList template.toList)

@[simp] theorem replaceAll_nil (pattern value : List Char) : replaceAll pattern value [] = [] := by
  simp [replaceAll, replaceFrom]

end PageObjects.Text
