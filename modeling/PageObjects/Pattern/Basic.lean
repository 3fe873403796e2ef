import PageObjects.Pattern.Matching

/-!
# Patterns

A pattern is a text that was read and made ready for matching.

Main definitions:

- `Compiled`: a pattern that is ready for matching.
- `compile`: make a written pattern ready.
- `Compiled.search`: the first match in a text, from a place on.
- `Compiled.foundIn`: whether a pattern matches somewhere in a text.
-/

namespace PageObjects.Pattern

/-- A pattern that is ready for matching. -/
structure Compiled where
  options : Options
  groupCount : Nat
  names : List (String × Nat)
  least : Nat
  start : StartRule
  steps : List Step
deriving Repr

/-- Make a written pattern ready for matching. -/
def compile (source : String) : Except Fault Compiled := do
  let written ← Written.read source
  let steps ← stepsOf written.widths written.options written.tree
  return {
    options := written.options
    groupCount := written.groupCount
    names := written.names
    least := (widthOf written.widths written.tree).1
    start := startRule written.widths written.options written.tree
    steps }

namespace Compiled

/-- The code points of a text. -/
def codes (text : String) : Array Nat := (text.toList.map Text.Half.code).toArray

/-- A match all of whose groups end after they begin.  A group that was noted in
two different rounds of a repetition may not. -/
def checked (pattern : Compiled) : Option Found → Except Fault (Option Found)
  | none => .ok none
  | some found =>
    if (List.range pattern.groupCount).any fun g => found.edges.isBroken (g + 1) then .error .brokenGroup
    else .ok (some found)

/-- The first match in a text from a place on. -/
def search (pattern : Compiled) (text : String) (place : Nat) : Except Fault (Option Found) :=
  pattern.checked (searchFrom pattern.start pattern.least pattern.steps (codes text) place)

/-- A match at the start of a text. -/
def matchStart (pattern : Compiled) (text : String) : Except Fault (Option Found) :=
  let chars := codes text
  pattern.checked (if chars.size < pattern.least then none else matchAt chars pattern.steps 0)

/-- A match of a whole text. -/
def matchWhole (pattern : Compiled) (text : String) : Except Fault (Option Found) :=
  let chars := codes text
  let whole : Continuation := fun j edges => if j == chars.size then ended j edges else (none, edges)
  pattern.checked <|
    if chars.size < pattern.least then none
    else
      match runSteps chars false none pattern.steps 0 {} whole with
      | (some j, edges) => some ⟨0, j, edges⟩
      | (none, _) => none

/-- Whether a pattern matches somewhere in a text. -/
def foundIn (pattern : Compiled) (text : String) : Except Fault Bool :=
  (pattern.search text 0).map (·.isSome)

end Compiled

end PageObjects.Pattern
