/-!
# Text patterns

A title or an option of a select list may be described by a pattern.  This
module holds the tree of a pattern as it is written, the option letters, and
the lengths of the texts that a tree can match.

Main definitions:

- `Options`: the option letters in force.
- `Node`: the tree of a pattern.
- `Node.width`, `widthOf`: the least and the greatest length of a match.
-/

namespace PageObjects.Pattern

/-- The option letters in force. -/
structure Options where
  ignoreCase : Bool := false
  multiline : Bool := false
  dotAll : Bool := false
  verbose : Bool := false
  ascii : Bool := false
  unicode : Bool := false
  template : Bool := false
deriving Repr, DecidableEq

namespace Options

/-- All letters of two sets. -/
def union (a b : Options) : Options where
  ignoreCase := a.ignoreCase || b.ignoreCase
  multiline := a.multiline || b.multiline
  dotAll := a.dotAll || b.dotAll
  verbose := a.verbose || b.verbose
  ascii := a.ascii || b.ascii
  unicode := a.unicode || b.unicode
  template := a.template || b.template

/-- The letters of a set that are not in another. -/
def without (a b : Options) : Options where
  ignoreCase := a.ignoreCase && !b.ignoreCase
  multiline := a.multiline && !b.multiline
  dotAll := a.dotAll && !b.dotAll
  verbose := a.verbose && !b.verbose
  ascii := a.ascii && !b.ascii
  unicode := a.unicode && !b.unicode
  template := a.template && !b.template

/-- Whether a set has no letter. -/
def isNone (a : Options) : Bool := a == {}

/-- The options inside a group that switches some letters on and others off. -/
def inside (outer on off : Options) : Options :=
  let outer := if on.ascii || on.unicode then { outer with ascii := false, unicode := false } else outer
  (outer.union on).without off

end Options

/-- Named character classes. -/
inductive Category where
  | digit
  | blank
  | word
deriving Repr, DecidableEq

/-- One item of a character class. -/
inductive ClassItem where
  | code (n : Nat)
  | range (lo hi : Nat)
  | category (named : Category) (negated : Bool)
deriving Repr, DecidableEq

/-- Places that a pattern can ask for without consuming a character, as they are written. -/
inductive Mark where
  | textStart
  | caret
  | textEnd
  | dollar
  | boundary (negated : Bool)
deriving Repr, DecidableEq

/-- The order in which the counts of a repetition are tried. -/
inductive Greed where
  | greedy
  | lazy
  | possessive
deriving Repr, DecidableEq

/-- The tree of a pattern as it is written; a list of trees is a sequence. -/
inductive Node where
  | code (negated : Bool) (n : Nat)
  | any
  | set (negated : Bool) (items : List ClassItem)
  | mark (place : Mark)
  | branch (ways : List (List Node))
  | group (index : Option Nat) (on off : Options) (body : List Node)
  | repeated (least : Nat) (most : Option Nat) (greed : Greed) (body : List Node)
  | backref (index : Nat)
  | assertion (behind negated : Bool) (body : List Node)
  | atomic (body : List Node)
  | ifMatched (index : Nat) (yes : List Node) (no : Option (List Node))
deriving Repr

/-! ## The lengths of matches -/

/-- The least and the greatest length of a match. -/
abbrev Width := Nat × Nat

namespace Width

/-- Lengths are not told apart from here on. -/
def limit : Nat := Nat.pow 2 64

/-- The lengths of two matches in a row. -/
def add (a b : Width) : Width := (a.1 + b.1, a.2 + b.2)

/-- The lengths of either of two matches. -/
def join (a b : Width) : Width := (min a.1 b.1, max a.2 b.2)

/-- Lengths within the limit. -/
def bounded (a : Width) : Width := (min a.1 limit, min a.2 limit)

/-- The lengths of a repetition. -/
def times (least : Nat) (most : Option Nat) (w : Width) : Width :=
  (w.1 * least, match most with
    | some m => w.2 * m
    | none => if w.2 == 0 then 0 else limit)

end Width

mutual

/-- The lengths of the matches of a tree, given those of the groups it refers to. -/
def Node.width (groups : List (Nat × Width)) : Node → Width
  | .code .. | .any | .set .. => (1, 1)
  | .mark _ | .assertion .. => (0, 0)
  | .branch ways => widthOfWays groups ways
  | .group _ _ _ body | .atomic body => widthOf groups body
  | .repeated least most _ body => (widthOf groups body).times least most
  | .backref i => (groups.lookup i).getD (0, 0)
  | .ifMatched _ yes none => ((widthOf groups yes)).join (0, 0)
  | .ifMatched _ yes (some no) => (widthOf groups yes).join (widthOf groups no)

/-- The lengths of the matches of a sequence. -/
def widthOf (groups : List (Nat × Width)) : List Node → Width
  | [] => (0, 0)
  | node :: rest => ((node.width groups).add (widthOf groups rest)).bounded

/-- The lengths of the matches of any of several sequences. -/
def widthOfWays (groups : List (Nat × Width)) : List (List Node) → Width
  | [] => (Width.limit, 0)
  | way :: rest => (widthOf groups way).join (widthOfWays groups rest)

end

end PageObjects.Pattern
