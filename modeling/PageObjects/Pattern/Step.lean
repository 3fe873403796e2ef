import PageObjects.Pattern.Reader
import PageObjects.Text.Blank
import PageObjects.Text.Uppercase
import PageObjects.Text.Word

/-!
# Steps of a match

A written pattern is made ready for matching by settling what its options
mean: every character test says how the character is folded before it is
compared, and every place says which characters count as words.

Main definitions:

- `CharTest`: a test on one character.
- `Step`: one step of a match; a list of steps is a sequence.
- `stepsOf`: the steps of a sequence of trees.
- `StartRule`: the places where a match is looked for.
-/

namespace PageObjects.Pattern

open PageObjects.Text

/-! ## Folding -/

/-- How a character is folded before it is compared. -/
inductive Folding where
  | exact
  | ascii
  | full
deriving Repr, DecidableEq

/-- The folded form of a code point. -/
def Folding.apply : Folding → Nat → Nat
  | .exact, n => n
  | .ascii, n => if 65 ≤ n && n ≤ 90 then n + 32 else n
  | .full, n => if n == 0x130 then 105 else lowerCode lowerRuns n

/-- The folded forms that a folded code point is identified with. -/
def Folding.variants : Folding → Nat → List Nat
  | .full, n => n :: caseVariants n
  | _, n => [n]

/-- The folding under the options. -/
def Options.folding (o : Options) : Folding :=
  if !o.ignoreCase then .exact else if o.unicode then .full else .ascii

/-- Whether a run of code points has a member in a range. -/
def meetsRun (lo hi : Nat) (run : CaseRun) : Bool :=
  let first := max lo run.first
  let first := first + (run.step - 1 - (first - run.first + run.step - 1) % run.step)
  first ≤ min hi run.last

/-- Whether a range holds a code point that a folding tells cases apart for. -/
def Folding.hasCased : Folding → (lo hi : Nat) → Bool
  | .exact, _, _ => false
  | .ascii, lo, hi => (lo ≤ 90 && 65 ≤ hi) || (lo ≤ 122 && 97 ≤ hi)
  | .full, lo, hi =>
    (lo ≤ 0x130 && 0x130 ≤ hi) || lowerRuns.any (meetsRun lo hi) || upperRuns.any (meetsRun lo hi)

/-- The code points that a table of runs maps to a code point. -/
def sourcesOf (runs : List CaseRun) (n : Nat) : List Nat :=
  runs.filterMap fun run =>
    let x := ((n : Int) - run.shift).toNat
    if run.first ≤ x && x ≤ run.last && (x - run.first) % run.step == 0 then some x else none

/-- The code points whose folded form is `n`. -/
def Folding.sources : Folding → Nat → List Nat
  | .exact, n => [n]
  | .ascii, n => if 97 ≤ n && n ≤ 122 then [n, n - 32] else if 65 ≤ n && n ≤ 90 then [] else [n]
  | .full, n =>
    let others := sourcesOf lowerRuns n ++ (if n == 105 then [0x130] else [])
    if Folding.full.apply n == n then n :: others else others

/-! ## Tests on one character -/

/-- Whether a code point belongs to a named class. -/
def Category.holds (unicode : Bool) (n : Nat) : Category → Bool
  | .digit => if unicode then digitRanges.holds n else 48 ≤ n && n ≤ 57
  | .blank => if unicode then blankRanges.holds n else n == 32 || (9 ≤ n && n ≤ 13)
  | .word =>
    if unicode then n == 95 || wordRanges.holds n
    else n == 95 || (48 ≤ n && n ≤ 57) || (65 ≤ n && n ≤ 90) || (97 ≤ n && n ≤ 122)

/-- One item of a test on a folded character. -/
inductive TestItem where
  | code (n : Nat)
  | range (lo hi : Nat)
  | foldedRange (lo hi : Nat)
  | eitherCase (lo hi : Nat)
  | category (named : Category) (unicode negated : Bool)
deriving Repr, DecidableEq

/-- A test on one character: it is folded first, and then one of the items must hold, or none. -/
structure CharTest where
  negated : Bool
  folding : Folding
  items : List TestItem
deriving Repr, DecidableEq

/-- Characters beyond this one are never folded inside a class. -/
def foldedClassLimit : Nat := 0xffff

/-- Whether an item holds of a folded character. -/
def TestItem.holds (folding : Folding) (n : Nat) : TestItem → Bool
  | .code k => n == k
  | .range lo hi => lo ≤ n && n ≤ hi
  | .foldedRange lo hi =>
    n ≤ foldedClassLimit && (folding.variants n).any fun v =>
      (folding.sources v).any fun x => lo ≤ x && x ≤ hi && x ≤ foldedClassLimit
  | .eitherCase lo hi =>
    (lo ≤ n && n ≤ hi) || (lo ≤ upperCode n && upperCode n ≤ hi)
  | .category named unicode negated => named.holds unicode n != negated

/-- Whether a character passes a test. -/
def CharTest.holds (test : CharTest) (n : Nat) : Bool :=
  test.items.any (TestItem.holds test.folding (test.folding.apply n)) != test.negated

/-- The test for one character of the pattern. -/
def codeTest (o : Options) (negated : Bool) (n : Nat) : CharTest :=
  if o.folding.hasCased n n then
    ⟨negated, o.folding, (o.folding.variants (o.folding.apply n)).map .code⟩
  else ⟨negated, .exact, [.code n]⟩

/-- Whether an item of a class asks for folding. -/
def ClassItem.asksFolding (folding : Folding) : ClassItem → Bool
  | .code n => folding != .exact && (foldedClassLimit < n || folding.hasCased n n)
  | .range lo hi => folding != .exact && (foldedClassLimit < hi || folding.hasCased lo hi)
  | .category .. => false

/-- The test items of a class item. -/
def ClassItem.testItems (folding : Folding) (unicode : Bool) : ClassItem → List TestItem
  | .code n =>
    if folding == .exact || foldedClassLimit < n then [.code n]
    else (folding.variants (folding.apply n)).map .code
  | .range lo hi =>
    if folding == .exact then [.range lo hi]
    else if foldedClassLimit < hi then [.foldedRange lo hi, .eitherCase lo hi]
    else [.foldedRange lo hi]
  | .category named negated => [.category named unicode negated]

/-- The test of a class. -/
def classTest (o : Options) (negated : Bool) (items : List ClassItem) : CharTest :=
  let folding := if items.any (ClassItem.asksFolding o.folding) then o.folding else .exact
  ⟨negated, folding, items.flatMap (ClassItem.testItems folding o.unicode)⟩

/-- The test of the dot. -/
def anyTest (o : Options) : CharTest :=
  if o.dotAll then ⟨true, .exact, []⟩ else ⟨true, .exact, [.code 10]⟩

/-- The character that a test asks for, if it asks for just that one. -/
def CharTest.certain? (test : CharTest) : Option Nat :=
  match test with
  | ⟨false, .exact, [.code n]⟩ => some n
  | _ => none

/-- Whether a test on the first character of a way is made before the way is
tried: it asks for one character, or it is a class; neither folds. -/
def CharTest.isPlain (test : CharTest) : Bool :=
  match test with
  | ⟨true, .exact, []⟩ | ⟨true, .exact, [.code _]⟩ => false
  | test => test.folding == .exact

/-- Whether a test is a class that folds. -/
def CharTest.isFoldedClass (test : CharTest) : Bool :=
  match test.items with
  | [.code _] => false
  | _ => test.folding != .exact

/-! ## Steps -/

/-- Places that a match asks for without consuming a character. -/
inductive Anchor where
  | textStart
  | lineStart
  | textEnd
  | finalLineEnd
  | lineEnd
  | boundary (unicode negated : Bool)
deriving Repr, DecidableEq

/-- The place that a written mark stands for. -/
def Mark.anchor (o : Options) : Mark → Anchor
  | .textStart => .textStart
  | .caret => if o.multiline then .lineStart else .textStart
  | .textEnd => .textEnd
  | .dollar => if o.multiline then .lineEnd else .finalLineEnd
  | .boundary negated => .boundary o.unicode negated

/-- One step of a match; a list of steps is a sequence.  A repetition of a
single character has a step of its own. -/
inductive Step where
  | one (test : CharTest)
  | anchor (place : Anchor)
  | edge (index : Nat)
  | branch (ways : List (List Step))
  | run (least : Nat) (most : Option Nat) (greed : Greed) (test : CharTest)
  | rounds (least : Nat) (most : Option Nat) (greed : Greed) (body : List Step)
  | backref (folding : Folding) (index : Nat)
  | assertion (negated : Bool) (back : Nat) (body : List Step)
  | atomic (body : List Step)
  | ifMatched (index : Nat) (yes no : List Step)
deriving Repr

mutual

/-- Whether a tree stands for a single character. -/
def Node.isUnit : Node → Bool
  | .code .. | .any | .set .. => true
  | .group none _ _ body => isUnit body
  | _ => false

/-- Whether a sequence stands for a single character. -/
def isUnit : List Node → Bool
  | [node] => node.isUnit
  | _ => false

end

/-- The greatest width that an assertion can look back. -/
def lookBackLimit : Nat := Nat.pow 2 32 - 1

mutual

/-- The steps of a tree under the options. -/
def Node.steps (groups : List (Nat × Width)) (o : Options) : Node → Except Fault (List Step)
  | .code negated n => .ok [.one (codeTest o negated n)]
  | .any => .ok [.one (anyTest o)]
  | .set negated items => .ok [.one (classTest o negated items)]
  | .mark place => .ok [.anchor (place.anchor o)]
  | .branch ways => do return [.branch (← stepsOfWays groups o ways)]
  | .group index on off body => do
    let steps ← stepsOf groups (o.inside on off) body
    match index with
    | some i => return .edge (2 * i - 2) :: steps ++ [.edge (2 * i - 1)]
    | none => return steps
  | .repeated least most greed body => do
    if o.template then throw .malformed
    let steps ← stepsOf groups o body
    match steps with
    | [.one test] => return [if isUnit body then .run least most greed test else .rounds least most greed steps]
    | _ => return [.rounds least most greed steps]
  | .backref i => .ok [.backref o.folding i]
  | .assertion behind negated body => do
    let (lo, hi) := widthOf groups body
    if behind && (lookBackLimit < lo || lo != hi) then throw .malformed
    return [.assertion negated (if behind then lo else 0) (← stepsOf groups o body)]
  | .atomic body => do return [.atomic (← stepsOf groups o body)]
  | .ifMatched i yes none => do return [.ifMatched i (← stepsOf groups o yes) []]
  | .ifMatched i yes (some no) => do
    return [.ifMatched i (← stepsOf groups o yes) (← stepsOf groups o no)]

/-- The steps of a sequence of trees. -/
def stepsOf (groups : List (Nat × Width)) (o : Options) : List Node → Except Fault (List Step)
  | [] => .ok []
  | node :: rest => do return (← node.steps groups o) ++ (← stepsOf groups o rest)

/-- The steps of several sequences. -/
def stepsOfWays (groups : List (Nat × Width)) (o : Options) : List (List Node) →
    Except Fault (List (List Step))
  | [] => .ok []
  | way :: rest => do return (← stepsOf groups o way) :: (← stepsOfWays groups o rest)

end

/-! ## Where matches begin -/

/-- The places where a match is looked for: up to a distance from the end of the
text, or wherever a character passes a test. -/
inductive StartRule where
  | upTo (distance : Nat)
  | whereTest (test : CharTest)
deriving Repr, DecidableEq

mutual

/-- Whether a tree begins with a certain character, and whether it is nothing else. -/
def Node.startsCertain (o : Options) : Node → Bool × Bool
  | .code false n => if o.folding.hasCased n n then (false, false) else (true, true)
  | .group _ on off body => startsCertain (o.inside on off) body
  | _ => (false, false)

/-- Whether a sequence begins with a certain character, and whether it is nothing else. -/
def startsCertain (o : Options) : List Node → Bool × Bool
  | [] => (false, true)
  | node :: rest =>
    match node.startsCertain o with
    | (sure, true) =>
      let (more, all) := startsCertain o rest
      (sure || more, all)
    | (sure, false) => (sure, false)

end

mutual

/-- The class of the characters that a tree begins with, if that is easy to see. -/
def Node.startClass? (o : Options) : Node → Option (Bool × List ClassItem)
  | .code false n => if o.folding.hasCased n n then none else some (false, [.code n])
  | .set negated items =>
    if items.any (fun item => match item with
        | .code n => o.folding.hasCased n n
        | .range lo hi => o.folding != .exact && (foldedClassLimit < hi || o.folding.hasCased lo hi)
        | .category .. => false)
    then none else some (negated, items)
  | .branch ways =>
    (ways.mapM fun (way : List Node) => match way with
      | .code false n :: _ => if o.folding.hasCased n n then none else some (ClassItem.code n)
      | _ => none).map fun items => (false, items)
  | .group _ on off body => startClass? (o.inside on off) body
  | _ => none

/-- The class of the characters that a sequence begins with, if that is easy to see. -/
def startClass? (o : Options) : List Node → Option (Bool × List ClassItem)
  | [] => none
  | node :: _ => node.startClass? o

end

/-- The places where a match of a sequence is looked for.  The class of the
first character is read under the options of the whole pattern. -/
def startRule (groups : List (Nat × Width)) (o : Options) (tree : List Node) : StartRule :=
  let least := (widthOf groups tree).1
  if least == 0 then .upTo 0
  else if (startsCertain o tree).1 then .upTo 0
  else
    match startClass? o tree with
    | some (negated, items) =>
      .whereTest ⟨negated, .exact, items.flatMap (ClassItem.testItems .exact o.unicode)⟩
    | none => .upTo (least - 1)

end PageObjects.Pattern
