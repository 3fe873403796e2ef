import PageObjects.Decimal.Integer
import PageObjects.Pattern.Node
import PageObjects.Text.CharName
import PageObjects.Text.Half
import PageObjects.Text.Identifier

/-!
# Reading patterns

The written form of a pattern: alternatives, repetitions, classes, groups,
references, assertions and option letters.

Main definitions:

- `Fault`: why a text is no pattern.
- `Written`: a pattern that was read, with its options and groups.
- `Written.read`: the tree of a written pattern.
-/

namespace PageObjects.Pattern

open PageObjects.Text

/-- Why a text is no pattern, or why a pattern gives no answer. -/
inductive Fault where
  | malformed
  | countTooLarge
  | clashingOptions
  | integerTooLong (digits : Nat)
  | tooDeep
  | brokenGroup
deriving Repr, DecidableEq

/-- What is known while a pattern is read. -/
structure Progress where
  rest : List Char
  options : Options := {}
  groupCount : Nat := 0
  widths : List (Nat × Width) := []
  names : List (String × Nat) := []
  behindGroups : Option Nat := none
  asked : List Nat := []

/-- A step of reading. -/
abbrev Reading := StateT Progress (Except Fault)

/-- Give up on a malformed pattern. -/
def malformed {α : Type} : Reading α := throw .malformed

/-- The next token: a character, or a backslash with the character after it. -/
def peekToken : Reading (Option (List Char)) := do
  match (← get).rest with
  | [] => return none
  | ['\\'] => malformed
  | '\\' :: c :: _ => return some ['\\', c]
  | c :: _ => return some [c]

/-- Take the next token.  The token after it must not be half of an escape. -/
def takeToken : Reading (Option (List Char)) := do
  let token ← peekToken
  if let some t := token then
    modify fun s => { s with rest := s.rest.drop t.length }
    discard peekToken
  return token

/-- Take a character if it comes next. -/
def takeIf (c : Char) : Reading Bool := do
  if (← peekToken) == some [c] then
    discard takeToken
    return true
  else return false

/-- Take up to `n` characters that pass a test. -/
def takeWhileMost (test : Char → Bool) (n : Nat) : Reading (List Char) := do
  let s ← get
  let taken := (s.rest.take n).takeWhile test
  set { s with rest := s.rest.drop taken.length }
  discard peekToken
  return taken

/-- The value of digits of a base. -/
def digitsValue (base : Nat) (cs : List Char) : Nat :=
  cs.foldl (fun n c => n * base + (hexValue? c).getD 0) 0

/-- A code point given by exactly `n` hexadecimal digits. -/
def hexEscape (n : Nat) : Reading Nat := do
  let digits ← takeWhileMost (fun c => (hexValue? c).isSome) n
  if digits.length != n then malformed
  let code := digitsValue 16 digits
  if 0x10ffff < code then malformed
  return code

/-- Whether a character is an octal digit. -/
def isOctal (c : Char) : Bool := '0' ≤ c && c ≤ '7'

/-- Whether a character is an ASCII digit. -/
def isAsciiDigit (c : Char) : Bool := '0' ≤ c && c ≤ '9'

/-- The characters up to a closing one, which is taken too; there must be some. -/
def takeUntil (close : Char) : (fuel : Nat) → (name : List Char) → Reading (List Char)
  | 0, _ => malformed
  | fuel + 1, name => do
    let some token ← takeToken | malformed
    if token == [close] then
      if name.isEmpty then malformed
      return name
    takeUntil close fuel (name ++ token)

/-- A code point given by the name of its character in braces. -/
def nameEscape : Reading Nat := do
  if !(← takeIf '\x7b') then malformed
  let name ← takeUntil '\x7d' ((← get).rest.length + 1) []
  match CharName.find? (String.ofList name) with
  | some code => return code
  | none => malformed

/-- The characters that escapes of a single letter stand for. -/
def letterEscape? : Char → Option Nat
  | 'a' => some 7
  | 'f' => some 12
  | 'n' => some 10
  | 'r' => some 13
  | 't' => some 9
  | 'v' => some 11
  | '\\' => some 92
  | _ => none

/-- The classes that escapes of a single letter stand for. -/
def letterClass? : Char → Option ClassItem
  | 'd' => some (.category .digit false)
  | 'D' => some (.category .digit true)
  | 's' => some (.category .blank false)
  | 'S' => some (.category .blank true)
  | 'w' => some (.category .word false)
  | 'W' => some (.category .word true)
  | _ => none

/-- An escape inside a character class. -/
def classEscape (c : Char) : Reading ClassItem := do
  if c == 'b' then return .code 8
  if let some code := letterEscape? c then return .code code
  if let some item := letterClass? c then return item
  if c == 'x' then return .code (← hexEscape 2)
  if c == 'u' then return .code (← hexEscape 4)
  if c == 'U' then return .code (← hexEscape 8)
  if c == 'N' then return .code (← nameEscape)
  if isOctal c then
    let code := digitsValue 8 (c :: (← takeWhileMost isOctal 2))
    if 0o377 < code then malformed
    return .code code
  if isAsciiDigit c || c.isAlpha then malformed
  return .code (Half.code c)

/-- Inside an assertion about what comes before, a group may be referred to only
if it was closed ahead of the assertion. -/
def checkBehind (index : Nat) : Reading Unit := do
  let s ← get
  if let some limit := s.behindGroups then
    if (s.widths.lookup index).isNone || limit < index then malformed

/-- A group may be referred to once it is closed. -/
def checkReference (index : Nat) : Reading Unit := do
  if ((← get).widths.lookup index).isNone then malformed
  checkBehind index

/-- An escape outside a character class. -/
def escape (c : Char) : Reading Node := do
  match c with
  | 'A' => return .mark .textStart
  | 'Z' => return .mark .textEnd
  | 'b' => return .mark (.boundary false)
  | 'B' => return .mark (.boundary true)
  | _ =>
  if let some item := letterClass? c then return .set false [item]
  if let some code := letterEscape? c then return .code false code
  if c == 'x' then return .code false (← hexEscape 2)
  if c == 'u' then return .code false (← hexEscape 4)
  if c == 'U' then return .code false (← hexEscape 8)
  if c == 'N' then return .code false (← nameEscape)
  if c == '0' then return .code false (digitsValue 8 (← takeWhileMost isOctal 2))
  if isAsciiDigit c then
    let more ← takeWhileMost isAsciiDigit 1
    let digits := c :: more
    if digits.length == 2 && digits.all isOctal then
      let third ← takeWhileMost isOctal 1
      if !third.isEmpty then
        let code := digitsValue 8 (digits ++ third)
        if 0o377 < code then malformed
        return .code false code
    let index := digitsValue 10 digits
    checkReference index
    return .backref index
  if c.isAlpha then malformed
  return .code false (Half.code c)

/-- A class item from its first token. -/
def classItem : List Char → Reading ClassItem
  | ['\\', c] => classEscape c
  | c :: _ => return .code (Half.code c)
  | [] => malformed

/-- The items of a character class after its opening bracket. -/
def classItems : (fuel : Nat) → (items : List ClassItem) → Reading (List ClassItem)
  | 0, _ => malformed
  | fuel + 1, items => do
    let some token ← takeToken | malformed
    if token == [']'] && !items.isEmpty then return items
    let item ← classItem token
    if ← takeIf '-' then
      let some token ← takeToken | malformed
      if token == [']'] then return items ++ [item, .code 45]
      let upper ← classItem token
      match item, upper with
      | .code lo, .code hi =>
        if hi < lo then malformed
        classItems fuel (items ++ [.range lo hi])
      | _, _ => malformed
    else classItems fuel (items ++ [item])

/-- The first occurrence of each item. -/
def distinctItems (items : List ClassItem) : List ClassItem :=
  items.foldl (fun seen item => if seen.contains item then seen else seen ++ [item]) []

/-- The tree of a character class. -/
def classNode (negated : Bool) (items : List ClassItem) : Node :=
  match distinctItems items with
  | [.code n] => .code negated n
  | items => .set negated items

/-- Skip a comment up to a closing character; whether it must be closed is given. -/
def skipUntil (close : Char) (required : Bool) : (fuel : Nat) → Reading Unit
  | 0 => malformed
  | fuel + 1 => do
    match ← takeToken with
    | none => if required then malformed
    | some token => if token == [close] then return else skipUntil close required fuel

/-- A group name up to a closing character. -/
def groupName (close : Char) : Reading String := do
  let name ← takeUntil close ((← get).rest.length + 1) []
  if !isIdentifier name then malformed
  return String.ofList name

/-- The set of one option letter. -/
def letterOption? : Char → Option Options
  | 'i' => some { ignoreCase := true }
  | 'm' => some { multiline := true }
  | 's' => some { dotAll := true }
  | 'x' => some { verbose := true }
  | 'a' => some { ascii := true }
  | 'u' => some { unicode := true }
  | 't' => some { template := true }
  | _ => none

/-- The option letters that are switched off, after the dash and its first letter. -/
def lettersOff : (fuel : Nat) → (on off : Options) → Char → Reading (Options × Options)
  | 0, _, _, _ => malformed
  | fuel + 1, on, off, c => do
    let some letter := letterOption? c | malformed
    if letter.ascii || letter.unicode then malformed
    let off := off.union letter
    match ← takeToken with
    | some [':'] =>
      if off.template || on.without off != on then malformed
      return (on, off)
    | some [d] => lettersOff fuel on off d
    | _ => malformed

/-- Option letters up to the colon or the bracket that closes them: those that
are switched on and off inside a group, or nothing if they hold for the whole pattern. -/
def lettersOn : (fuel : Nat) → (on : Options) → Char → Reading (Option (Options × Options))
  | 0, _, _ => malformed
  | fuel + 1, on, c => do
    let some letter := letterOption? c | malformed
    let on := on.union letter
    if on.ascii && on.unicode then malformed
    match ← takeToken with
    | some [')'] =>
      modify fun s => { s with options := s.options.union on }
      return none
    | some [':'] => if on.template then malformed else return some (on, {})
    | some ['-'] =>
      if on.template then malformed
      match ← takeToken with
      | some [d] => return some (← lettersOff fuel on {} d)
      | _ => malformed
    | some [d] => lettersOn fuel on d
    | _ => malformed

/-- The option letters of a group, from the first character on. -/
def optionLetters (first : Char) : Reading (Option (Options × Options)) := do
  let fuel := (← get).rest.length + 2
  if first == '-' then
    match ← takeToken with
    | some [d] => return some (← lettersOff fuel {} {} d)
    | _ => malformed
  else lettersOn fuel {} first

/-- The greatest count of a repetition is below this number. -/
def countLimit : Nat := 4294967295

/-- A count in decimal, which must not have too many digits. -/
def countOf (digits : List Char) : Reading Nat := do
  if Decimal.digitLimit < digits.length then throw (.integerTooLong digits.length)
  let n := digitsValue 10 digits
  if countLimit ≤ n then throw .countTooLarge
  return n

/-- The counts of a repetition in braces, after the opening one.  Nothing is
taken if the braces hold no counts. -/
def braceCounts : Reading (Option (Nat × Option Nat)) := do
  let start ← get
  if (← peekToken) == some ['\x7d'] then return none
  let lo ← takeWhileMost isAsciiDigit start.rest.length
  let hi ← if ← takeIf ',' then takeWhileMost isAsciiDigit start.rest.length else pure lo
  if !(← takeIf '\x7d') then
    set start
    return none
  let least ← if lo.isEmpty then pure 0 else countOf lo
  if hi.isEmpty then return some (least, none)
  let most ← countOf hi
  if most < least then malformed
  return some (least, some most)

/-- Put a repetition in place of the last item.  A group that only groups gives way to its content. -/
def repeatLast (items : List Node) (least : Nat) (most : Option Nat) : Reading (List Node) := do
  match items with
  | [] | .mark _ :: _ | .repeated .. :: _ => malformed
  | item :: before =>
    let body := match item with
      | .group none on off body => if on.isNone && off.isNone then body else [item]
      | _ => [item]
    let greed ← if ← takeIf '?' then pure Greed.lazy
      else if ← takeIf '+' then pure Greed.possessive
      else pure Greed.greedy
    return .repeated least most greed body :: before

/-- A sequence in order, from the items in reverse order; groups that only group are dissolved. -/
def sequenceOf (items : List Node) : List Node :=
  items.reverse.flatMap fun item => match item with
    | .group none on off body => if on.isNone && off.isNone then body else [item]
    | _ => [item]

/-- Whether two trees without inner sequences are the same. -/
def Node.sameLeaf : Node → Node → Bool
  | .code a m, .code b n => a == b && m == n
  | .any, .any => true
  | .set a s, .set b t => a == b && s == t
  | .mark p, .mark q => p == q
  | .backref i, .backref j => i == j
  | _, _ => false

/-- Split off what all alternatives begin with. -/
def commonStart : (fuel : Nat) → List (List Node) → List Node × List (List Node)
  | 0, ways => ([], ways)
  | fuel + 1, ways =>
    match ways with
    | (first :: _) :: others =>
      if others.all fun way => way.head?.any (first.sameLeaf ·) then
        let (shared, rest) := commonStart fuel (ways.map (·.drop 1))
        (first :: shared, rest)
      else ([], ways)
    | _ => ([], ways)

/-- The class that holds what alternatives of one character each stand for. -/
def oneCharacter? (ways : List (List Node)) : Option (List ClassItem) :=
  (ways.mapM fun (way : List Node) => match way with
    | [.code false n] => some [ClassItem.code n]
    | [.set false items] => some items
    | _ => none).map List.flatten

/-- The sequence that stands for several alternatives. -/
def alternatives (ways : List (List Node)) : List Node :=
  match ways with
  | [way] => way
  | _ =>
    let (shared, rest) := commonStart ((ways.headD []).length + 1) ways
    match oneCharacter? rest with
    | some items => shared ++ [.set false (distinctItems items)]
    | none => shared ++ [.branch rest]

/-- Open a capturing group. -/
def openGroup (name : Option String) : Reading Nat := do
  let s ← get
  let index := s.groupCount + 1
  match name with
  | none => set { s with groupCount := index }
  | some n =>
    if (s.names.lookup n).isSome then malformed
    set { s with groupCount := index, names := s.names ++ [(n, index)] }
  return index

/-- Take the bracket that closes a group. -/
def closeBracket : Reading Unit := do
  if !(← takeIf ')') then malformed

/-- The number of a conditional group, or the one its name stands for. -/
def conditionIndex : Reading Nat := do
  let name ← takeUntil ')' ((← get).rest.length + 1) []
  let index ←
    if isIdentifier name then
      match (← get).names.lookup (String.ofList name) with
      | some i => pure i
      | none => malformed
    else
      match Decimal.readInteger 10 (String.ofList name) with
      | .ok n =>
        if n ≤ 0 then malformed
        modify fun s => { s with asked := n.toNat :: s.asked }
        pure n.toNat
      | .error _ => malformed
  checkBehind index
  return index

/-- What a sequence of items is read for: its place among the alternatives
decides whether options for the whole pattern may still be set. -/
structure Place where
  verbose : Bool
  nested : Bool
  first : Bool

/-- Patterns that are nested deeper than this are refused. -/
def nestingLimit : Nat := 970

mutual

/-- Alternatives up to the end of the pattern or of the group. -/
def readAlternatives : (fuel depth : Nat) → (verbose nested first : Bool) → List (List Node) →
    Reading (List Node)
  | 0, _, _, _, _, _ => malformed
  | fuel + 1, depth, verbose, nested, first, ways => do
    let way ← readItems fuel (depth + 1) ⟨verbose, nested, first⟩ []
    if ← takeIf '|' then
      let verbose ← if nested then pure verbose else pure (← get).options.verbose
      readAlternatives fuel depth verbose nested false (ways ++ [way])
    else return alternatives (ways ++ [way])

/-- Items up to a bar, a closing bracket or the end; those read are in reverse order. -/
def readItems : (fuel depth : Nat) → Place → List Node → Reading (List Node)
  | 0, _, _, _ => malformed
  | fuel + 1, depth, place, items => do
    if nestingLimit < depth then throw .tooDeep
    match ← peekToken with
    | none | some ['|'] | some [')'] => return sequenceOf items
    | some token =>
    discard takeToken
    match token with
    | ['\\', c] => readItems fuel depth place ((← escape c) :: items)
    | [c] =>
      if place.verbose && (c == ' ' || ('\t' ≤ c && c ≤ '\r')) then readItems fuel depth place items
      else if place.verbose && c == '#' then
        skipUntil '\n' false ((← get).rest.length + 1)
        readItems fuel depth place items
      else
      match c with
      | '[' =>
        let negated ← takeIf '^'
        let set ← classItems ((← get).rest.length + 1) []
        readItems fuel depth place (classNode negated set :: items)
      | '?' => readItems fuel depth place (← repeatLast items 0 (some 1))
      | '*' => readItems fuel depth place (← repeatLast items 0 none)
      | '+' => readItems fuel depth place (← repeatLast items 1 none)
      | '\x7b' =>
        match ← braceCounts with
        | none => readItems fuel depth place (.code false c.toNat :: items)
        | some (least, most) => readItems fuel depth place (← repeatLast items least most)
      | '.' => readItems fuel depth place (.any :: items)
      | '^' => readItems fuel depth place (.mark .caret :: items)
      | '$' => readItems fuel depth place (.mark .dollar :: items)
      | '(' => readGroup fuel depth place items
      | _ => readItems fuel depth place (.code false (Half.code c) :: items)
    | _ => malformed

/-- A group after its opening bracket, and the items that follow it. -/
def readGroup : (fuel depth : Nat) → Place → List Node → Reading (List Node)
  | 0, _, _, _ => malformed
  | fuel + 1, depth, place, items => do
    let inner (verbose : Bool) : Reading (List Node) := readAlternatives fuel (depth + 1) verbose true false []
    let captured (name : Option String) : Reading Node := do
      let index ← openGroup name
      let body ← inner place.verbose
      closeBracket
      modify fun s => { s with widths := (index, widthOf s.widths body) :: s.widths }
      return .group (some index) {} {} body
    let assertion (behind negated : Bool) : Reading Node := do
      let outer := (← get).behindGroups
      if behind && outer.isNone then
        modify fun s => { s with behindGroups := some s.groupCount }
      let body ← inner place.verbose
      if behind then
        modify fun s => { s with behindGroups := outer }
      closeBracket
      return .assertion behind negated body
    if !(← takeIf '?') then
      readItems fuel depth place ((← captured none) :: items)
    else
      let some token ← takeToken | malformed
      match token with
      | ['P'] =>
        if ← takeIf '<' then
          let name ← groupName '>'
          readItems fuel depth place ((← captured (some name)) :: items)
        else if ← takeIf '=' then
          let name ← groupName ')'
          match (← get).names.lookup name with
          | some index =>
            checkReference index
            readItems fuel depth place (.backref index :: items)
          | none => malformed
        else malformed
      | [':'] =>
        let body ← inner place.verbose
        closeBracket
        readItems fuel depth place (.group none {} {} body :: items)
      | ['#'] =>
        skipUntil ')' true ((← get).rest.length + 1)
        readItems fuel depth place items
      | ['='] => readItems fuel depth place ((← assertion false false) :: items)
      | ['!'] => readItems fuel depth place ((← assertion false true) :: items)
      | ['<'] =>
        match ← takeToken with
        | some ['='] => readItems fuel depth place ((← assertion true false) :: items)
        | some ['!'] => readItems fuel depth place ((← assertion true true) :: items)
        | _ => malformed
      | ['('] =>
        let index ← conditionIndex
        let yes ← readItems fuel (depth + 1) ⟨place.verbose, true, false⟩ []
        let no ← if ← takeIf '|' then pure (some (← readItems fuel (depth + 1) ⟨place.verbose, true, false⟩ []))
          else pure none
        closeBracket
        readItems fuel depth place (.ifMatched index yes no :: items)
      | ['>'] =>
        let body ← inner place.verbose
        closeBracket
        readItems fuel depth place (.atomic body :: items)
      | [c] =>
        match ← optionLetters c with
        | none =>
          if place.nested || !place.first || !items.isEmpty then malformed
          readItems fuel depth { place with verbose := (← get).options.verbose } items
        | some (on, off) =>
          let body ← inner ((place.verbose || on.verbose) && !off.verbose)
          closeBracket
          readItems fuel depth place (.group none on off body :: items)
      | _ => malformed

end

/-- A pattern that was read: its tree, its options, the number of its groups,
their names, and the lengths of what they match. -/
structure Written where
  tree : List Node
  options : Options
  groupCount : Nat
  names : List (String × Nat)
  widths : List (Nat × Width)

/-- The tree of a written pattern. -/
def Written.read (source : String) : Except Fault Written := do
  let cs := source.toList
  let (tree, s) ← (do
    discard peekToken
    readAlternatives (3 * cs.length + 4) 0 false false true []).run { rest := cs }
  if s.options.ascii && s.options.unicode then throw .clashingOptions
  if !s.rest.isEmpty || s.asked.any (s.groupCount < ·) then throw .malformed
  let options := if s.options.ascii then s.options else { s.options with unicode := true }
  return { tree, options, groupCount := s.groupCount, names := s.names, widths := s.widths }

end PageObjects.Pattern
