import PageObjects.Text.Half
import PageObjects.Yaml.Token

/-!
# Scalars of YAML

The texts of scalars: plain ones, quoted ones, and blocks that are kept as they
are or folded.  Line breaks inside plain and quoted texts fold into spaces, and
empty lines into line breaks.

Main definitions:

- `plainScalar`, `quotedScalar`, `blockScalar`: the token of a scalar that begins here.
-/

namespace PageObjects.Yaml

open PageObjects.Text

/-! ## Quoted scalars -/

/-- What an escape of one character stands for. -/
def escapeCode? : Char → Option Nat
  | '0' => some 0
  | 'a' => some 7
  | 'b' => some 8
  | 't' => some 9
  | '\t' => some 9
  | 'n' => some 10
  | 'v' => some 11
  | 'f' => some 12
  | 'r' => some 13
  | 'e' => some 27
  | ' ' => some 32
  | '"' => some 34
  | '\\' => some 92
  | '/' => some 47
  | 'N' => some 0x85
  | '_' => some 0xa0
  | 'L' => some 0x2028
  | 'P' => some 0x2029
  | _ => none

/-- The number of hexadecimal digits after an escape. -/
def escapeWidth? : Char → Option Nat
  | 'x' => some 2
  | 'u' => some 4
  | 'U' => some 8
  | _ => none

/-- Line breaks and blanks inside a quoted text, which gives the breaks. -/
def quotedBreaks : (fuel : Nat) → (breaks : List Char) → Lexing (List Char)
  | 0, _ => malformed
  | fuel + 1, breaks => do
    if ← atAnyDocumentMarker then malformed
    discard <| takeWhile fun c => c == ' ' || c == '\t'
    if isBreak (← peek) then quotedBreaks fuel (breaks ++ (← takeBreak))
    else return breaks

/-- The text up to the next blank, line break or closing quote, after what has been
taken so far; the latest character comes first. -/
def quotedWord (double : Bool) : (fuel : Nat) → (taken : List Char) → Lexing (List Char)
  | 0, _ => malformed
  | fuel + 1, taken => do
    let plain ← takeWhile fun c => !(c == '\'' || c == '"' || c == '\\' || isGap c)
    let taken := plain.reverse ++ taken
    let c ← peek
    if !double && c == '\'' && (← peekAt 1) == '\'' then
      forward 2
      quotedWord double fuel ('\'' :: taken)
    else if (double && c == '\'') || (!double && (c == '"' || c == '\\')) then
      forward 1
      quotedWord double fuel (c :: taken)
    else if double && c == '\\' then
      forward 1
      let c ← peek
      if let some code := escapeCode? c then
        forward 1
        quotedWord double fuel (Char.ofNat code :: taken)
      else if let some width := escapeWidth? c then
        forward 1
        let digits := (← get).rest.take width
        if digits.length != width || !digits.all (fun d => (hexValue? d).isSome) then malformed
        let code := digits.foldl (fun n d => n * 16 + (hexValue? d).getD 0) 0
        if 0x7fffffff < code then throw .codeTooLarge
        if 0x10ffff < code then throw .badCode
        forward width
        quotedWord double fuel (Half.ofCode code :: taken)
      else if isBreak c then
        discard takeBreak
        let breaks ← quotedBreaks (← enough) []
        quotedWord double fuel (breaks.reverse ++ taken)
      else malformed
    else return taken

/-- Blanks and line breaks inside a quoted text. -/
def quotedGap : Lexing (List Char) := do
  let blanks ← takeWhile fun c => c == ' ' || c == '\t'
  let c ← peek
  if c == endChar then malformed
  else if isBreak c then
    let first ← takeBreak
    let breaks ← quotedBreaks (← enough) []
    return (if first != ['\n'] then first else if breaks.isEmpty then [' '] else []) ++ breaks
  else return blanks

/-- The text up to the closing quote, after what has been taken so far. -/
def quotedRest (quote : Char) (double : Bool) : (fuel : Nat) → (taken : List Char) → Lexing (List Char)
  | 0, _ => malformed
  | fuel + 1, taken => do
    if (← peek) == quote then
      forward 1
      return taken
    let gap ← quotedGap
    quotedRest quote double fuel (← quotedWord double (← enough) (gap.reverse ++ taken))

/-- A quoted scalar. -/
def quotedScalar (quote : Char) : Lexing Token := do
  let double := quote == '"'
  forward 1
  let word ← quotedWord double (← enough) []
  let taken ← quotedRest quote double (← enough) word
  return .scalar false (String.ofList taken.reverse)

/-! ## Plain scalars -/

/-- Line breaks after a plain text; none if a document marker follows. -/
def plainBreaks : (fuel : Nat) → (breaks : List Char) → Lexing (Option (List Char))
  | 0, _ => malformed
  | fuel + 1, breaks => do
    let c ← peek
    if c == ' ' then
      forward 1
      plainBreaks fuel breaks
    else if isBreak c then
      let b ← takeBreak
      if ← atAnyDocumentMarker then return none
      plainBreaks fuel (breaks ++ b)
    else return some breaks

/-- The gap after a word of a plain text. -/
def plainGap : Lexing (List Char) := do
  let blanks ← takeWhile (· == ' ')
  if isBreak (← peek) then
    let first ← takeBreak
    setAllowKey true
    if ← atAnyDocumentMarker then return []
    let some breaks ← plainBreaks (← enough) [] | return []
    return (if first != ['\n'] then first else if breaks.isEmpty then [' '] else []) ++ breaks
  else return blanks

/-- Characters that end a plain text in a flow collection. -/
def isFlowMark (c : Char) : Bool :=
  c == ',' || c == '[' || c == ']' || c == '\x7b' || c == '\x7d'

/-- The length of the plain text that comes next. -/
def plainLength (inFlow : Bool) : List Char → Nat
  | [] => 0
  | c :: rest =>
    let next := (rest.head?).getD endChar
    if isGap c || (c == ':' && (isGap next || (inFlow && isFlowMark next)))
        || (inFlow && (isFlowMark c || c == '?')) then 0
    else plainLength inFlow rest + 1

/-- The words of a plain scalar, after a gap and what has been taken so far; the
latest character comes first. -/
def plainWords (indent : Int) : (fuel : Nat) → (gap taken : List Char) → Lexing (List Char)
  | 0, _, _ => malformed
  | fuel + 1, gap, taken => do
    if (← peek) == '#' then return taken
    let s ← get
    let inFlow := s.flowLevel != 0
    let length := plainLength inFlow s.rest
    if length == 0 then return taken
    setAllowKey false
    let word := s.rest.take length
    forward length
    let taken := word.reverse ++ (gap.reverse ++ taken)
    let gap ← plainGap
    let s ← get
    if gap.isEmpty || (← peek) == '#' || (!inFlow && (s.column : Int) < indent) then return taken
    plainWords indent fuel gap taken

/-- A plain scalar. -/
def plainScalar : Lexing Token := do
  let s ← get
  let taken ← plainWords (s.indent + 1) (s.size + 1) [] []
  return .scalar true (String.ofList taken.reverse)

/-! ## Block scalars -/

/-- What becomes of the line breaks at the end of a block. -/
inductive Chomping where
  | clip
  | strip
  | keep
deriving Repr, DecidableEq

/-- The mark for the line breaks at the end. -/
def takeChomping : Lexing (Option Chomping) := do
  let c ← peek
  if c == '+' then
    forward 1
    return some .keep
  else if c == '-' then
    forward 1
    return some .strip
  else return none

/-- The mark for the depth of indentation. -/
def takeIncrement : Lexing (Option Nat) := do
  let c ← peek
  if '0' ≤ c && c ≤ '9' then
    if c == '0' then malformed
    forward 1
    return some (c.toNat - '0'.toNat)
  else return none

/-- The rest of a header line: blanks, a comment and the end of the line. -/
def ignoredLine : Lexing Unit := do
  discard <| takeWhile (· == ' ')
  if (← peek) == '#' then
    discard <| takeWhile fun c => !isLineEnd c
  if !isLineEnd (← peek) then malformed
  discard takeBreak

/-- Empty lines ahead of a block, with the greatest indentation among them. -/
def blockIndentation : (fuel : Nat) → (breaks : List Char) → (deepest : Nat) →
    Lexing (List Char × Nat)
  | 0, _, _ => malformed
  | fuel + 1, breaks, deepest => do
    let c ← peek
    if c == ' ' then
      forward 1
      blockIndentation fuel breaks (max deepest (← get).column)
    else if isBreak c then blockIndentation fuel (breaks ++ (← takeBreak)) deepest
    else return (breaks, deepest)

/-- Indentation up to a depth. -/
def takeIndent (indent : Int) : Lexing Unit := do
  let s ← get
  let room := (indent - s.column).toNat
  forward ((s.rest.take room).takeWhile (· == ' ')).length

/-- Empty lines inside a block, and the indentation of the line after them. -/
def blockBreaks (indent : Int) : (fuel : Nat) → (breaks : List Char) → Lexing (List Char)
  | 0, _ => malformed
  | fuel + 1, breaks => do
    takeIndent indent
    if isBreak (← peek) then blockBreaks indent fuel (breaks ++ (← takeBreak))
    else return breaks

/-- Whether a line of the block begins here. -/
def atBlockLine (indent : Int) : Lexing Bool := do
  return ((← get).column : Int) == indent && (← peek) != endChar

/-- The lines of a block, after empty lines and what has been taken so far, of which
the latest character comes first.  The result is what has been taken then, the last
line break and the empty lines after it. -/
def blockLines (folded : Bool) (indent : Int) : (fuel : Nat) → (taken breaks : List Char) →
    Lexing (List Char × List Char × List Char)
  | 0, _, _ => malformed
  | fuel + 1, taken, breaks => do
    let first ← peek
    let leading := !(first == ' ' || first == '\t')
    let line ← takeWhile fun c => !isLineEnd c
    let taken := line.reverse ++ (breaks.reverse ++ taken)
    let lineBreak ← takeBreak
    let breaks ← blockBreaks indent (← enough) []
    if ← atBlockLine indent then
      let next ← peek
      let joint :=
        if folded && lineBreak == ['\n'] && leading && !(next == ' ' || next == '\t') then
          (if breaks.isEmpty then [' '] else [])
        else lineBreak
      blockLines folded indent fuel (joint.reverse ++ taken) breaks
    else return (taken, lineBreak, breaks)

/-- A block scalar. -/
def blockScalar (folded : Bool) : Lexing Token := do
  forward 1
  let (chomping, increment) ← do
    match ← takeChomping with
    | some chomping => pure (chomping, ← takeIncrement)
    | none =>
      let increment ← takeIncrement
      match increment with
      | none => pure (Chomping.clip, none)
      | some _ => pure ((← takeChomping).getD .clip, increment)
  if !isSpaceOrEnd (← peek) then malformed
  ignoredLine
  let s ← get
  let least := max (s.indent + 1) 1
  let (indent, breaks) ← do
    match increment with
    | none =>
      let (breaks, deepest) ← blockIndentation (s.size + 1) [] 0
      pure (max least deepest, breaks)
    | some n =>
      let indent := least + n - 1
      pure (indent, ← blockBreaks indent (s.size + 1) [])
  let (taken, lineBreak, breaks) ←
    if ← atBlockLine indent then blockLines folded indent (s.size + 1) [] breaks
    else pure ([], [], breaks)
  let tail := match chomping with
    | .strip => []
    | .clip => lineBreak
    | .keep => lineBreak ++ breaks
  return .scalar false (String.ofList (taken.reverse ++ tail))

end PageObjects.Yaml
