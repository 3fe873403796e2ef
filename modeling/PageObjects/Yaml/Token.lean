import PageObjects.Text.Digit

/-!
# Tokens of YAML

A text is cut into tokens before anything else.  Indentation shows as tokens
that open and close block collections.  A plain text may turn out to be the key
of a mapping only when a colon follows it on the same line; its place is kept,
and the key token is put there when the colon comes.

Main definitions:

- `Token`: the tokens.
- `Fault`: why a text cannot be read.
- `Lexer`: the state of cutting a text into tokens.
-/

namespace PageObjects.Yaml

/-- Why a text cannot be read: it is malformed, or something in it stands for no value. -/
inductive Fault where
  | malformed
  | badNumber (base : Nat) (text : String)
  | tooManyDigits (digits : Nat)
  | badDecimal (text : String)
  | badDate (message : String)
  | badCode
  | codeTooLarge
  | numberTooLarge
  | badWord
  | badPosition
  | badTimestamp
  | timestampNotScalar
  | tooDeep
deriving Repr, DecidableEq

/-- The tag of a node: a handle, if any, and the rest. -/
structure Tag where
  handle : Option String
  suffix : String
deriving Repr, DecidableEq

/-- The tokens. -/
inductive Token where
  | version (major minor : Nat)
  | handle (name replacement : String)
  | directive
  | documentStart
  | documentEnd
  | blockSequenceStart
  | blockMappingStart
  | blockEnd
  | flowSequenceStart
  | flowSequenceEnd
  | flowMappingStart
  | flowMappingEnd
  | blockEntry
  | flowEntry
  | key
  | value
  | alias (name : String)
  | anchor (name : String)
  | tag (tag : Tag)
  | scalar (plain : Bool) (text : String)
deriving Repr, DecidableEq

/-- A place where the key of a mapping may have begun. -/
structure PossibleKey where
  token : Nat
  required : Bool
  index : Nat
  line : Nat
  column : Nat
deriving Repr, DecidableEq

/-- The state of cutting a text into tokens; `size` is the length of the whole text. -/
structure Lexer where
  rest : List Char
  size : Nat
  index : Nat := 0
  line : Nat := 0
  column : Nat := 0
  tokens : Array Token := #[]
  flowLevel : Nat := 0
  indent : Int := -1
  indents : List Int := []
  allowKey : Bool := true
  possibleKeys : List (Nat × PossibleKey) := []

/-- A step of cutting. -/
abbrev Lexing := StateT Lexer (Except Fault)

/-- Give up on a malformed text. -/
def malformed {α : Type} : Lexing α := throw .malformed

/-- The steps that are enough for any repetition: each but the last takes a character. -/
def enough : Lexing Nat := do
  return (← get).size + 1

/-! ## Characters -/

/-- The characters that end a line. -/
def isBreak (c : Char) : Bool :=
  c == '\n' || c == '\r' || c == '\x85' || c == '\u2028' || c == '\u2029'

/-- The end of the text reads as this character. -/
def endChar : Char := '\x00'

/-- The end of a line or of the text. -/
def isLineEnd (c : Char) : Bool := c == endChar || isBreak c

/-- The end of a line or of the text, or a space. -/
def isSpaceOrEnd (c : Char) : Bool := c == ' ' || isLineEnd c

/-- The end of a line or of the text, a space or a tab. -/
def isGap (c : Char) : Bool := c == '\t' || isSpaceOrEnd c

/-- Letters, digits, dashes and underscores of ASCII. -/
def isNameChar (c : Char) : Bool :=
  c.isAlphanum || c == '-' || c == '_'

/-- Characters that a text may hold. -/
def isAllowed (c : Char) : Bool :=
  let n := c.toNat
  n == 9 || n == 10 || n == 13 || (0x20 ≤ n && n ≤ 0x7e) || n == 0x85
    || (0xa0 ≤ n && n ≤ 0xd7ff) || (0xe000 ≤ n && n ≤ 0xfffd) || 0x10000 ≤ n

/-- The character at a distance. -/
def peekAt (n : Nat) : Lexing Char := do
  return ((← get).rest[n]?).getD endChar

/-- The next character. -/
def peek : Lexing Char := do
  return ((← get).rest.head?).getD endChar

/-- The state after the next character. -/
def Lexer.advance (s : Lexer) : Lexer :=
  match s.rest with
  | [] => s
  | c :: rest =>
    let s := { s with rest, index := s.index + 1 }
    if c == '\n' || c == '\x85' || c == '\u2028' || c == '\u2029'
        || (c == '\r' && rest.head? != some '\n') then
      { s with line := s.line + 1, column := 0 }
    else if c != '\ufeff' then { s with column := s.column + 1 }
    else s

/-- Pass over `n` characters. -/
def forward (n : Nat) : Lexing Unit :=
  modify fun s => Nat.repeat Lexer.advance n s

/-- Take the characters that pass a test. -/
def takeWhile (test : Char → Bool) : Lexing (List Char) := do
  let taken := (← get).rest.takeWhile test
  forward taken.length
  return taken

/-- Pass over the end of a line, if there is one, and give the line break that it stands for. -/
def takeBreak : Lexing (List Char) := do
  let c ← peek
  if c == '\r' || c == '\n' || c == '\x85' then
    if c == '\r' && (← peekAt 1) == '\n' then forward 2 else forward 1
    return ['\n']
  else if c == '\u2028' || c == '\u2029' then
    forward 1
    return [c]
  else return []

/-- Whether a marker of the start or the end of a document comes next. -/
def atDocumentMarker (mark : Char) : Lexing Bool := do
  return (← peekAt 0) == mark && (← peekAt 1) == mark && (← peekAt 2) == mark && isGap (← peekAt 3)

/-- Whether any marker of a document comes next. -/
def atAnyDocumentMarker : Lexing Bool := do
  return (← atDocumentMarker '-') || (← atDocumentMarker '.')

/-- Add a token. -/
def emit (t : Token) : Lexing Unit :=
  modify fun s => { s with tokens := s.tokens.push t }

/-! ## Indentation and possible keys -/

/-- Close the blocks that are indented deeper than a column. -/
def Lexer.unwind (s : Lexer) (column : Int) : Lexer :=
  if s.flowLevel != 0 then s
  else
    let rec close : List Int → Int → Array Token → Lexer
      | outer :: indents, indent, tokens =>
        if column < indent then close indents outer (tokens.push .blockEnd)
        else { s with indent, indents := outer :: indents, tokens }
      | [], indent, tokens => { s with indent, indents := [], tokens }
    close s.indents s.indent s.tokens

/-- Open a deeper block.  The result is whether the column is deeper. -/
def addIndent (column : Nat) : Lexing Bool := do
  let s ← get
  if s.indent < column then
    set { s with indent := column, indents := s.indent :: s.indents }
    return true
  else return false

/-- Whether a key that began at a place must end: a key stays on its line and
within 1024 characters. -/
def Lexer.isStale (s : Lexer) (key : PossibleKey) : Bool :=
  key.line != s.line || 1024 < s.index - key.index

/-- Forget the possible key of the current flow level; a required one must not be forgotten. -/
def forgetKey : Lexing Unit := do
  let s ← get
  if let some key := s.possibleKeys.lookup s.flowLevel then
    if key.required then malformed
    set { s with possibleKeys := s.possibleKeys.filter fun k => k.1 != s.flowLevel }

/-- Forget the keys that have not come in time. -/
def forgetStaleKeys : Lexing Unit := do
  let s ← get
  if s.possibleKeys.any fun k => s.isStale k.2 && k.2.required then malformed
  set { s with possibleKeys := s.possibleKeys.filter fun k => !s.isStale k.2 }

/-- Remember that a key may begin here. -/
def noteKey : Lexing Unit := do
  let s ← get
  if s.allowKey then
    forgetKey
    let key : PossibleKey :=
      { token := s.tokens.size, required := s.flowLevel == 0 && s.indent == s.column,
        index := s.index, line := s.line, column := s.column }
    modify fun s => { s with possibleKeys := (s.flowLevel, key) :: s.possibleKeys }

/-- Put a token at an earlier place. -/
def insertToken (place : Nat) (t : Token) : Lexing Unit :=
  modify fun s => { s with tokens := s.tokens.insertIdxIfInBounds place t }

/-- Allow or forbid a key to begin next. -/
def setAllowKey (allowed : Bool) : Lexing Unit :=
  modify fun s => { s with allowKey := allowed }

end PageObjects.Yaml
