import PageObjects.Decimal.Integer
import PageObjects.Yaml.Scalar

/-!
# Cutting a text into tokens

Main definitions:

- `nextToken`: the token that begins next.
- `Stream`: tokens, and what comes after them.
- `Stream.ofText`: the tokens of a text.
-/

namespace PageObjects.Yaml

open PageObjects.Text

/-! ## Directives, anchors and tags -/

/-- A number of ASCII digits. -/
def takeNumber : Lexing Nat := do
  let digits ← takeWhile fun c => '0' ≤ c && c ≤ '9'
  if digits.isEmpty then malformed
  if Decimal.digitLimit < digits.length then throw (.tooManyDigits digits.length)
  return digits.foldl (fun n d => n * 10 + (hexValue? d).getD 0) 0

/-- The bytes that follow percent signs. -/
def uriEscapes : (fuel : Nat) → (bytes : List UInt8) → Lexing (List UInt8)
  | 0, _ => malformed
  | fuel + 1, bytes => do
    if (← peek) == '%' then
      match hexValue? (← peekAt 1), hexValue? (← peekAt 2) with
      | some a, some b =>
        forward 3
        uriEscapes fuel (bytes ++ [UInt8.ofNat (a * 16 + b)])
      | _, _ => malformed
    else return bytes

/-- Characters of a tag. -/
def isUriChar (c : Char) : Bool :=
  c.isAlphanum || "-;/?:@&=+$,_.!~*'()[]%".toList.contains c

/-- The characters of a tag, with escapes decoded. -/
def uriRest : (fuel : Nat) → (text : List Char) → Lexing (List Char)
  | 0, _ => malformed
  | fuel + 1, text => do
    let c ← peek
    if c == '%' then
      let bytes ← uriEscapes (← enough) []
      match String.fromUTF8? (ByteArray.mk bytes.toArray) with
      | some s => uriRest fuel (text ++ s.toList)
      | none => malformed
    else if isUriChar c then
      forward 1
      uriRest fuel (text ++ [c])
    else return text

/-- The rest of a tag, which must not be empty. -/
def takeUri : Lexing String := do
  let text ← uriRest (← enough) []
  if text.isEmpty then malformed
  return String.ofList text

/-- The handle of a tag. -/
def takeHandle : Lexing String := do
  if (← peek) != '!' then malformed
  forward 1
  if (← peek) == ' ' then return "!"
  let name ← takeWhile isNameChar
  if (← peek) != '!' then malformed
  forward 1
  return String.ofList ('!' :: name ++ ['!'])

/-- A directive. -/
def takeDirective : Lexing Token := do
  forward 1
  let name ← takeWhile isNameChar
  if name.isEmpty || !isSpaceOrEnd (← peek) then malformed
  let token ←
    if name == ['Y', 'A', 'M', 'L'] then
      discard <| takeWhile (· == ' ')
      let major ← takeNumber
      if (← peek) != '.' then malformed
      forward 1
      let minor ← takeNumber
      if !isSpaceOrEnd (← peek) then malformed
      pure (Token.version major minor)
    else if name == ['T', 'A', 'G'] then
      discard <| takeWhile (· == ' ')
      let handle ← takeHandle
      if (← peek) != ' ' then malformed
      discard <| takeWhile (· == ' ')
      let replacement ← takeUri
      if !isSpaceOrEnd (← peek) then malformed
      pure (Token.handle handle replacement)
    else
      discard <| takeWhile fun c => !isLineEnd c
      pure Token.directive
  ignoredLine
  return token

/-- The name of an anchor or of an alias. -/
def takeAnchor : Lexing String := do
  forward 1
  let name ← takeWhile isNameChar
  if name.isEmpty then malformed
  let c ← peek
  if !(isGap c || "?:,]\x7d%@`".toList.contains c) then malformed
  return String.ofList name

/-- A tag. -/
def takeTag : Lexing Tag := do
  let c ← peekAt 1
  let tag ←
    if c == '<' then
      forward 2
      let suffix ← takeUri
      if (← peek) != '>' then malformed
      forward 1
      pure (Tag.mk none suffix)
    else if isGap c then
      forward 1
      pure (Tag.mk none "!")
    else
      let word := ((← get).rest.drop 1).takeWhile fun c => !isSpaceOrEnd c
      if word.contains '!' then
        let handle ← takeHandle
        pure (Tag.mk (some handle) (← takeUri))
      else
        forward 1
        pure (Tag.mk (some "!") (← takeUri))
  if !isSpaceOrEnd (← peek) then malformed
  return tag

/-! ## The next token -/

/-- Blanks, comments and line ends.  A key may begin on a new line of a block. -/
def skipGap : (fuel : Nat) → Lexing Unit
  | 0 => return
  | fuel + 1 => do
    discard <| takeWhile (· == ' ')
    if (← peek) == '#' then
      discard <| takeWhile fun c => !isLineEnd c
    if isBreak (← peek) then
      discard takeBreak
      if (← get).flowLevel == 0 then setAllowKey true
      skipGap fuel

/-- The end of a document, or a directive before one, closes all blocks. -/
def closeAll : Lexing Unit := do
  modify fun s => s.unwind (-1)
  forgetKey
  setAllowKey false

/-- A bracket that opens a flow collection. -/
def openFlow (t : Token) : Lexing Unit := do
  noteKey
  modify fun s => { s with flowLevel := s.flowLevel + 1, allowKey := true }
  forward 1
  emit t

/-- A bracket that closes a flow collection. -/
def closeFlow (t : Token) : Lexing Unit := do
  forgetKey
  if (← get).flowLevel == 0 then malformed
  modify fun s => { s with flowLevel := s.flowLevel - 1, allowKey := false }
  forward 1
  emit t

/-- A dash of a block sequence. -/
def blockEntry : Lexing Unit := do
  let s ← get
  if s.flowLevel == 0 then
    if !s.allowKey then malformed
    if ← addIndent s.column then emit .blockSequenceStart
  setAllowKey true
  forgetKey
  forward 1
  emit .blockEntry

/-- A question mark ahead of a key. -/
def explicitKey : Lexing Unit := do
  let s ← get
  if s.flowLevel == 0 then
    if !s.allowKey then malformed
    if ← addIndent s.column then emit .blockMappingStart
  setAllowKey (s.flowLevel == 0)
  forgetKey
  forward 1
  emit .key

/-- A colon: what came before it on the line is a key, or an explicit key ends here. -/
def mappingValue : Lexing Unit := do
  let s ← get
  match s.possibleKeys.lookup s.flowLevel with
  | some key =>
    set { s with possibleKeys := s.possibleKeys.filter fun k => k.1 != s.flowLevel }
    insertToken key.token .key
    if s.flowLevel == 0 then
      if ← addIndent key.column then insertToken key.token .blockMappingStart
    setAllowKey false
  | none =>
    if s.flowLevel == 0 then
      if !s.allowKey then malformed
      if ← addIndent s.column then emit .blockMappingStart
    setAllowKey (s.flowLevel == 0)
    forgetKey
  forward 1
  emit .value

/-- A token that may be the beginning of a key. -/
def keyToken (take : Lexing Token) : Lexing Unit := do
  noteKey
  setAllowKey false
  emit (← take)

/-- Characters that cannot begin a plain scalar. -/
def isIndicator (c : Char) : Bool :=
  "-?:,[]\x7b\x7d#&*!|>'\"%@`".toList.contains c

/-- Whether a plain scalar begins with two characters. -/
def startsPlain (inFlow : Bool) (c next : Char) : Bool :=
  !(isGap c || isIndicator c) || (!isGap next && (c == '-' || (!inFlow && (c == '?' || c == ':'))))

/-- The token that begins next.  The result is whether the text goes on. -/
def nextToken : Lexing Bool := do
  let s ← get
  if s.index == 0 && s.rest.head? == some '\ufeff' then forward 1
  skipGap (← enough)
  forgetStaleKeys
  modify fun s => s.unwind s.column
  let s ← get
  let inFlow := s.flowLevel != 0
  let c ← peek
  let next ← peekAt 1
  let marked := inFlow || isGap next
  if c == endChar then
    closeAll
    return false
  if c == '%' && s.column == 0 then
    closeAll
    emit (← takeDirective)
  else if s.column == 0 && (← atDocumentMarker '-') then
    closeAll
    forward 3
    emit .documentStart
  else if s.column == 0 && (← atDocumentMarker '.') then
    closeAll
    forward 3
    emit .documentEnd
  else if c == '[' then openFlow .flowSequenceStart
  else if c == '\x7b' then openFlow .flowMappingStart
  else if c == ']' then closeFlow .flowSequenceEnd
  else if c == '\x7d' then closeFlow .flowMappingEnd
  else if c == ',' then
    setAllowKey true
    forgetKey
    forward 1
    emit .flowEntry
  else if c == '-' && isGap next then blockEntry
  else if c == '?' && marked then explicitKey
  else if c == ':' && marked then mappingValue
  else if c == '*' then keyToken (return .alias (← takeAnchor))
  else if c == '&' then keyToken (return .anchor (← takeAnchor))
  else if c == '!' then keyToken (return .tag (← takeTag))
  else if (c == '|' || c == '>') && !inFlow then
    setAllowKey true
    forgetKey
    emit (← blockScalar (c == '>'))
  else if c == '\'' || c == '"' then keyToken (quotedScalar c)
  else if startsPlain inFlow c next then keyToken plainScalar
  else malformed
  return true

/-- Tokens, and what comes after them: the end of the text, or a fault. -/
structure Stream where
  tokens : List Token
  fault : Option Fault := none
deriving Repr

/-- The tokens that are certain: those ahead of the first place where a key may
still begin. -/
def Lexer.certain (s : Lexer) : List Token :=
  let open_ := (s.possibleKeys.filter fun k => !s.isStale k.2).map fun k => k.2.token
  s.tokens.toList.take (open_.foldl min s.tokens.size)

/-- All the tokens that follow.  A fault comes after the tokens that were certain
when it was met. -/
def tokensFrom : (fuel : Nat) → Lexer → Stream
  | 0, s => { tokens := s.certain, fault := some .malformed }
  | fuel + 1, s =>
    match nextToken.run s with
    | .ok (true, s) => tokensFrom fuel s
    | .ok (false, s) => { tokens := s.tokens.toList }
    | .error fault => { tokens := s.certain, fault := some fault }

/-- The tokens of a text. -/
def Stream.ofText (text : List Char) : Stream :=
  if text.all isAllowed then tokensFrom (text.length + 2) { rest := text, size := text.length }
  else { tokens := [], fault := some .malformed }

end PageObjects.Yaml
