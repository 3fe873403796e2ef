import PageObjects.Decimal.Integer
import PageObjects.Decimal.Layout
import PageObjects.Decimal.Read
import PageObjects.Pattern.Basic
import PageObjects.Value.Basic
import PageObjects.Yaml.Token

/-!
# The core schema

A plain scalar without a tag gets one from its text.  The tag of a scalar says
how its text is read: as a truth value, a number, a date, a moment, bytes or a
text.

Main definitions:

- `coreTag`: the tags of the schema.
- `plainTag`: the tag of a plain scalar.
- `intOf`, `floatOf`, `boolOf`, `timestampOf`, `binaryOf`: the values of scalars.
-/

namespace PageObjects.Yaml

open PageObjects.Text

/-! ## Tags -/

/-- A tag of the core schema. -/
def coreTag (name : String) : String := "tag:yaml.org,2002:" ++ name

/-- Whether a text begins as a written pattern says. -/
def fits (pattern : Except Pattern.Fault Pattern.Compiled) (text : String) : Bool :=
  match pattern.bind fun p => p.matchStart text with
  | .ok found => found.isSome
  | .error _ => false

/-- Words for truth values. -/
def boolPattern := Pattern.compile
  "(?:yes|Yes|YES|no|No|NO|true|True|TRUE|false|False|FALSE|on|On|ON|off|Off|OFF)$"

/-- Decimal numbers, also in units of sixty, infinities and the value that is no number. -/
def floatPattern := Pattern.compile
  ("(?:[-+]?(?:[0-9][0-9_]*)\\.[0-9_]*(?:[eE][-+][0-9]+)?|\\.[0-9][0-9_]*(?:[eE][-+][0-9]+)?"
    ++ "|[-+]?[0-9][0-9_]*(?::[0-5]?[0-9])+\\.[0-9_]*|[-+]?\\.(?:inf|Inf|INF)|\\.(?:nan|NaN|NAN))$")

/-- Integers in base two, eight, ten, sixteen, and in units of sixty. -/
def intPattern := Pattern.compile
  ("(?:[-+]?0b[0-1_]+|[-+]?0[0-7_]+|[-+]?(?:0|[1-9][0-9_]*)|[-+]?0x[0-9a-fA-F_]+"
    ++ "|[-+]?[1-9][0-9_]*(?::[0-5]?[0-9])+)$")

/-- Words for the absent value. -/
def nullPattern := Pattern.compile "(?:~|null|Null|NULL|)$"

/-- Dates and moments. -/
def timestampPattern := Pattern.compile
  ("(?:[0-9][0-9][0-9][0-9]-[0-9][0-9]-[0-9][0-9]"
    ++ "|[0-9][0-9][0-9][0-9]-[0-9][0-9]?-[0-9][0-9]?(?:[Tt]|[ \\t]+)[0-9][0-9]?"
    ++ ":[0-9][0-9]:[0-9][0-9](?:\\.[0-9]*)?(?:[ \\t]*(?:Z|[-+][0-9][0-9]?(?::[0-9][0-9])?))?)$")

/-- Whether a text is a word, with or without a line break after it. -/
def isWord (word text : String) : Bool := text == word || text == word ++ "\n"

/-- The tag of a plain scalar: the first kind of value that its text fits, or a
text.  A line break may follow a value, but not stand alone. -/
def plainTag (text : String) : String :=
  if text == "\n" then coreTag "str"
  else if fits boolPattern text then coreTag "bool"
  else if fits floatPattern text then coreTag "float"
  else if fits intPattern text then coreTag "int"
  else if isWord "<<" text then coreTag "merge"
  else if fits nullPattern text then coreTag "null"
  else if fits timestampPattern text then coreTag "timestamp"
  else if isWord "=" text then coreTag "value"
  else if isWord "!" text || isWord "&" text || isWord "*" text then coreTag "yaml"
  else coreTag "str"

/-! ## Scalars -/

/-- A text without its underscores. -/
def withoutUnderscores (text : String) : List Char :=
  text.toList.filter (· != '_')

/-- An integer in a base. -/
def readBase (base : Nat) (cs : List Char) : Except Fault Int :=
  let text := String.ofList cs
  match Decimal.readInteger base text with
  | .ok n => .ok n
  | .error .malformed => .error (.badNumber base text)
  | .error (.tooLong digits) => .error (.tooManyDigits digits)

/-- The parts of a text between colons. -/
def colonParts (cs : List Char) : List (List Char) :=
  ((String.ofList cs).splitOn ":").map String.toList

/-- The value of an integer scalar. -/
def intOf (text : String) : Except Fault Value := do
  let cs := withoutUnderscores text
  if cs.isEmpty then throw .badPosition
  let (negative, cs) := Decimal.takeSign cs
  let sign : Int := if negative then -1 else 1
  match cs with
  | [] => throw .badPosition
  | ['0'] => return .int 0
  | '0' :: 'b' :: digits => return .int (sign * (← readBase 2 digits))
  | '0' :: 'x' :: digits => return .int (sign * (← readBase 16 digits))
  | '0' :: _ => return .int (sign * (← readBase 8 cs))
  | _ =>
    if cs.contains ':' then
      let parts ← (colonParts cs).mapM (readBase 10)
      return .int (sign * parts.foldl (fun n part => n * 60 + part) 0)
    else return .int (sign * (← readBase 10 cs))

/-- A decimal number. -/
def readDecimal (cs : List Char) : Except Fault Float :=
  match Decimal.readFloat? (String.ofList cs) with
  | some x => .ok x
  | none => .error (.badDecimal (String.ofList cs))

/-- Numbers in units of sixty, the last part first.  A unit must be small enough
to be a number itself. -/
def sumSixties : (unit : Nat) → (value : Float) → List Float → Except Fault Float
  | _, value, [] => .ok value
  | unit, value, part :: rest =>
    match Decimal.ofInt? unit with
    | some x => sumSixties (unit * 60) (value + part * x) rest
    | none => .error .numberTooLarge

/-- The number of the one value that is no number and is written as such. -/
def nanNumber : Nat := 0

/-- A number as a value; each that is no number is told apart by `fresh`. -/
def floatValue (fresh : Nat) (x : Float) : Value :=
  if x.isNaN then .nan (fresh + 2) else .float x

/-- The value of a decimal scalar. -/
def floatOf (fresh : Nat) (text : String) : Except Fault Value := do
  let cs := lowercase (withoutUnderscores text)
  if cs.isEmpty then throw .badPosition
  let (negative, cs) := Decimal.takeSign cs
  let sign (x : Float) : Value := floatValue fresh (if negative then -1 * x else 1 * x)
  if cs.isEmpty then throw (.badDecimal "")
  if cs == ".inf".toList then return sign Decimal.infinity
  else if cs == ".nan".toList then return .nan nanNumber
  else if cs.contains ':' then
    let parts ← (colonParts cs).mapM readDecimal
    return sign (← sumSixties 1 0 parts.reverse)
  else return sign (← readDecimal cs)

/-- The value of a truth scalar. -/
def boolOf (text : String) : Except Fault Value :=
  let word := lowercaseString text
  if ["yes", "true", "on"].contains word then .ok (.bool true)
  else if ["no", "false", "off"].contains word then .ok (.bool false)
  else .error .badWord

/-- A date, and a time of day with fraction and zone, in groups. -/
def momentPattern := Pattern.compile
  ("([0-9][0-9][0-9][0-9])-([0-9][0-9]?)-([0-9][0-9]?)(?:(?:[Tt]|[ \\t]+)([0-9][0-9]?)"
    ++ ":([0-9][0-9]):([0-9][0-9])(?:\\.([0-9]*))?"
    ++ "(?:[ \\t]*(Z|([-+])([0-9][0-9]?)(?::([0-9][0-9]))?))?)?$")

/-- The distance from universal time, of which there must be less than a day. -/
def checkOffset (minutes : Int) : Except Fault Int :=
  if minutes.natAbs < 1440 then .ok minutes
  else
    let seconds := minutes * 60
    let days := Int.fdiv seconds 86400
    let rest := Int.fmod seconds 86400
    let shown := "datetime.timedelta(" ++ s!"days={days}"
      ++ (if rest == 0 then "" else s!", seconds={rest}") ++ ")"
    .error (.badDate ("offset must be a timedelta strictly between -timedelta(hours=24) and "
      ++ "timedelta(hours=24), not " ++ shown ++ "."))

/-- The value of a date or a moment. -/
def timestampOf (text : String) : Except Fault Value := do
  let .ok (some found) := momentPattern.bind fun p => p.matchStart text | throw .badTimestamp
  let group? (i : Nat) : Option (List Char) :=
    (found.edges.span? i).map fun (a, b) => (text.toList.drop a).take (b - a)
  let number (i : Nat) : Nat := ((group? i).bind (Decimal.readNatBase? 10 0)).getD 0
  let date : Date := ⟨number 1, number 2, number 3⟩
  if (group? 4).isNone then
    match date.fault? with
    | some message => throw (.badDate message)
    | none => return .date date
  let micro := match group? 7 with
    | some digits => ((Decimal.readNatBase? 10 0 ((digits ++ Decimal.zeros 6).take 6))).getD 0
    | none => 0
  let offset ← match group? 8, group? 9 with
    | none, _ => pure none
    | some _, none => pure (some 0)
    | some _, some sign =>
      let minutes : Int := number 10 * 60 + number 11
      pure (some (← checkOffset (if sign == ['-'] then -minutes else minutes)))
  let moment : Moment := ⟨date, number 4, number 5, number 6, micro, offset⟩
  match moment.fault? with
  | some message => throw (.badDate message)
  | none => return .moment moment

/-- The six bits of a letter in base sixty-four. -/
def sixBits? (c : Char) : Option Nat :=
  if 'A' ≤ c && c ≤ 'Z' then some (c.toNat - 65)
  else if 'a' ≤ c && c ≤ 'z' then some (c.toNat - 71)
  else if '0' ≤ c && c ≤ '9' then some (c.toNat + 4)
  else if c == '+' then some 62
  else if c == '/' then some 63
  else none

/-- The bytes of a text in base sixty-four.  Other characters are passed over;
`count` letters of a group of four have been read, with their bits in `bits`. -/
def bytesOfBase64 : (count bits pads : Nat) → List Char → Option (List UInt8)
  | 0, _, _, [] => some []
  | _ + 1, _, _, [] => none
  | count, bits, pads, c :: rest =>
    if c == '=' then
      if 2 ≤ count && 4 ≤ count + pads + 1 then some []
      else bytesOfBase64 count bits (if 2 ≤ count then pads + 1 else pads) rest
    else
      match sixBits? c with
      | none => bytesOfBase64 count bits pads rest
      | some six =>
        let bits := bits * 64 + six
        match count with
        | 0 => bytesOfBase64 1 bits 0 rest
        | 1 => (bytesOfBase64 2 (bits % 16) 0 rest).map (UInt8.ofNat (bits / 16) :: ·)
        | 2 => (bytesOfBase64 3 (bits % 4) 0 rest).map (UInt8.ofNat (bits / 4) :: ·)
        | _ => (bytesOfBase64 0 0 0 rest).map (UInt8.ofNat bits :: ·)

/-- The value of a binary scalar. -/
def binaryOf (text : String) : Except Fault Value :=
  if text.toList.any fun c => 127 < c.toNat then .error .malformed
  else match bytesOfBase64 0 0 0 text.toList with
    | some bytes => .ok (.bytes bytes)
    | none => .error .malformed

end PageObjects.Yaml
