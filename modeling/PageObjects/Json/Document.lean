import PageObjects.Decimal.Integer
import PageObjects.Text.Half
import PageObjects.Value.Cells

/-!
# Documents of JSON

A text in JSON is read as a tree, and a tree stands for a value.  Infinities and
the value that is no number are read too.  Of two entries with equal keys the
later value counts, at the place of the first key.

Main definitions:

- `Json`: the tree of a text.
- `Json.read`: the tree of a whole text.
- `Json.toValue`: the value that a tree stands for, whose collections are new.
-/

namespace PageObjects

/-- The tree of a text in JSON. -/
inductive Json where
  | null
  | bool (b : Bool)
  | int (n : Int)
  | float (x : Float)
  | nan
  | text (s : String)
  | list (items : List Json)
  | object (entries : List (String × Json))
deriving Inhabited

namespace Json

open PageObjects.Text

/-- Why a text cannot be read. -/
inductive Fault where
  | malformed
  | tooLong (digits : Nat)
  | tooDeep
deriving Repr, DecidableEq

/-- Blanks between tokens. -/
def isGap (c : Char) : Bool := c == ' ' || c == '\t' || c == '\n' || c == '\r'

/-- A text without the blanks in front. -/
def skipGap (cs : List Char) : List Char := cs.dropWhile isGap

/-- The rest of a text after a word. -/
def afterWord? : (word cs : List Char) → Option (List Char)
  | [], cs => some cs
  | _ :: _, [] => none
  | w :: word, c :: cs => if w == c then afterWord? word cs else none

/-- Whether a character is an ASCII digit. -/
def isDigit (c : Char) : Bool := '0' ≤ c && c ≤ '9'

/-- The value of ASCII digits. -/
def digitsValue (cs : List Char) : Nat :=
  cs.foldl (fun n c => n * 10 + (c.toNat - '0'.toNat)) 0

/-- Digits after a point, which must not be empty to count. -/
def fraction (cs : List Char) : List Char × List Char :=
  match cs with
  | '.' :: rest =>
    let digits := rest.takeWhile isDigit
    if digits.isEmpty then ([], cs) else (digits, rest.dropWhile isDigit)
  | _ => ([], cs)

/-- An exponent, which must have digits to count. -/
def exponent (cs : List Char) : Option Int × List Char :=
  match cs with
  | c :: rest =>
    if c == 'e' || c == 'E' then
      let (negative, digits) := match rest with
        | '-' :: r => (true, r)
        | '+' :: r => (false, r)
        | r => (false, r)
      let taken := digits.takeWhile isDigit
      if taken.isEmpty then (none, cs)
      else
        let n : Int := digitsValue taken
        (some (if negative then -n else n), digits.dropWhile isDigit)
    else (none, cs)
  | [] => (none, cs)

/-- A number without its sign. -/
def readNumber (negative : Bool) (cs : List Char) : Except Fault (Json × List Char) :=
  let whole := match cs with
    | '0' :: _ => ['0']
    | cs => cs.takeWhile isDigit
  if whole.isEmpty then .error .malformed
  else
    let rest := cs.drop whole.length
    let (places, rest') := fraction rest
    let (power, rest'') := exponent rest'
    if places.isEmpty && power.isNone then
      if Decimal.digitLimit < whole.length then .error (.tooLong whole.length)
      else
        let n : Int := digitsValue whole
        .ok (.int (if negative then -n else n), rest)
    else
      let m := digitsValue (whole ++ places)
      .ok (.float (Decimal.ofDecimal negative m (power.getD 0 - places.length)), rest'')

/-- The code of four hexadecimal digits. -/
def hexFour? : List Char → Option (Nat × List Char)
  | a :: b :: c :: d :: rest => do
    let n := ((← hexValue? a) * 16 + (← hexValue? b)) * 16
    return ((n + (← hexValue? c)) * 16 + (← hexValue? d), rest)
  | _ => none

/-- The second half of a pair of codes for one character, if it follows. -/
def lowHalf? (cs : List Char) : Option (Nat × List Char) := do
  let rest ← afterWord? ['\\', 'u'] cs
  let (n, rest) ← hexFour? rest
  if 0xdc00 ≤ n && n ≤ 0xdfff then some (n, rest) else none

/-- The character of an escape of one letter. -/
def escape? : Char → Option Char
  | '"' => some '"'
  | '\\' => some '\\'
  | '/' => some '/'
  | 'b' => some '\x08'
  | 'f' => some '\x0c'
  | 'n' => some '\n'
  | 'r' => some '\r'
  | 't' => some '\t'
  | _ => none

/-- The rest of a text after its opening quote, up to the closing one. -/
def readText : (fuel : Nat) → (acc cs : List Char) → Except Fault (String × List Char)
  | 0, _, _ => .error .malformed
  | _ + 1, _, [] => .error .malformed
  | fuel + 1, acc, c :: rest =>
    if c == '"' then .ok (String.ofList acc.reverse, rest)
    else if c == '\\' then
      match rest with
      | 'u' :: rest =>
        match hexFour? rest with
        | none => .error .malformed
        | some (n, rest) =>
          match if 0xd800 ≤ n && n ≤ 0xdbff then lowHalf? rest else none with
          | some (low, rest) =>
            readText fuel (Char.ofNat (0x10000 + (n - 0xd800) * 0x400 + (low - 0xdc00)) :: acc) rest
          | none => readText fuel (Half.ofCode n :: acc) rest
      | e :: rest =>
        match escape? e with
        | some d => readText fuel (d :: acc) rest
        | none => .error .malformed
      | [] => .error .malformed
    else if c.toNat < 0x20 then .error .malformed
    else readText fuel (c :: acc) rest

/-- Put a value under a name: in the place of the name, or at the end. -/
def putEntry (name : String) (v : Json) : List (String × Json) → List (String × Json)
  | [] => [(name, v)]
  | (n, w) :: rest => if n == name then (n, v) :: rest else (n, w) :: putEntry name v rest

/-- A word, and the text after it. -/
def readWord (cs : List Char) : Except Fault (Json × List Char) :=
  match afterWord? "null".toList cs, afterWord? "true".toList cs, afterWord? "false".toList cs,
      afterWord? "NaN".toList cs, afterWord? "Infinity".toList cs with
  | some rest, _, _, _, _ => .ok (.null, rest)
  | _, some rest, _, _, _ => .ok (.bool true, rest)
  | _, _, some rest, _, _ => .ok (.bool false, rest)
  | _, _, _, some rest, _ => .ok (.nan, rest)
  | _, _, _, _, some rest => .ok (.float Decimal.infinity, rest)
  | _, _, _, _, _ => readNumber false cs

mutual

/-- A value, and the text after it.  Collections may be nested up to a depth. -/
def readValue : (fuel depth : Nat) → List Char → Except Fault (Json × List Char)
  | 0, _, _ => .error .malformed
  | fuel + 1, depth, cs =>
    match cs with
    | '"' :: rest => (readText fuel [] rest).map fun (s, rest) => (.text s, rest)
    | '\x7b' :: rest =>
      match depth with
      | 0 => .error .tooDeep
      | depth + 1 =>
        match skipGap rest with
        | '\x7d' :: rest => .ok (.object [], rest)
        | rest => readEntries fuel depth [] rest
    | '[' :: rest =>
      match depth with
      | 0 => .error .tooDeep
      | depth + 1 =>
        match skipGap rest with
        | ']' :: rest => .ok (.list [], rest)
        | rest => readItems fuel depth [] rest
    | '-' :: rest =>
      match afterWord? "Infinity".toList rest with
      | some rest => .ok (.float (Decimal.ofBits true Decimal.infinityBits), rest)
      | none => readNumber true rest
    | cs => readWord cs

/-- The items of a list, up to the closing bracket. -/
def readItems : (fuel depth : Nat) → (acc : List Json) → List Char →
    Except Fault (Json × List Char)
  | 0, _, _, _ => .error .malformed
  | fuel + 1, depth, acc, cs =>
    match readValue fuel depth cs with
    | .error fault => .error fault
    | .ok (v, rest) =>
      match skipGap rest with
      | ',' :: rest => readItems fuel depth (v :: acc) (skipGap rest)
      | ']' :: rest => .ok (.list (v :: acc).reverse, rest)
      | _ => .error .malformed

/-- The entries of a mapping, up to the closing brace. -/
def readEntries : (fuel depth : Nat) → (acc : List (String × Json)) → List Char →
    Except Fault (Json × List Char)
  | 0, _, _, _ => .error .malformed
  | fuel + 1, depth, acc, cs =>
    match cs with
    | '"' :: rest =>
      match readText fuel [] rest with
      | .error fault => .error fault
      | .ok (name, rest) =>
        match skipGap rest with
        | ':' :: rest =>
          match readValue fuel depth (skipGap rest) with
          | .error fault => .error fault
          | .ok (v, rest) =>
            let acc := putEntry name v acc
            match skipGap rest with
            | ',' :: rest => readEntries fuel depth acc (skipGap rest)
            | '\x7d' :: rest => .ok (.object acc, rest)
            | _ => .error .malformed
        | _ => .error .malformed
    | _ => .error .malformed

end

/-- The tree of a whole text, with collections nested up to a depth. -/
def read (depth : Nat) (text : String) : Except Fault Json :=
  let cs := text.toList
  match readValue (2 * cs.length + 2) depth (skipGap cs) with
  | .ok (v, rest) => if (skipGap rest).isEmpty then .ok v else .error .malformed
  | .error fault => .error fault

/-! ## Values -/

/-- The number of the value that is no number, as trees stand for it. -/
def nanNumber : Nat := 1

mutual

/-- The value that a tree stands for, whose collections are new. -/
def toValue (s : Cells) : Json → Value × Cells
  | .null => (.none, s)
  | .bool b => (.bool b, s)
  | .int n => (.int n, s)
  | .float x => (.float x, s)
  | .nan => (.nan nanNumber, s)
  | .text t => (.text t, s)
  | .list items =>
    let (vs, s) := toValues s items
    let (i, s) := s.make (.list vs)
    (.list i, s)
  | .object entries =>
    let (es, s) := toEntries s entries
    let (i, s) := s.make (.map es)
    (.map i, s)

/-- The values that trees stand for. -/
def toValues (s : Cells) : List Json → List Value × Cells
  | [] => ([], s)
  | v :: vs =>
    let (v, s) := toValue s v
    let (vs, s) := toValues s vs
    (v :: vs, s)

/-- The entries that named trees stand for. -/
def toEntries (s : Cells) : List (String × Json) → Value.Entries × Cells
  | [] => ([], s)
  | (name, v) :: rest =>
    let (v, s) := toValue s v
    let (es, s) := toEntries s rest
    ((.text name, v) :: es, s)

end

end Json

end PageObjects
