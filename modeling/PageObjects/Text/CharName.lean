import PageObjects.Text.CharName.EastAsian
import PageObjects.Text.CharName.Further
import PageObjects.Text.CharName.Historic
import PageObjects.Text.CharName.Letters
import PageObjects.Text.CharName.Pictures
import PageObjects.Text.CharName.Symbols
import PageObjects.Text.Digit
import PageObjects.Text.Ranges

/-!
# Names of characters

A character can be referred to by its Unicode name.  Most names stand in
tables; unified ideographs are named for their code point, and Hangul
syllables for their letters.

Main definitions:

- `CharName.find?`: the code point of a name.
-/

namespace PageObjects.Text.CharName

/-! ## Names in tables -/

/-- A place in a table: the code point of the next entry and the words of the last name. -/
structure Cursor where
  next : Nat := 0
  words : List String := []
  found : Option Nat := none

/-- The value of hexadecimal digits. -/
def hexNumber (cs : List Char) : Nat :=
  cs.foldl (fun n c => n * 16 + (hexValue? c).getD 0) 0

/-- Take one entry of a table into account. -/
def Cursor.advance (wanted : List String) (place : Cursor) (entry : String) : Cursor :=
  match entry.toList with
  | '@' :: code => { place with next := hexNumber code }
  | shared :: rest =>
    let kept := place.words.take (shared.toNat - '0'.toNat)
    let words := if rest.isEmpty then kept else kept ++ (String.ofList rest).splitOn " "
    { next := place.next + 1
      words
      found := if words == wanted then some place.next else place.found }
  | [] => place

/-- The entries of a table, which may begin on a line of their own. -/
def entriesOf (table : String) : List String :=
  (table.splitOn ";").map fun entry =>
    String.ofList (entry.toList.dropWhile fun c => c == '\n' || c == ' ')

/-- The code point that a table gives to a name. -/
def inTable? (table name : String) : Option Nat :=
  let wanted := name.splitOn " "
  ((entriesOf table).foldl (Cursor.advance wanted) {}).found

/-- The code point of a name that a character has beside its own. -/
def inFurther? (name : String) : Option Nat :=
  (entriesOf furtherNames).findSome? fun entry =>
    match entry.splitOn " " with
    | code :: words => if words == name.splitOn " " then some (hexNumber code.toList) else none
    | [] => none

/-! ## Names by rule -/

/-- What follows a beginning of a text. -/
def after? : List Char → List Char → Option (List Char)
  | [], rest => some rest
  | c :: cs, d :: rest => if c == d then after? cs rest else none
  | _ :: _, [] => none

/-- The unified ideographs of Unicode 14. -/
def ideographRanges : RangeTable :=
  [(0x3400, 0x4dbf), (0x4e00, 0x9fff), (0x20000, 0x2a6df), (0x2a700, 0x2b738), (0x2b740, 0x2b81d),
   (0x2b820, 0x2cea1), (0x2ceb0, 0x2ebe0), (0x30000, 0x3134a)]

/-- Whether a character is a hexadecimal digit with no lower-case letter. -/
def isUpperHex (c : Char) : Bool := ('0' ≤ c && c ≤ '9') || ('A' ≤ c && c ≤ 'F')

/-- The ideograph whose name ends in a code point. -/
def ideograph? (digits : List Char) : Option Nat :=
  let n := hexNumber digits
  if (digits.length == 4 || digits.length == 5) && digits.all isUpperHex && ideographRanges.holds n
  then some n else none

/-- The names of the first, the middle and the last letters of Hangul syllables. -/
def leadingJamo : List String :=
  ["G", "GG", "N", "D", "DD", "R", "M", "B", "BB", "S", "SS", "", "J", "JJ", "C", "K", "T", "P", "H"]

@[inherit_doc leadingJamo]
def vowelJamo : List String :=
  ["A", "AE", "YA", "YAE", "EO", "E", "YEO", "YE", "O", "WA", "WAE", "OE", "YO", "U", "WEO", "WE",
   "WI", "YU", "EU", "YI", "I"]

@[inherit_doc leadingJamo]
def trailingJamo : List String :=
  ["", "G", "GG", "GS", "N", "NJ", "NH", "D", "L", "LG", "LM", "LB", "LS", "LT", "LP", "LH", "M",
   "B", "BS", "S", "SS", "NG", "J", "C", "K", "T", "P", "H"]

/-- The longest letter name that a text begins with: its place in the list, and the rest of the text. -/
def longestJamo? (jamo : List String) (text : List Char) : Option (Nat × List Char) :=
  let starts := jamo.zipIdx.filterMap fun (name, i) =>
    (after? name.toList text).map fun rest => (i, rest)
  starts.foldl (fun best here => match best with
    | none => some here
    | some b => if here.2.length < b.2.length then some here else some b) none

/-- The syllable that is spelled by its letters. -/
def syllable? (letters : List Char) : Option Nat := do
  let (l, rest) ← longestJamo? leadingJamo letters
  let (v, rest) ← longestJamo? vowelJamo rest
  let (t, rest) ← longestJamo? trailingJamo rest
  if rest.isEmpty then some (0xac00 + (l * 21 + v) * 28 + t) else none

/-- The characters that are named for their code point: the words before it, and the code points. -/
def numberedNames : List (String × Nat × Nat) :=
  [("CJK COMPATIBILITY IDEOGRAPH-", 0xf900, 0xfa6d), ("CJK COMPATIBILITY IDEOGRAPH-", 0xfa70, 0xfad9),
   ("CJK COMPATIBILITY IDEOGRAPH-", 0x2f800, 0x2fa1d),
   ("KHITAN SMALL SCRIPT CHARACTER-", 0x18b00, 0x18cd5), ("NUSHU CHARACTER-", 0x1b170, 0x1b2fb)]

/-- The character that is named for its code point. -/
def numbered? (name : List Char) : Option Nat :=
  numberedNames.findSome? fun (words, lo, hi) => do
    let digits ← after? words.toList name
    let n := hexNumber digits
    if (digits.length == 4 || digits.length == 5) && digits.all isUpperHex && lo ≤ n && n ≤ hi
    then some n else none

/-- The variation selector of a number in decimal. -/
def selector? (digits : List Char) : Option Nat :=
  if digits.isEmpty || digits.head? == some '0' || !digits.all (fun c => '0' ≤ c && c ≤ '9') then none
  else
    let n := digits.foldl (fun n c => n * 10 + (c.toNat - '0'.toNat)) 0
    if n ≤ 16 then some (0xfe00 + n - 1) else if n ≤ 256 then some (0xe0100 + n - 17) else none

/-- The code point of a name.  Names in tables may be written in small letters. -/
def find? (name : String) : Option Nat :=
  match after? "HANGUL SYLLABLE ".toList name.toList with
  | some letters => syllable? letters
  | none =>
  match after? "CJK UNIFIED IDEOGRAPH-".toList name.toList with
  | some digits => ideograph? digits
  | none =>
    let capital := name.toUpper
    [numbered? capital.toList, (after? ['V', 'S'] capital.toList).bind selector?,
      inFurther? capital, inTable? letters capital, inTable? symbols capital,
      inTable? eastAsian capital, inTable? historic capital, inTable? pictures capital].findSome? id

end PageObjects.Text.CharName
