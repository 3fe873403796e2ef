import PageObjects.Value.Basic

/-!
# Keys

What a value is told apart by when it is the key of a mapping or the member of
a set.  Numbers are told apart by their value whatever their type, texts and
words by their letters, moments by the point of time, and things that a program
has made by their identity.  Lists, mappings, sets and definitions change, and
have no key.

Main definitions:

- `Atom`, `Key`: a key as a sequence of atoms.
- `Value.key?`: the key of a value.
- `Value.hashable`: whether a value has one.

Main results:

- Theorem `Value.key?_text`: the key of a text.
-/

namespace PageObjects

/-- The parts of a key. -/
inductive Atom where
  | none
  | whole (n : Int)
  | real (bits : UInt64)
  | nan (id : Nat)
  | text (s : String)
  | bytes (bs : List UInt8)
  | date (d : Date)
  | instant (zoned : Bool) (n : Int)
  | tuple (length : Nat)
  | thing (sort : String) (id : Nat)
  | named (sort name : String)
  | finish (f : Finish)
deriving Repr, DecidableEq

/-- What a value is told apart by. -/
abbrev Key := List Atom

namespace Value

/-- The atoms of all parts, if each of them has a key. -/
def joined (head : Atom) : List (Option Key) → Option Key
  | [] => some [head]
  | Option.none :: _ => Option.none
  | some k :: rest => (joined head rest).map (· ++ k)

mutual

/-- What a value is told apart by as a thing, whether or not it may be a key. -/
def identity : Value → Key
  | .list c => [.thing "list" c]
  | .set c => [.thing "set" c]
  | .map c => [.thing "map" c]
  | .mapping (.fields i) => [.thing "fields" i]
  | .mapping (.table i) => [.thing "table" i]
  | .mapping (.bindings i) => [.thing "bindings" i]
  | .mapping (.pages i) => [.thing "pages" i]
  | .none => [.none]
  | .bool b => [.whole (if b then 1 else 0)]
  | .int n => [.whole n]
  | .float x =>
    match (Value.float x).whole? with
    | some n => [.whole n]
    | Option.none => [.real x.toBits]
  | .nan id => [.nan id]
  | .text s => [.text s]
  | .bytes bs => [.bytes bs]
  | .date d => [.date d]
  | .moment m => [.instant m.offset.isSome m.instant]
  | .tuple items => identities items
  | .series type items => .named "series" type :: identities items
  | .pattern source => [.named "pattern" source]
  | .occurrence f => [.named "occurrence" f.source, .text f.subject, .whole ((f.span? 0).getD (0, 0)).1]
  | .toggle t => [.text (toggleWord t)]
  | .bindingKind k => [.text (bindingWord k)]
  | .element name => [.named "element" name]
  | .driver name => [.named "driver" name]
  | .control id _ => [.thing "instance" id]
  | .page id _ => [.thing "instance" id]
  | .object id _ => [.thing "instance" id]
  | .pageType cls => [.thing "page type" cls.id]
  | .recordType cls => [.thing "record type" cls.id]
  | .systemType name => [.named "type" name]
  | .definition id => [.thing "definition" id]
  | .expectation name timeout => .tuple 3 :: identity name ++ identity timeout
  | .binding name kind payload =>
    .tuple 4 :: .text (bindingWord kind) :: identity name ++ identity payload
  | .catalog id => [.thing "catalog" id]
  | .announcer => [.named "announcer" ""]
  | .bound name kind payload owner =>
    .named "bound" name :: .text (bindingWord kind) :: identity payload ++ identity owner
  | .function id => [.thing "function" id]
  | .method _ body => [.thing "function" body]
  | .hook cls => [.thing "hook" cls.id]
  | .held f owner => .named "held" "" :: identity f ++ identity owner
  | .member owner name => .named "member" name :: identity owner
  | .locator label strategy target f =>
    [.named "locator" label, .text strategy, .text target, .finish f]
  | .attributeLocator strategy target property =>
    .named "locator" "" :: .text strategy :: .text target :: identity property
  | .decorator cls kind name =>
    .thing "decorator" cls.id :: .text (bindingWord kind) :: identity name

/-- The identities of all items. -/
def identities : List Value → Key
  | [] => []
  | v :: vs => .tuple (vs.length + 1) :: identity v ++ identities vs

end

mutual

/-- Whether a value may be the key of a mapping. -/
def hashable : Value → Bool
  | .list _ | .set _ | .map _ | .mapping _ | .series .. | .definition _ => false
  | .tuple items => allHashable items
  | .expectation a b => hashable a && hashable b
  | .binding n _ p => hashable n && hashable p
  | _ => true

/-- Whether all items may be keys. -/
def allHashable : List Value → Bool
  | [] => true
  | a :: as => hashable a && allHashable as

end

/-- What a value is told apart by as a key. -/
def key? (v : Value) : Option Key := if v.hashable then some v.identity else Option.none

@[simp] theorem key?_text (s : String) : (Value.text s).key? = some [.text s] := by
  simp [key?, hashable, identity]

@[simp] theorem key?_toggle (t : Toggle) : (Value.toggle t).key? = some [.text (toggleWord t)] := by
  simp [key?, hashable, identity]

/-! ## Mappings -/

/-- Entries in the order in which their keys came first. -/
abbrev Entries := List (Value × Value)

/-- The value under a key. -/
def lookup? (key : Value) (entries : Entries) : Option Value :=
  (entries.find? fun e => e.1.identity == key.identity).map (·.2)

/-- The value under a text. -/
def field? (key : String) (entries : Entries) : Option Value := lookup? (.text key) entries

/-- The value under a text, or the absent value. -/
def field (key : String) (entries : Entries) : Value := (field? key entries).getD .none

/-- Put a value under a key: in the place of an equal key, or at the end. -/
def insertKey (key value : Value) : Entries → Entries
  | [] => [(key, value)]
  | (k, v) :: rest =>
    if k.identity == key.identity then (k, value) :: rest else (k, v) :: insertKey key value rest

@[simp] theorem lookup?_nil (key : Value) : lookup? key [] = Option.none := rfl

/-- Entries with texts for keys. -/
def named (fields : List (String × Value)) : Entries := fields.map fun f => (.text f.1, f.2)

/-- Whether there is one thing only for a value, wherever it comes from: the absent
value, truth values and words, small numbers, and texts of one small character. -/
def isUnique : Value → Bool
  | .none | .bool _ | .toggle _ | .bindingKind _ => true
  | .int n => -5 ≤ n && n ≤ 256
  | .text s => s == "" || (s.length == 1 && s.toList.all fun c => c.toNat < 256)
  | _ => false

/-- Two values are the same thing: data when they are equal and of one type, and what
a program has made when it is one thing. -/
def identical : Value → Value → Bool
  | .bool a, .bool b => a == b
  | .int a, .int b => a == b
  | .float a, .float b => a.toBits == b.toBits
  | .text a, .text b => a == b
  | .none, .none => true
  | .nan a, .nan b => a == b
  | .toggle a, .toggle b => a == b
  | .bindingKind a, .bindingKind b => a == b
  | .bool _, _ | .int _, _ | .float _, _ | .text _, _ | .toggle _, _ | .bindingKind _, _ => false
  | .mapping (.bindings _), _ | .series .., _ | .occurrence _, _ | .member .., _ | .held .., _ | .bound .., _ | .locator .., _
  | .attributeLocator .., _ | .decorator .., _ => false
  | a, b => a.identity == b.identity

end Value

end PageObjects
