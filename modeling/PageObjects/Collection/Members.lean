import PageObjects.Arguments
import PageObjects.Collection.Items
import PageObjects.Text.Template
import PageObjects.Text.Uppercase

/-!
# Members of collections and texts

What the members of texts, collections, patterns and bindings do when they are
called.

Main definitions:

- `Prog.callText`, `Prog.callList`, `Prog.callMapping`, `Prog.callPattern`: the members.
- `Prog.callPlainMember`: all of them, by their owner.
-/

namespace PageObjects.Prog

/-- A new list. -/
def newList (items : List Value) : Prog Value := do
  let i ← op (.makeCell (.list items))
  pure (.list i)

/-- A new mapping. -/
def newMap (entries : Value.Entries) : Prog Value := do
  let i ← op (.makeCell (.map entries))
  pure (.map i)

/-- A fault of a value, with its wording. -/
def valueFault (message : String) : Fault := .raised .value (some message)

/-! ## Texts -/

/-- The place of the first occurrence of a text in another. -/
def firstPlace (part : List Char) : (from_ : Nat) → List Char → Option Nat
  | n, [] => if part.isEmpty then some n else none
  | n, c :: cs => if part.isPrefixOf (c :: cs) then some n else firstPlace part (n + 1) cs

/-- A text without the characters at its ends that are to be dropped. -/
def trimmed (left right : Bool) (drops : Char → Bool) (cs : List Char) : List Char :=
  let cs := if left then cs.dropWhile drops else cs
  if right then (cs.reverse.dropWhile drops).reverse else cs

/-- The words of a text, between blanks. -/
def wordsOf (cs : List Char) : List String :=
  let step (c : Char) (acc : List (List Char)) : List (List Char) :=
    if Text.isBlank c then [] :: acc
    else
      match acc with
      | w :: rest => (c :: w) :: rest
      | [] => [[c]]
  ((cs.foldr step []).filter fun w => !w.isEmpty).map String.ofList

/-- A text with all occurrences of a part replaced; the empty part occurs around every character. -/
def replacing (part value text : List Char) : List Char :=
  if part.isEmpty then value ++ text.flatMap fun c => c :: value else Text.replaceAll part value text

/-- What a text is trimmed of: blanks, or the characters that are given. -/
def trimming : List Value → Prog (Char → Bool)
  | [] | [.none] => .done Text.isBlank
  | [v] => do
    let s ← ofOption .wrongType v.word?
    pure fun c => s.toList.contains c
  | _ => raise .wrongType

/-- The texts that values are, all of them. -/
def textsOf (vs : List Value) : Prog (List String) := ofOption .wrongType (vs.mapM Value.word?)

/-- Call a member of a text. -/
def callText (text name : String) (args : List Value) : Prog Value := do
  let cs := text.toList
  let trim (left right : Bool) : Prog Value := do
    pure (.text (String.ofList (trimmed left right (← trimming args) cs)))
  match name, args with
  | "upper", [] => pure (.text (String.ofList (Text.uppercase cs)))
  | "lower", [] | "casefold", [] => pure (.text (Text.lowercaseString text))
  | "strip", _ => trim true true
  | "lstrip", _ => trim true false
  | "rstrip", _ => trim false true
  | "startswith", [v] => do
    let s ← ofOption .wrongType v.word?
    pure (.bool (s.toList.isPrefixOf cs))
  | "endswith", [v] => do
    let s ← ofOption .wrongType v.word?
    pure (.bool (s.toList.isSuffixOf cs))
  | "replace", [a, b] => do
    let part ← ofOption .wrongType a.word?
    let value ← ofOption .wrongType b.word?
    pure (.text (String.ofList (replacing part.toList value.toList cs)))
  | "split", [] | "split", [.none] => newList ((wordsOf cs).map .text)
  | "split", [v] => do
    let s ← ofOption .wrongType v.word?
    if s = "" then raise (valueFault "empty separator")
    else newList ((text.splitOn s).map .text)
  | "splitlines", [] => newList ((Text.lines text).map .text)
  | "join", [v] => do
    let parts ← textsOf (← membersOf v)
    pure (.text (text.intercalate parts))
  | "find", [v] => do
    let s ← ofOption .wrongType v.word?
    pure (.int (match firstPlace s.toList 0 cs with
      | some n => n
      | none => -1))
  | "count", [v] => do
    let s ← ofOption .wrongType v.word?
    pure (.int (if s = "" then cs.length + 1 else (text.splitOn s).length - 1))
  | _, _ => raise .wrongType

/-! ## Lists -/

/-- The place at which a list is widened: positions beyond an end stand for the end. -/
def gapOf (length : Nat) (position : Int) : Nat :=
  let place := if position < 0 then position + length else position
  min place.toNat length

/-- The place of the first item that is equal to a value. -/
def firstEqual (s : Scene) (items : List Value) (v : Value) : Option Nat :=
  items.findIdx? fun x => s.cells.sameItem x v

/-- Whether a value comes before another or is as great: texts by their characters,
numbers by their value. -/
def ordered? (a b : Value) : Option Bool :=
  match a.word?, b.word? with
  | some s, some t => some (Text.Half.precedes s t)
  | none, none =>
    match a.index?, b.index?, a.toFloat, b.toFloat with
    | some m, some n, _, _ => some (m ≤ n)
    | _, _, .ok x, .ok y => some (x ≤ y)
    | _, _, _, _ => none
  | _, _ => none

/-- The items of a list in ascending order, if there is an order. -/
def sorted? (items : List Value) : Option (List Value) :=
  if items.all fun a => items.all fun b => (ordered? a b).isSome then
    some (items.mergeSort fun a b => (ordered? a b).getD true)
  else none

/-- Call a member of a list. -/
def callList (cell : Nat) (name : String) (args : List Value) : Prog Value := do
  let items ← view fun s => s.cells.listAt cell
  let put (items : List Value) : Prog Value := silently (op (.putCell cell (.list items)))
  match name, args with
  | "append", [v] => put (items ++ [v])
  | "extend", [v] => do put (items ++ (← membersOf v))
  | "insert", [i, v] => do
    let n ← ofOption .wrongType i.index?
    let place := gapOf items.length n
    put (items.take place ++ v :: items.drop place)
  | "pop", [] =>
    match items.getLast? with
    | some v => do
      let _ ← put items.dropLast
      pure v
    | none => raise (.plain .position)
  | "pop", [i] => do
    let place ← placeIn items.length i
    let v ← ofOption (.plain .position) items[place]?
    let _ ← put (items.eraseIdx place)
    pure v
  | "remove", [v] => do
    match ← view fun s => firstEqual s items v with
    | some i => put (items.eraseIdx i)
    | none => raise (valueFault "list.remove(x): x not in list")
  | "reverse", [] => put items.reverse
  | "sort", [] => do put (← ofOption .wrongType (sorted? items))
  | "__delitem__", [i] => do put (items.eraseIdx (← placeIn items.length i))
  | "clear", [] => put []
  | "copy", [] => newList items
  | _, _ => raise .wrongType

/-- Call a member of a list or a tuple that only reads it. -/
def callSequence (items : List Value) (type name : String) (args : List Value)
    (otherwise : Prog Value) : Prog Value := do
  match name, args with
  | "index", [v] => do
    match ← view fun s => firstEqual s items v with
    | some i => pure (.int i)
    | none => do
      if type = "list" then raise (valueFault ((← inspected v) ++ " is not in list"))
      else raise (valueFault "tuple.index(x): x not in tuple")
  | "count", [v] => do
    let n ← view fun s => items.countP fun x => s.cells.sameItem x v
    pure (.int n)
  | _, _ => otherwise

/-! ## Mappings -/

/-- Put entries into a mapping one by one. -/
def putEntries (v : Value) : Value.Entries → Prog Unit
  | [] => .done ()
  | (key, value) :: rest => do
    setItem v key value
    putEntries v rest

/-- Replace all entries of a mapping, where that is possible. -/
def replaceEntries (v : Value) (entries : Value.Entries) : Prog Unit :=
  match v with
  | .map i => op (.putCell i (.map entries))
  | .mapping (.fields i) => op (.setFields i (entries.filterMap fun e => e.1.word?.map fun n => (n, e.2)))
  | _ => raise .wrongType

/-- The fault of an item of a list of pairs that is none. -/
def pairFault (index length : Nat) : Fault := .notAPair index length

/-- The pairs that a list consists of, as entries; each key counts once. -/
def pairsFrom (index : Nat) (acc : Value.Entries) : List Value → Prog Value.Entries
  | [] => .done acc
  | v :: rest => do
    match ← membersOf v with
    | [key, value] =>
      if key.hashable then pairsFrom (index + 1) (Value.insertKey key value acc) rest
      else raise .wrongType
    | parts => raise (pairFault index parts.length)

/-- The entries of a mapping, or of a list of pairs. -/
def entriesOf (v : Value) : Prog Value.Entries := do
  match ← view fun s => s.entries? v with
  | some entries => pure entries
  | none => do pairsFrom 0 [] (← membersOf v)

/-- The value under a key of a mapping, if there is one. -/
def foundKey (entries : Value.Entries) (key : Value) : Prog (Option Value) :=
  if key.hashable then .done (Value.lookup? key entries) else raise .wrongType

/-- The entries of a mapping but for the one under a key. -/
def without (key : Value) (entries : Value.Entries) : Value.Entries :=
  entries.filter fun e => e.1.identity != key.identity

/-- Call a member of a mapping. -/
def callMapping (v : Value) (entries : Value.Entries) (name : String) (args : List Value) (named : Named) :
    Prog Value := do
  match name, args with
  | "get", [key] => do pure ((← foundKey entries key).getD .none)
  | "get", [key, instead] => do pure ((← foundKey entries key).getD instead)
  | "items", [] => pure (.series "dict_items" (entries.map fun e => .tuple [e.1, e.2]))
  | "keys", [] => pure (.series "dict_keys" (entries.map (·.1)))
  | "values", [] => pure (.series "dict_values" (entries.map (·.2)))
  | "copy", [] => newMap entries
  | "clear", [] => silently (replaceEntries v [])
  | "setdefault", key :: rest => do
    match ← foundKey entries key, rest with
    | some value, _ => pure value
    | none, [value] => do
      setItem v key value
      pure value
    | none, [] => do
      setItem v key .none
      pure .none
    | none, _ => raise .wrongType
  | "pop", key :: rest => do
    match ← foundKey entries key, rest with
    | some value, _ => do
      replaceEntries v (without key entries)
      pure value
    | none, [value] => pure value
    | none, _ => raise (.plain .key)
  | "popitem", [] =>
    match entries.getLast? with
    | some (key, value) => do
      replaceEntries v entries.dropLast
      pure (.tuple [key, value])
    | none => raise (.plain .key)
  | "__delitem__", [key] => do
    if (← foundKey entries key).isSome then silently (replaceEntries v (without key entries))
    else raise (.plain .key)
  | "update", [] => silently (putEntries v (Value.named named))
  | "update", [other] => silently do
    putEntries v (← entriesOf other)
    putEntries v (Value.named named)
  | _, _ => raise .wrongType

/-! ## Patterns and bindings -/

/-- The spans of a match and of the groups of its pattern. -/
def spansOf (groupCount : Nat) (found : Pattern.Found) : List (Option (Nat × Nat)) :=
  some (found.start, found.stop) :: (List.range groupCount).map fun g => found.edges.span? (g + 1)

/-- What a search with a pattern finds in a text. -/
def matched (source subject : String) (p : Pattern.Compiled)
    (found : Except Pattern.Fault (Option Pattern.Found)) : Prog Value :=
  match found with
  | .ok (some f) => .done (.occurrence ⟨source, subject, spansOf p.groupCount f⟩)
  | .ok none => .done .none
  | .error fault => raise (.ofPattern fault)

/-- Call a member of a pattern. -/
def callPattern (source name : String) (args : List Value) : Prog Value :=
  match Pattern.compile source, args with
  | .error fault, _ => raise (.ofPattern fault)
  | .ok p, [v] =>
    match v.word?, name with
    | none, _ => raise .wrongType
    | some text, "search" => matched source text p (p.search text 0)
    | some text, "match" => matched source text p (p.matchStart text)
    | some text, "fullmatch" => matched source text p (p.matchWhole text)
    | some _, _ => raise .wrongType
  | _, _ => raise .wrongType

/-- Call a member of what a catalog announces its reading to. -/
def announcing (name : String) (args : List Value) : Prog Value := do
  match name, args with
  | "info", [v] => do
    let text ← ofOption .wrongType v.word?
    silently (op (.note (.notice text)))
  | _, _ => raise .wrongType

/-- A binding for a page; the name of the binding has to be a text. -/
def bindTo (name : Value) (kind : BindingKind) (payload page : Value) : Prog Value := do
  let n ← ofOption .wrongType name.word?
  pure (.bound n kind payload page)

/-! ## All of them -/

/-- How many items a value has. -/
def lengthOf (v : Value) : Prog Value := do
  let items ← membersOf v
  pure (.int items.length)

/-- Call a member that only some plain values have. -/
def callOwnMember (v : Value) (name : String) (args : List Value) (named : Named) : Prog Value := do
  match v with
  | .binding n kind payload =>
    match name, bindArguments [("page", true)] args named with
    | "bind", some [some page] => bindTo n kind payload page
    | _, _ => raise .wrongType
  | v => do
    match ← view fun s => s.entries? v with
    | some entries =>
      if named.isEmpty || name == "update" then callMapping v entries name args named else raise .wrongType
    | none =>
      if named.isEmpty then
        match v with
        | .list i => do
          callSequence (← view fun s => s.cells.listAt i) "list" name args (callList i name args)
        | .tuple items => callSequence items "tuple" name args (raise .wrongType)
        | .pattern source => callPattern source name args
        | .occurrence f => callOccurrence f name args
        | .announcer => announcing name args
        | v =>
          match v.word? with
          | some text => callText text name args
          | none => raise .wrongType
      else raise .wrongType

/-- Call a member of a plain value. -/
def callPlainMember (v : Value) (name : String) (args : List Value) (named : Named) : Prog Value := do
  match name, args, named with
  | "__len__", [], [] => lengthOf v
  | "__getitem__", [key], [] => itemOf v key
  | "__contains__", [key], [] => do pure (.bool (← containsItem v key))
  | "__setitem__", [key, value], [] => silently (setItem v key value)
  | _, _, _ => callOwnMember v name args named

end PageObjects.Prog
