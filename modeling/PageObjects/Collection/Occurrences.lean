import PageObjects.Program.Text

/-!
# Occurrences

The groups of what a search has found, by number or by name.  A group that took
no part in the match has no text, and its edges lie before the text.

Main definitions:

- `Occurrence.groupText`, `Occurrence.edges`: what a group has matched, and where.
- `Prog.groupOf`: the group that a number or a name stands for.
- `Prog.callOccurrence`: the members of occurrences.
-/

namespace PageObjects

namespace Occurrence

/-- The groups of the pattern that have names. -/
def groupNames (f : Occurrence) : List (String × Nat) :=
  match Pattern.compile f.source with
  | .ok p => p.names
  | .error _ => []

/-- The text of a group, or something instead of it. -/
def groupText (f : Occurrence) (instead : Value) (group : Nat) : Value :=
  ((f.part? group).map Value.text).getD instead

/-- Where a group begins and ends. -/
def edges (f : Occurrence) (group : Nat) : Int × Int :=
  match f.span? group with
  | some (start, stop) => (start, stop)
  | none => (-1, -1)

end Occurrence

namespace Prog

/-- The group that a number or a name stands for. -/
def groupOf (f : Occurrence) (key : Value) : Prog Nat :=
  match key.index? with
  | some n => if 0 ≤ n ∧ n < f.spans.length then .done n.toNat else raise (.plain .position)
  | none =>
    if key.hashable then
      ofOption (.plain .position) (key.word?.bind fun name => f.groupNames.lookup name)
    else raise .wrongType

/-- What a group has matched, under a number or a name. -/
def groupItem (f : Occurrence) (key : Value) : Prog Value := do pure (f.groupText .none (← groupOf f key))

/-- What several groups have matched. -/
def groupItems (f : Occurrence) : List Value → Prog (List Value)
  | [] => .done []
  | key :: rest => do
    let item ← groupItem f key
    return item :: (← groupItems f rest)

/-- The group that the arguments name: the whole match, if there are none. -/
def groupAmong (f : Occurrence) : List Value → Prog Nat
  | [] => .done 0
  | [key] => groupOf f key
  | _ => raise .wrongType

/-- What takes the place of groups without a text. -/
def insteadOf : List Value → Prog Value
  | [] => .done .none
  | [v] => .done v
  | _ => raise .wrongType

/-- Call a member of an occurrence. -/
def callOccurrence (f : Occurrence) (name : String) (args : List Value) : Prog Value := do
  match name, args with
  | "group", [] => pure (f.groupText .none 0)
  | "group", [key] => groupItem f key
  | "group", keys => do pure (.tuple (← groupItems f keys))
  | "groups", args => do
    let instead ← insteadOf args
    pure (.tuple ((List.range (f.spans.length - 1)).map fun g => f.groupText instead (g + 1)))
  | "groupdict", args => do
    let instead ← insteadOf args
    let i ← op (.makeCell (.map (Value.named (f.groupNames.map fun n => (n.1, f.groupText instead n.2)))))
    pure (.map i)
  | "start", args => do pure (.int (f.edges (← groupAmong f args)).1)
  | "end", args => do pure (.int (f.edges (← groupAmong f args)).2)
  | "span", args => do
    let edges := f.edges (← groupAmong f args)
    pure (.tuple [.int edges.1, .int edges.2])
  | _, _ => raise .wrongType

end Prog

end PageObjects
