import PageObjects.Value.Basic

/-!
# Arguments

How arguments are matched with parameters: positional arguments first, then
named ones.  No parameter may be given twice, none that is required may be
missing, and nothing may be left over.

Main definitions:

- `bindArguments`: the values of parameters.
-/

namespace PageObjects

/-- The values of parameters, each with whether it is required. -/
def bindArguments : (params : List (String × Bool)) → (args : List Value) →
    (named : List (String × Value)) → Option (List (Option Value))
  | [], [], [] => some []
  | [], _, _ => none
  | (name, _) :: params, a :: args, named =>
    if (named.lookup name).isSome then none
    else (bindArguments params args named).map (some a :: ·)
  | (name, required) :: params, [], named =>
    match named.lookup name with
    | some v => (bindArguments params [] (named.filter fun e => e.1 != name)).map (some v :: ·)
    | none => if required then none else (bindArguments params [] named).map (none :: ·)

end PageObjects
