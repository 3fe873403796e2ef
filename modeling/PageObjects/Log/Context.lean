import PageObjects.Assoc
import PageObjects.Text.Half
import PageObjects.Value.Display

/-!
# The context of a log line

A log line may carry named values.  Absent values are left out.  Four leading
names come first, in a fixed order; all others follow in ascending order.

Main definitions:

- `Context`: named values.
- `leadingNames`: the names that come first.
- `Context.shown`: the values that are shown, in their order.
- `Context.Plain`, `Context.plainText`: contexts that are shown without asking, and their texts.
-/

namespace PageObjects.Log

/-- Named values; no name occurs twice. -/
abbrev Context := List (String × Value)

/-- The names that come first. -/
def leadingNames : List String := ["page", "name", "kind", "a"]

namespace Context

/-- A name with the text of its value. -/
def field (name text : String) : String := name ++ "=" ++ text

/-- Such texts together. -/
def joined (fields : List String) : String := " ".intercalate fields

/-- The entries that are shown, in the order in which they are shown. -/
def shown (ctx : Context) : Context :=
  let present := ctx.filter fun e => !e.2.isNone
  let leading := leadingNames.filterMap fun k => (present.lookup k).map fun v => (k, v)
  let others := present.filter fun e => !leadingNames.contains e.1
  leading ++ others.mergeSort fun a b => Text.Half.precedes a.1 b.1

/-- Put a value under a name: in the place of the name, or at the end. -/
def put (name : String) (value : Value) (ctx : Context) : Context :=
  Assoc.put name value ctx

/-- Put all entries of a context into another. -/
def merge (base extra : Context) : Context :=
  Assoc.merge base extra

/-- What is shown of a context is part of it. -/
theorem mem_of_mem_shown {ctx : Context} {e : String × Value} (h : e ∈ ctx.shown) : e ∈ ctx := by
  rcases List.mem_append.mp h with h | h
  · obtain ⟨name, -, hname⟩ := List.mem_filterMap.mp h
    obtain ⟨v, hlookup, rfl⟩ := Option.map_eq_some_iff.mp hname
    obtain ⟨before, after, hpresent, -⟩ := List.lookup_eq_some_iff.mp hlookup
    have hmem : (name, v) ∈ ctx.filter fun e => !e.2.isNone := by
      rw [hpresent]
      exact List.mem_append_right _ List.mem_cons_self
    exact (List.mem_filter.mp hmem).1
  · exact (List.mem_filter.mp (List.mem_filter.mp (List.mem_mergeSort.mp h)).1).1

/-! ## Plain contexts -/

/-- All values of a context are shown without asking. -/
def Plain (ctx : Context) : Prop := ∀ e ∈ ctx, e.2.isPlain = true

/-- The names and values of such a context, in order. -/
def plainFields (ctx : Context) : List String := ctx.map fun e => field e.1 e.2.plainText

/-- The text of such a context. -/
def plainText (ctx : Context) : String := joined ctx.shown.plainFields

/-- What is shown of a plain context is plain. -/
theorem Plain.shown {ctx : Context} (h : ctx.Plain) : ctx.shown.Plain := fun e he => h e (mem_of_mem_shown he)

end Context

end PageObjects.Log
