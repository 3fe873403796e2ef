import Mathlib.Data.List.Nodup
import PageObjects.Proofs.Log.Constructions

/-!
# The text of a context

The text of a context lists the values that are there, each once, with its name: the leading
names first, and then all others by their code points.  The order in which a context is put
together makes no difference, since no name occurs twice in it; so values are never compared.

In a run the texts of the values are found in the order in which they are listed.  Nothing
else can keep a context from being put into a text than a value whose text is not found.

Main definitions:

- `Log.Before`: the order of names.
- `Log.Context.Lists`: what is there of a context, in its order.
- `Log.Context.Spells`: the texts of values are found one after the other.

Main results:

- Theorem `Log.Context.lists_shown` and `Log.Context.Lists.unique`: what is shown of a context
  is what is there of it, in its order, and there is only one such list.
- Theorem `Log.Context.run_fields_error_iff`: what keeps the texts of values from being found.
- Theorem `format_orderless`: the text of a context does not depend on its order.
-/

namespace PageObjects

open Prog (andThen andThen_ok andThen_error)

/-! ## The order of names -/

namespace Log

/-- The order of names: the leading ones as they are given, then all others by their code points. -/
inductive Before : String → String → Prop where
  | leading {a b : String} : [a, b].Sublist leadingNames → Before a b
  | first {a b : String} : a ∈ leadingNames → b ∉ leadingNames → Before a b
  | others {a b : String} :
    a ∉ leadingNames → b ∉ leadingNames → Text.Half.precedes a b = true → a ≠ b → Before a b

/-- Of two leading names one comes first. -/
theorem not_leading_both {a b : String} (h : [a, b].Sublist leadingNames) : ¬[b, a].Sublist leadingNames := by
  have hdistinct : leadingNames.Nodup := by decide
  have hordered : leadingNames.Pairwise fun a b => ¬[b, a].Sublist leadingNames := by decide
  exact List.pairwise_iff_forall_sublist.mp hordered h

/-- Of two names one comes first. -/
theorem Before.asymm {a b : String} (h : Before a b) : ¬Before b a := by
  intro h'
  cases h with
  | leading hab =>
    cases h' with
    | leading hba => exact not_leading_both hab hba
    | first _ ha => exact ha (hab.subset (by simp))
    | others hb => exact hb (hab.subset (by simp))
  | first ha hb =>
    cases h' with
    | leading hba => exact hb (hba.subset (by simp))
    | first hb' => exact hb hb'
    | others _ ha' => exact ha' ha
  | others ha hb hab hne =>
    cases h' with
    | leading hba => exact ha (hba.subset (by simp))
    | first hb' => exact hb hb'
    | others _ _ hba => exact hne (Text.Half.precedes_antisymm hab hba)

theorem Before.ne {a b : String} (h : Before a b) : a ≠ b := by
  rintro rfl
  exact h.asymm h

/-! ## What is shown of a context -/

namespace Context

/-- What is there of a context, in the order of the names. -/
structure Lists (ctx es : Context) : Prop where
  mem : ∀ e, e ∈ es ↔ e ∈ ctx ∧ e.2.isNone = false
  order : es.Pairwise fun a b => Before a.1 b.1

namespace Lists

variable {ctx ctx' es es' : Context}

/-- Each name is listed once. -/
theorem nodup (h : ctx.Lists es) : (es.map (·.1)).Nodup :=
  List.pairwise_map.mpr (h.order.imp Before.ne)

/-- There is one way to list what is there. -/
theorem unique (h : ctx.Lists es) (h' : ctx.Lists es') : es = es' := by
  have hperm : es.Perm es' :=
    (List.perm_ext_iff_of_nodup h.nodup.of_map h'.nodup.of_map).mpr fun e => (h.mem e).trans (h'.mem e).symm
  exact hperm.eq_of_pairwise (fun a b _ _ hab hba => absurd hba (Before.asymm hab)) h.order h'.order

/-- In which order a context is put together makes no difference. -/
theorem perm (h : ctx.Lists es) (hperm : ctx'.Perm ctx) : ctx'.Lists es :=
  ⟨fun e => (h.mem e).trans (and_congr hperm.mem_iff.symm Iff.rfl), h.order⟩

end Lists

variable {ctx ctx' : Context}

/-- Where no name occurs twice, a value is found under a name if they are an entry. -/
theorem lookup_iff_mem (hnames : (ctx.map (·.1)).Nodup) {name : String} {v : Value} :
    ctx.lookup name = some v ↔ (name, v) ∈ ctx := by
  constructor
  · intro h
    obtain ⟨before, after, rfl, -⟩ := List.lookup_eq_some_iff.mp h
    simp
  · intro h
    obtain ⟨before, after, rfl⟩ := List.append_of_mem h
    refine List.lookup_eq_some_iff.mpr ⟨before, after, rfl, fun e he => ?_⟩
    rw [List.map_append, List.nodup_append] at hnames
    have hne : e.1 ≠ name := hnames.2.2 e.1 (List.mem_map_of_mem he) name (by simp)
    simpa using hne.symm

/-- What is shown under the leading names, in their order. -/
theorem leading_names (ctx : Context) :
    ((leadingNames.filterMap fun k => (ctx.lookup k).map fun v => (k, v)).map (·.1)).Sublist leadingNames := by
  have hkept : ((leadingNames.filterMap fun k => (ctx.lookup k).map fun v => (k, v)).map (·.1)) =
      leadingNames.filter fun k => (ctx.lookup k).isSome := by
    rw [List.map_filterMap, ← List.filterMap_eq_filter]
    refine List.filterMap_congr fun k _ => ?_
    cases hk : ctx.lookup k <;> simp [Option.guard, hk]
  rw [hkept]
  exact List.filter_sublist

/-- What is shown under other names is in the order of these. -/
theorem others_ordered {present : Context} (hnames : (present.map (·.1)).Nodup) :
    (present.mergeSort fun a b => Text.Half.precedes a.1 b.1).Pairwise fun a b =>
      Text.Half.precedes a.1 b.1 = true ∧ a.1 ≠ b.1 := by
  have htrans : ∀ a b c : String × Value, Text.Half.precedes a.1 b.1 = true → Text.Half.precedes b.1 c.1 = true →
      Text.Half.precedes a.1 c.1 = true := fun _ _ _ => Text.Half.precedes_trans
  have htotal : ∀ a b : String × Value, (Text.Half.precedes a.1 b.1 || Text.Half.precedes b.1 a.1) = true := by
    intro a b
    rw [Bool.or_eq_true]
    exact Text.Half.precedes_total a.1 b.1
  have hsorted : (present.mergeSort fun a b => Text.Half.precedes a.1 b.1).Pairwise fun a b =>
      Text.Half.precedes a.1 b.1 = true := List.pairwise_mergeSort htrans htotal present
  have hdistinct : (present.mergeSort fun a b => Text.Half.precedes a.1 b.1).Pairwise fun a b => a.1 ≠ b.1 :=
    List.pairwise_map.mp (((List.mergeSort_perm _ _).map _).nodup_iff.mpr hnames)
  exact hsorted.and hdistinct

/-- What is shown of a context is what is there of it, in the order of the names. -/
theorem lists_shown (hnames : (ctx.map (·.1)).Nodup) : ctx.Lists ctx.shown := by
  have hpresent : ((ctx.filter fun e => !e.2.isNone).map (·.1)).Nodup :=
    hnames.sublist (List.filter_sublist.map _)
  constructor
  · rintro ⟨name, v⟩
    simp only [shown, List.mem_append, List.mem_filterMap, List.mem_mergeSort, List.mem_filter, Option.map_eq_some_iff,
      Prod.mk.injEq, lookup_iff_mem hpresent, Bool.not_eq_true', List.contains_eq_mem, decide_eq_false_iff_not]
    constructor
    · rintro (⟨k, -, v', h, rfl, rfl⟩ | ⟨h, -⟩) <;> exact h
    · intro h
      by_cases hleading : name ∈ leadingNames
      · exact .inl ⟨name, hleading, v, h, rfl, rfl⟩
      · exact .inr ⟨h, hleading⟩
  · have hothers : ∀ e ∈ ((ctx.filter fun e => !e.2.isNone).filter fun e => !leadingNames.contains e.1).mergeSort
        fun a b => Text.Half.precedes a.1 b.1, e.1 ∉ leadingNames := by
      intro e he
      simpa using (List.mem_filter.mp (List.mem_mergeSort.mp he)).2
    refine List.pairwise_append.mpr ⟨?_, ?_, fun a ha b hb => ?_⟩
    · exact List.pairwise_map.mp
        (List.pairwise_iff_forall_sublist.mpr fun hpair => .leading (hpair.trans (leading_names _)))
    · refine (others_ordered (hpresent.sublist (List.filter_sublist.map _))).imp_of_mem fun ha hb hab => ?_
      exact .others (hothers _ ha) (hothers _ hb) hab.1 hab.2
    · exact .first ((leading_names _).subset (List.mem_map_of_mem ha)) (hothers b hb)

/-- The order in which a context is put together makes no difference to what is shown of it. -/
theorem shown_perm (hnames : (ctx.map (·.1)).Nodup) (hperm : ctx'.Perm ctx) : ctx'.shown = ctx.shown :=
  (lists_shown ((hperm.map _).nodup_iff.mpr hnames)).unique ((lists_shown hnames).perm hperm)

end Context

end Log

/-! ## Contexts in runs -/

namespace Log.Context

/-- The texts of values are found one after the other, each with its name, from one world to another. -/
inductive Spells (caller : Caller) : Context → World → List String → World → Prop where
  | nil {w : World} : Spells caller [] w [] w
  | cons {name : String} {v : Value} {es : Context} {t : String} {ts : List String} {w w₁ w' : World} :
    (Asking.formatted v).run caller w = (.ok t, w₁) → Spells caller es w₁ ts w' →
      Spells caller ((name, v) :: es) w (field name t :: ts) w'

section Spelled

variable {caller : Caller} {ctx ctx' es : Context} {ts : List String} {w w' : World}

/-- The texts of values are found after that of the first one. -/
theorem run_fields_cons (name : String) (v : Value) (es : Context) (w : World) :
    (Asking.fields ((name, v) :: es)).run caller w =
      andThen ((Asking.formatted v).run caller w) fun t w₁ =>
        andThen ((Asking.fields es).run caller w₁) fun ts w' => (.ok (field name t :: ts), w') := by
  rw [Asking.fields, Asking.bind_eq, Asking.run_bind]
  congr 1
  funext t w₁
  exact Asking.run_bind _ _ _

/-- What comes of finding texts is what they are. -/
theorem run_fields_ok_iff : (Asking.fields es).run caller w = (.ok ts, w') ↔ Spells caller es w ts w' := by
  constructor
  · intro h
    induction es generalizing w ts with
    | nil =>
      cases h
      exact .nil
    | cons e es ih =>
      obtain ⟨name, v⟩ := e
      rw [run_fields_cons] at h
      rcases hfirst : (Asking.formatted v).run caller w with ⟨r | t, w₁⟩
      · rw [hfirst] at h
        cases h
      · rw [hfirst, andThen_ok] at h
        rcases hrest : (Asking.fields es).run caller w₁ with ⟨r | ts', w₂⟩
        · rw [hrest] at h
          cases h
        · rw [hrest] at h
          cases h
          exact .cons hfirst (ih hrest)
  · intro h
    induction h with
    | nil => rfl
    | cons hfirst _ ih =>
      rw [run_fields_cons, hfirst, andThen_ok, ih]
      rfl

/-- What keeps the texts of values from being found is the first value whose text is not. -/
theorem run_fields_error_iff {r : Raised} :
    (Asking.fields es).run caller w = (.error r, w') ↔
      ∃ before e after ts w₁, es = before ++ e :: after ∧ Spells caller before w ts w₁ ∧
        (Asking.formatted e.2).run caller w₁ = (.error r, w') := by
  constructor
  · intro h
    induction es generalizing w with
    | nil => cases h
    | cons e es ih =>
      obtain ⟨name, v⟩ := e
      rw [run_fields_cons] at h
      rcases hfirst : (Asking.formatted v).run caller w with ⟨r' | t, w₁⟩
      · rw [hfirst] at h
        cases h
        exact ⟨[], (name, v), es, [], w, rfl, .nil, hfirst⟩
      · rw [hfirst, andThen_ok] at h
        rcases hrest : (Asking.fields es).run caller w₁ with ⟨r' | ts, w₂⟩
        · rw [hrest] at h
          cases h
          obtain ⟨before, e, after, ts, w₂, rfl, hbefore, herror⟩ := ih hrest
          exact ⟨(name, v) :: before, e, after, _, w₂, rfl, .cons hfirst hbefore, herror⟩
        · rw [hrest] at h
          cases h
  · rintro ⟨before, ⟨name, v⟩, after, ts, w₁, rfl, hbefore, herror⟩
    induction hbefore with
    | nil => rw [List.nil_append, run_fields_cons, herror, andThen_error]
    | cons hfirst _ ih =>
      rw [List.cons_append, run_fields_cons, hfirst, andThen_ok, ih herror, andThen_error]

/-- A context is put into a text once the texts of its values have been found. -/
theorem run_context (ctx : Context) (w : World) :
    (Asking.context ctx).run caller w =
      andThen ((Asking.fields ctx.shown).run caller w) fun ts w' => (.ok (joined ts), w') := by
  rw [Asking.context, Asking.bind_eq, Asking.run_bind]
  rfl

/-- Contexts of which the same is shown have the same text. -/
theorem context_eq_of_shown (h : ctx'.shown = ctx.shown) : Asking.context ctx' = Asking.context ctx := by
  rw [Asking.context, h]
  rfl

end Spelled

end Log.Context

/-- Contexts with the same text have lines logged in the same way. -/
theorem tell_context_congr {caller : Caller} {ctx ctx' : Log.Context} {w : World} {e : Log.Entry}
    {mark : Option Log.Mark} (h : Asking.context ctx' = Asking.context ctx) :
    tell caller { e with context := ctx' } mark w = tell caller { e with context := ctx } mark w := by
  have htail : Log.Entry.tail caller { e with context := ctx' } w = Log.Entry.tail caller { e with context := ctx } w := by
    simp only [Log.Entry.tail, h]
  rw [tell, tell, htail]
  rfl

/-- **The order of a context makes no difference**: the text of a context in which no name occurs
twice lists what is there of it, each name once, the leading ones first and then all others by
their code points, whatever the values are.  All ways to put the context together are put into
a text in the same way, and have lines logged in the same way.  The text consists of what is found
of the values in this order, each with its name; the only fault there can be is that of the first
value whose text is not found, and there is none if all texts are found. -/
theorem format_orderless {ctx ctx' : Log.Context} (hnames : (ctx.map (·.1)).Nodup) (hperm : ctx'.Perm ctx) :
    ∃ es, ctx.Lists es ∧ (es.map (·.1)).Nodup ∧ Asking.context ctx' = Asking.context ctx ∧
      ∀ caller w,
        (∀ (e : Log.Entry) mark,
          tell caller { e with context := ctx' } mark w = tell caller { e with context := ctx } mark w) ∧
        (∀ text w', (Asking.context ctx).run caller w = (.ok text, w') ↔
          ∃ ts, Log.Context.Spells caller es w ts w' ∧ text = " ".intercalate ts) ∧
        (∀ r w', (Asking.context ctx).run caller w = (.error r, w') ↔
          ∃ before e after ts w₁, es = before ++ e :: after ∧ Log.Context.Spells caller before w ts w₁ ∧
            (Asking.formatted e.2).run caller w₁ = (.error r, w')) ∧
        ((∀ e ∈ es, ∀ w₁, ((Asking.formatted e.2).run caller w₁).1.isOk = true) →
          ∃ text w', (Asking.context ctx).run caller w = (.ok text, w')) := by
  have hlists := Log.Context.lists_shown hnames
  have hsame : Asking.context ctx' = Asking.context ctx :=
    Log.Context.context_eq_of_shown (Log.Context.shown_perm hnames hperm)
  refine ⟨ctx.shown, hlists, hlists.nodup, hsame, fun caller w => ?_⟩
  have herror : ∀ r w', (Asking.context ctx).run caller w = (.error r, w') ↔
      ∃ before e after ts w₁, ctx.shown = before ++ e :: after ∧ Log.Context.Spells caller before w ts w₁ ∧
        (Asking.formatted e.2).run caller w₁ = (.error r, w') := by
    intro r w'
    rw [← Log.Context.run_fields_error_iff, Log.Context.run_context]
    rcases (Asking.fields ctx.shown).run caller w with ⟨_ | _, _⟩ <;> simp [andThen]
  refine ⟨fun e mark => tell_context_congr hsame, fun text w' => ?_, herror, fun hall => ?_⟩
  · rw [Log.Context.run_context]
    constructor
    · intro h
      rcases hfields : (Asking.fields ctx.shown).run caller w with ⟨r | ts, w₁⟩
      · rw [hfields] at h
        cases h
      · rw [hfields] at h
        cases h
        exact ⟨ts, Log.Context.run_fields_ok_iff.mp hfields, rfl⟩
    · rintro ⟨ts, hspells, rfl⟩
      rw [Log.Context.run_fields_ok_iff.mpr hspells]
      rfl
  · rcases hrun : (Asking.context ctx).run caller w with ⟨r | text, w'⟩
    · obtain ⟨before, e, after, ts, w₁, hshown, -, hraised⟩ := (herror r w').mp hrun
      have hok := hall e (by simp [hshown]) w₁
      rw [hraised] at hok
      cases hok
    · exact ⟨text, w', rfl⟩

/-- A context with values of several kinds, which could not be compared with each other. -/
def mixedContext : Log.Context :=
  [("zeta", .int 1), ("name", .text "title"), ("page", .text "Home"), ("skipped", .none), ("alpha", .text "x"),
    ("beta", .bool true)]

/-- What is there of it, in the order of the names. -/
def mixedEntries : Log.Context :=
  [("page", .text "Home"), ("name", .text "title"), ("alpha", .text "x"), ("beta", .bool true), ("zeta", .int 1)]

theorem mixedContext_lists : mixedContext.Lists mixedEntries := by
  constructor
  · rintro ⟨name, v⟩
    simp only [mixedContext, mixedEntries, List.mem_cons, List.not_mem_nil, or_false, Prod.mk.injEq]
    constructor
    · rintro (⟨rfl, rfl⟩ | ⟨rfl, rfl⟩ | ⟨rfl, rfl⟩ | ⟨rfl, rfl⟩ | ⟨rfl, rfl⟩) <;> simp [Value.isNone]
    · rintro ⟨⟨rfl, rfl⟩ | ⟨rfl, rfl⟩ | ⟨rfl, rfl⟩ | ⟨rfl, rfl⟩ | ⟨rfl, rfl⟩ | ⟨rfl, rfl⟩, h⟩ <;>
        simp_all [Value.isNone]
  · have hfirst : Log.Before "page" "name" := .leading (by decide)
    have hothers : Log.Before "alpha" "beta" ∧ Log.Before "alpha" "zeta" ∧ Log.Before "beta" "zeta" :=
      ⟨.others (by decide) (by decide) (by decide) (by decide),
        .others (by decide) (by decide) (by decide) (by decide),
        .others (by decide) (by decide) (by decide) (by decide)⟩
    have hleading : ∀ a ∈ ["page", "name"], ∀ b ∈ ["alpha", "beta", "zeta"], Log.Before a b :=
      fun a ha b hb => .first (by revert a; decide) (by revert b; decide)
    simp [mixedEntries, hfirst, hothers, hleading]

/-- A small number is shown by its digit. -/
theorem formatted_one (caller : Caller) (w : World) : (Asking.formatted (.int 1)).run caller w = (.ok "1", w) := by
  have hshort : Decimal.tooLongToShow 1 = false := by decide +kernel
  show (Asking.showing.inspectAt (959 + 1) [] (.int 1)).run caller w = _
  simp only [Showing.inspectAt, Showing.loopText?, List.contains_nil, Bool.false_eq_true, if_false, hshort]
  rfl

/-- The context is put into one text, in whatever order it is put together. -/
theorem mixedContext_orderless :
    (mixedContext.map (·.1)).Nodup ∧ mixedContext.reverse.Perm mixedContext ∧
    ∀ caller w, (Asking.context mixedContext.reverse).run caller w =
      (.ok "page=Home name=title alpha=x beta=True zeta=1", w) := by
  have hnames : (mixedContext.map (·.1)).Nodup := by decide
  have hperm : mixedContext.reverse.Perm mixedContext := mixedContext.reverse_perm
  refine ⟨hnames, hperm, fun caller w => ?_⟩
  obtain ⟨es, hlists, -, hsame, hruns⟩ := format_orderless hnames hperm
  cases hlists.unique mixedContext_lists
  obtain ⟨-, htext, -, -⟩ := hruns caller w
  have hspells : ∃ ts, Log.Context.Spells caller mixedEntries w ts w ∧
      " ".intercalate ts = "page=Home name=title alpha=x beta=True zeta=1" :=
    ⟨_, .cons rfl (.cons rfl (.cons rfl (.cons rfl (.cons (formatted_one caller w) .nil)))), rfl⟩
  obtain ⟨ts, hspells, hjoined⟩ := hspells
  rw [hsame]
  exact (htext _ w).mpr ⟨ts, hspells, hjoined.symm⟩

/-- A thing whose type fails to give its text keeps a context from being put into one. -/
theorem flagWorld_unspelled :
    (raised? ((Asking.context [("visit", .object 0 (some flagRecord))]).run (callAt 1 10) (flagWorld {})).1).map
      Raised.kind = some .runtime := by
  decide +kernel

end PageObjects
