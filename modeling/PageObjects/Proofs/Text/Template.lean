import Mathlib.Data.List.Infix
import PageObjects.Text.Template

/-!
# Templates are filled in one pass

No two occurrences of the placeholder overlap: nothing but the whole of it both begins and
ends it.  So a template can be cut at any occurrence, whatever stands beside it, and be filled
piece by piece: each occurrence is replaced, what is put in is not looked at again, and all
other characters stay as they are.

Main definitions:

- `Unbordered`: patterns of which no two occurrences overlap.
- `placeholder`: the placeholder as a text.

Main results:

- Theorem `Unbordered.prefix_of_append`: an occurrence does not reach into the next one.
- Theorem `replaceAll_append`: a text can be cut at any occurrence of a pattern.
- Theorem `replaceAll_of_absent`: a text without an occurrence stays as it is.
- Theorem `resolveAddress_onePass`: how templates are filled.
-/

namespace PageObjects.Text

/-! ## Patterns -/

/-- A pattern of which no two occurrences overlap: nothing but the whole of it both begins and
ends it. -/
def Unbordered (pattern : List Char) : Prop :=
  ∀ border, border <+: pattern → border <:+ pattern → border = [] ∨ border = pattern

/-- If a pattern begins a text that goes on with an occurrence of it, it does not reach into that
occurrence. -/
theorem Unbordered.prefix_of_append {pattern a b : List Char} (h : Unbordered pattern) (ha : a ≠ [])
    (hfront : pattern <+: a ++ (pattern ++ b)) : pattern <+: a := by
  rcases Nat.le_total pattern.length a.length with hle | hle
  · exact List.prefix_of_prefix_length_le hfront (List.prefix_append a _) hle
  · -- the part of the pattern after `a` would be one of its ends, and its beginning as well
    obtain ⟨border, rfl⟩ : a <+: pattern := List.prefix_of_prefix_length_le (List.prefix_append a _) hfront hle
    have hbegins : border <+: a ++ border := by
      have hrest : border <+: (a ++ border) ++ b := (List.prefix_append_right_inj a).mp hfront
      refine List.prefix_of_prefix_length_le hrest (List.prefix_append _ b) ?_
      simp
    rcases h border hbegins (List.suffix_append a border) with rfl | hwhole
    · simp
    · exact absurd (List.self_eq_append_left.mp hwhole) ha

/-! ## Replacement -/

section Replacement

variable {pattern value : List Char}

/-- What belongs to an occurrence that has been replaced is left out. -/
theorem replaceFrom_eq_drop (skip : Nat) (text : List Char) :
    replaceFrom pattern value skip text = replaceAll pattern value (text.drop skip) := by
  induction text generalizing skip with
  | nil => simp [replaceFrom]
  | cons c text ih =>
    cases skip with
    | zero => rfl
    | succ skip => simpa [replaceFrom] using ih skip

/-- An occurrence at the front is replaced. -/
theorem replaceAll_pattern_append (h : pattern ≠ []) (text : List Char) :
    replaceAll pattern value (pattern ++ text) = value ++ replaceAll pattern value text := by
  obtain ⟨c, rest, rfl⟩ := List.exists_cons_of_ne_nil h
  have hbegins : (c :: rest).isPrefixOf (c :: (rest ++ text)) = true :=
    List.isPrefixOf_iff_prefix.mpr (List.prefix_append (c :: rest) text)
  rw [replaceAll, List.cons_append, replaceFrom, if_pos hbegins, replaceFrom_eq_drop]
  simp

/-- A character at which no occurrence begins stays as it is. -/
theorem replaceAll_cons {c : Char} {text : List Char} (h : ¬ pattern <+: c :: text) :
    replaceAll pattern value (c :: text) = c :: replaceAll pattern value text := by
  rw [replaceAll, replaceFrom, if_neg (by simpa using h)]
  rfl

/-- A text can be cut at any occurrence of a pattern. -/
theorem replaceAll_append (hpattern : pattern ≠ []) (h : Unbordered pattern) (a b : List Char) :
    replaceAll pattern value (a ++ (pattern ++ b)) =
      replaceAll pattern value a ++ (value ++ replaceAll pattern value b) := by
  induction hlength : a.length using Nat.strong_induction_on generalizing a with
  | _ n ih =>
    subst hlength
    cases a with
    | nil => simp [replaceAll_pattern_append hpattern]
    | cons c a =>
      by_cases hbegins : pattern <+: c :: a
      · obtain ⟨rest, hrest⟩ := hbegins
        have hshorter : rest.length < (c :: a).length := by
          rw [← hrest, List.length_append]
          exact Nat.lt_add_of_pos_left (List.length_pos_of_ne_nil hpattern)
        rw [← hrest, List.append_assoc, replaceAll_pattern_append hpattern, ih _ hshorter rest rfl,
          replaceAll_pattern_append hpattern, List.append_assoc]
      · have hnot : ¬ pattern <+: c :: (a ++ (pattern ++ b)) :=
          fun hfront => hbegins (h.prefix_of_append (List.cons_ne_nil c a) hfront)
        rw [List.cons_append, replaceAll_cons hnot, ih _ (Nat.lt_succ_self _) a rfl, replaceAll_cons hbegins,
          List.cons_append]

/-- A text without an occurrence stays as it is. -/
theorem replaceAll_of_absent {text : List Char} (h : ¬ pattern <:+: text) :
    replaceAll pattern value text = text := by
  induction text with
  | nil => exact replaceAll_nil pattern value
  | cons c text ih =>
    rw [replaceAll_cons fun hfront => h hfront.isInfix, ih fun hwithin => h (List.infix_cons hwithin)]

end Replacement

/-! ## Addresses -/

/-- The placeholder as a text. -/
def placeholder : String := "\x7bbase_url\x7d"

theorem toList_placeholder : placeholder.toList = basePlaceholder := by decide

theorem basePlaceholder_ne_nil : basePlaceholder ≠ [] := List.cons_ne_nil _ _

/-- A brace opens the placeholder, and stands nowhere else in it. -/
theorem basePlaceholder_unbordered : Unbordered basePlaceholder := by
  intro border hbegins hends
  have hall : ∀ border ∈ basePlaceholder.inits, border.isSuffixOf basePlaceholder = true →
      border = [] ∨ border = basePlaceholder := by decide
  exact hall border ((List.mem_inits _ _).mpr hbegins) (List.isSuffixOf_iff_suffix.mpr hends)

/-- A template is filled piece by piece. -/
theorem resolveAddress_append (base a b : String) :
    resolveAddress base (a ++ placeholder ++ b) = resolveAddress base a ++ base ++ resolveAddress base b := by
  simp only [resolveAddress, String.append_assoc, String.toList_append, toList_placeholder,
    replaceAll_append basePlaceholder_ne_nil basePlaceholder_unbordered, String.ofList_append, String.ofList_toList]

/-- What is no template stays as it is. -/
theorem resolveAddress_of_absent (base : String) {t : String} (h : ¬ basePlaceholder <:+: t.toList) :
    resolveAddress base t = t := by
  rw [resolveAddress, replaceAll_of_absent h, String.ofList_toList]

/-- Every template consists of pieces without the placeholder, with the placeholder in between. -/
theorem exists_pieces (t : String) :
    ∃ pieces : List String, pieces ≠ [] ∧ t = placeholder.intercalate pieces ∧
      ∀ piece ∈ pieces, ¬ basePlaceholder <:+: piece.toList := by
  induction hlength : t.length using Nat.strong_induction_on generalizing t with
  | _ n ih =>
    subst hlength
    by_cases hoccurs : basePlaceholder <:+: t.toList
    · obtain ⟨before, after, hsplit⟩ := hoccurs
      have ht : t = String.ofList before ++ placeholder ++ String.ofList after := by
        rw [← String.toList_inj]
        simp [toList_placeholder, hsplit]
      have hlength : t.length = before.length + basePlaceholder.length + after.length := by
        rw [← String.length_toList, ← hsplit, List.length_append, List.length_append]
      have hpositive : 0 < basePlaceholder.length := List.length_pos_of_ne_nil basePlaceholder_ne_nil
      obtain ⟨first, hfirst, hbefore, hfirsts⟩ := ih _ (by omega) (String.ofList before) (String.length_ofList)
      obtain ⟨last, hlast, hafter, hlasts⟩ := ih _ (by omega) (String.ofList after) (String.length_ofList)
      refine ⟨first ++ last, by simp [hfirst], ?_, List.forall_mem_append.mpr ⟨hfirsts, hlasts⟩⟩
      rw [String.intercalate_append_of_ne_nil hfirst hlast, ← hbefore, ← hafter]
      exact ht
    · exact ⟨[t], List.cons_ne_nil _ _, String.intercalate_singleton.symm, by simpa using hoccurs⟩

/-- The base address takes the place of the placeholder between pieces without it. -/
theorem resolveAddress_intercalate (base : String) {pieces : List String}
    (h : ∀ piece ∈ pieces, ¬ basePlaceholder <:+: piece.toList) :
    resolveAddress base (placeholder.intercalate pieces) = base.intercalate pieces := by
  induction pieces with
  | nil => simp [resolveAddress]
  | cons piece rest ih =>
    obtain ⟨hpiece, hrest⟩ := List.forall_mem_cons.mp h
    cases rest with
    | nil => rw [String.intercalate_singleton, String.intercalate_singleton, resolveAddress_of_absent base hpiece]
    | cons next rest =>
      rw [String.intercalate_cons_cons, resolveAddress_append, resolveAddress_of_absent base hpiece, ih hrest,
        String.intercalate_cons_cons]

/-- **Templates are filled in one pass**: a template can be cut at any occurrence of the
placeholder, whatever stands beside it, and the base address takes the place of this
occurrence; a text without the placeholder stays as it is.  So every template consists of
pieces without the placeholder, between which the placeholder stands, and any base address is
put between the same pieces, even if it is a template itself. -/
theorem resolveAddress_onePass :
    (∀ base a b : String,
      resolveAddress base (a ++ placeholder ++ b) = resolveAddress base a ++ base ++ resolveAddress base b) ∧
    (∀ base t : String, ¬ basePlaceholder <:+: t.toList → resolveAddress base t = t) ∧
    ∀ t : String, ∃ pieces : List String,
      t = placeholder.intercalate pieces ∧ (∀ piece ∈ pieces, ¬ basePlaceholder <:+: piece.toList) ∧
        ∀ base : String, resolveAddress base t = base.intercalate pieces := by
  refine ⟨resolveAddress_append, fun base t h => resolveAddress_of_absent base h, fun t => ?_⟩
  obtain ⟨pieces, -, rfl, habsent⟩ := exists_pieces t
  exact ⟨pieces, rfl, habsent, fun base => resolveAddress_intercalate base habsent⟩

/-- A base address that is a template itself is put between parts of the placeholder, and is not
filled in turn. -/
theorem resolveAddress_brokenPlaceholders :
    resolveAddress placeholder ("\x7bbase_" ++ placeholder ++ "url\x7d") = "\x7bbase_" ++ placeholder ++ "url\x7d" := by
  obtain ⟨hcut, habsent, -⟩ := resolveAddress_onePass
  rw [hcut, habsent _ "\x7bbase_" (by decide), habsent _ "url\x7d" (by decide)]

end PageObjects.Text
