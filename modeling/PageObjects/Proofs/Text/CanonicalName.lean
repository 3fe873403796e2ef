import Mathlib.Data.List.Chain
import PageObjects.Definition.Declaration
import PageObjects.Proofs.Text.Lowercase

/-!
# Names made from labels

The canonical name of a label is what is left of the words of the label, in lower case,
with one underscore between neighbours.  The names that come about like that are those
that are their own canonical names, and they can be told by their characters.  Where a
separator joins two labels, an underscore joins their names.

Main definitions:

- `wordsOf`: the words of a text.
- `spelling`: words with one underscore between neighbours.
- `IsCanonical`: names of small word characters in which underscores stand only between
  others, one at a time.
- `joinNames`: two names, of which either may be empty, with an underscore in between.

Main results:

- Theorem `canonicalChars_eq_spelling`: a name spells the words of its label.
- Theorem `isCanonical_spelling`, `canonicalChars_of_isCanonical`: what words spell is
  canonical, and what is canonical is its own name.
- Theorem `canonicalName_image`: which names there are.
- Theorem `canonicalName_append`: the name of two labels that a separator joins.
-/

namespace PageObjects.Text

/-! ## Words -/

/-- Whether a character is kept; all others are dropped. -/
def isKept (c : Char) : Bool := isSeparator c || isWordChar c

/-- The words of a text: what is kept of it between its separators, where something is. -/
def wordsOf (cs : List Char) : List (List Char) :=
  ((cs.filter isKept).splitOnP isSeparator).filter fun w => !w.isEmpty

/-- Words, each after an underscore. -/
def spellingAfter (ws : List (List Char)) : List Char := ws.flatMap ('_' :: ·)

/-- Words with one underscore between neighbours. -/
def spelling : List (List Char) → List Char
  | [] => []
  | w :: ws => w ++ spellingAfter ws

@[simp] theorem spelling_nil : spelling [] = [] := rfl

@[simp] theorem spelling_cons (w : List Char) (ws : List (List Char)) :
    spelling (w :: ws) = w ++ spellingAfter ws := rfl

@[simp] theorem spellingAfter_nil : spellingAfter [] = [] := rfl

@[simp] theorem spellingAfter_cons (w : List Char) (ws : List (List Char)) :
    spellingAfter (w :: ws) = '_' :: (w ++ spellingAfter ws) := rfl

/-- Words after others follow them with an underscore in between. -/
theorem spelling_append {ws vs : List (List Char)} (hws : ws ≠ []) :
    spelling (ws ++ vs) = spelling ws ++ spellingAfter vs := by
  cases ws with
  | nil => exact absurd rfl hws
  | cons w ws => simp [spellingAfter, List.append_assoc]

/-- What joining words does with the pieces of a text, one state at a time: the first piece
goes on with a word, or waits for its first character, or is the first word. -/
theorem joinWords_pieces (cs : List Char) :
    ∃ piece rest, (cs.filter isKept).splitOnP isSeparator = piece :: rest ∧
      joinWords cs true false = piece ++ spellingAfter (rest.filter fun w => !w.isEmpty) ∧
      joinWords cs true true = spellingAfter (wordsOf cs) ∧
      ∀ pending, joinWords cs false pending = spelling (wordsOf cs) := by
  induction cs with
  | nil => exact ⟨[], [], rfl, rfl, rfl, fun _ => rfl⟩
  | cons c cs ih =>
    obtain ⟨piece, rest, hpieces, hgoing, hwaiting, hfirst⟩ := ih
    by_cases hseparator : isSeparator c = true
    · have hsplit : ((c :: cs).filter isKept).splitOnP isSeparator = [] :: piece :: rest := by
        rw [List.filter_cons_of_pos (by simp [isKept, hseparator]), List.splitOnP_cons_eq_if_modifyHead,
          if_pos hseparator, hpieces]
      have hwords : wordsOf (c :: cs) = wordsOf cs := by
        simp only [wordsOf, hsplit, hpieces]
        rfl
      have hrest : wordsOf cs = (piece :: rest).filter fun w => !w.isEmpty := by rw [wordsOf, hpieces]
      refine ⟨[], piece :: rest, hsplit, ?_, ?_, fun pending => ?_⟩ <;>
        simp only [joinWords, if_pos hseparator, hwords]
      · rw [hwaiting, hrest]
        rfl
      · exact hwaiting
      · exact hfirst true
    · by_cases hword : isWordChar c = true
      · have hsplit : ((c :: cs).filter isKept).splitOnP isSeparator = (c :: piece) :: rest := by
          rw [List.filter_cons_of_pos (by simp [isKept, hword]), List.splitOnP_cons_eq_if_modifyHead,
            if_neg hseparator, hpieces]
          rfl
        have hwords : wordsOf (c :: cs) = (c :: piece) :: rest.filter fun w => !w.isEmpty := by
          rw [wordsOf, hsplit]
          rfl
        refine ⟨c :: piece, rest, hsplit, ?_, ?_, fun pending => ?_⟩ <;>
          simp [joinWords, hseparator, hword, hgoing, hwords]
      · have hfilter : (c :: cs).filter isKept = cs.filter isKept :=
          List.filter_cons_of_neg (by simp [isKept, hseparator, hword])
        refine ⟨piece, rest, by rw [hfilter, hpieces], ?_, ?_, fun pending => ?_⟩ <;>
          simp [joinWords, hseparator, hword, hgoing, hwaiting, hfirst, wordsOf, hfilter]

/-- A name spells the words of its label. -/
theorem canonicalChars_eq_spelling (cs : List Char) :
    canonicalChars cs = spelling (wordsOf (lowercase cs)) := by
  obtain ⟨-, -, -, -, -, hfirst⟩ := joinWords_pieces (lowercase cs)
  exact hfirst false

/-- The words on both sides of a separator are the words of the whole. -/
theorem wordsOf_append_cons {c : Char} (hc : isSeparator c = true) (before after : List Char) :
    wordsOf (before ++ c :: after) = wordsOf before ++ wordsOf after := by
  rw [wordsOf, List.filter_append, List.filter_cons_of_pos (by simp [isKept, hc]),
    List.splitOnP_append_cons _ _ hc, List.filter_append]
  rfl

/-! ## Canonical names -/

/-- Words as names are made of them: small word characters, and no separators. -/
structure IsWord (w : List Char) : Prop where
  nonempty : w ≠ []
  word : ∀ c ∈ w, isWordChar c = true
  whole : ∀ c ∈ w, isSeparator c = false
  small : ∀ c ∈ w, IsSmall c

/-- Names of small word characters, in which underscores stand only between others, one at
a time. -/
structure IsCanonical (cs : List Char) : Prop where
  word : ∀ c ∈ cs, isWordChar c = true
  small : ∀ c ∈ cs, IsSmall c
  head : cs.head? ≠ some '_'
  last : cs.getLast? ≠ some '_'
  apart : cs.IsChain fun c d => ¬ (c = '_' ∧ d = '_')

/-- What pieces consist of is what is split, less where it is split. -/
theorem mem_piece {p : Char → Bool} {cs w : List Char} (hw : w ∈ cs.splitOnP p) :
    ∀ c ∈ w, c ∈ cs ∧ p c = false := by
  induction cs generalizing w with
  | nil =>
    obtain rfl : w = [] := by simpa using hw
    exact fun c hc => nomatch hc
  | cons d cs ih =>
    intro c hc
    rw [List.splitOnP_cons_eq_if_modifyHead] at hw
    obtain ⟨piece, rest, hpieces⟩ := List.exists_cons_of_ne_nil (List.splitOnP_ne_nil p cs)
    have hlater : ∀ {w}, w ∈ piece :: rest → c ∈ w → c ∈ d :: cs ∧ p c = false := by
      intro w hw hc
      obtain ⟨hmem, hp⟩ := ih (hpieces ▸ hw) c hc
      exact ⟨List.mem_cons_of_mem _ hmem, hp⟩
    split at hw
    · rcases List.mem_cons.mp hw with rfl | hw
      · cases hc
      · exact hlater (hpieces ▸ hw) hc
    · rename_i hd
      rw [hpieces, List.modifyHead_cons] at hw
      rcases List.mem_cons.mp hw with rfl | hw
      · rcases List.mem_cons.mp hc with rfl | hc
        · exact ⟨List.mem_cons_self, by simpa using hd⟩
        · exact hlater List.mem_cons_self hc
      · exact hlater (List.mem_cons_of_mem _ hw) hc

/-- The words of a text in lower case are words as names are made of them. -/
theorem isWord_of_mem_wordsOf {cs w : List Char} (hw : w ∈ wordsOf (lowercase cs)) : IsWord w := by
  obtain ⟨hpiece, hnonempty⟩ := List.mem_filter.mp hw
  have hmem : ∀ c ∈ w, c ∈ (lowercase cs).filter isKept ∧ isSeparator c = false := mem_piece hpiece
  refine ⟨by simpa using hnonempty, ?_, fun c hc => (hmem c hc).2, ?_⟩
  · intro c hc
    obtain ⟨hkept, hwhole⟩ := hmem c hc
    have hkept : isKept c = true := (List.mem_filter.mp hkept).2
    simpa [isKept, hwhole] using hkept
  · intro c hc
    exact small_of_mem_lowercase (List.mem_filter.mp (hmem c hc).1).1

/-- What words spell is empty only if there are none. -/
theorem spelling_eq_nil_iff {ws : List (List Char)} (hws : ∀ w ∈ ws, IsWord w) : spelling ws = [] ↔ ws = [] := by
  cases ws with
  | nil => simp
  | cons w ws => simp [(hws w List.mem_cons_self).nonempty]

/-- The underscore separates words. -/
theorem IsWord.ne_underscore {w : List Char} (h : IsWord w) {c : Char} (hc : c ∈ w) : c ≠ '_' := by
  rintro rfl
  exact absurd (h.whole '_' hc) (by decide)

/-- What words spell begins like the first of them. -/
theorem head?_spelling {ws : List (List Char)} (hws : ∀ w ∈ ws, IsWord w) : (spelling ws).head? ≠ some '_' := by
  cases ws with
  | nil => simp
  | cons w ws =>
    have hw := hws w List.mem_cons_self
    obtain ⟨c, w, rfl⟩ := List.exists_cons_of_ne_nil hw.nonempty
    simpa using hw.ne_underscore List.mem_cons_self

/-- A word is canonical. -/
theorem IsWord.isCanonical {w : List Char} (h : IsWord w) : IsCanonical w where
  word := h.word
  small := h.small
  head hhead := h.ne_underscore (List.mem_of_head? hhead) rfl
  last hlast := h.ne_underscore (List.mem_of_getLast? hlast) rfl
  apart := by
    apply List.Pairwise.isChain
    rw [List.pairwise_iff_forall_sublist]
    intro c d hcd hboth
    exact h.ne_underscore (hcd.mem List.mem_cons_self) hboth.1

/-- What words spell is canonical. -/
theorem isCanonical_spelling {ws : List (List Char)} (hws : ∀ w ∈ ws, IsWord w) : IsCanonical (spelling ws) := by
  induction ws with
  | nil => exact ⟨by simp, by simp, by simp, by simp, .nil⟩
  | cons w ws ih =>
    have hw := hws w List.mem_cons_self
    have hrest : ∀ v ∈ ws, IsWord v := fun v hv => hws v (List.mem_cons_of_mem _ hv)
    cases ws with
    | nil => simpa using hw.isCanonical
    | cons v ws =>
      have ih := ih hrest
      have hsplit : spelling (w :: v :: ws) = w ++ '_' :: spelling (v :: ws) := rfl
      have hnonempty : spelling (v :: ws) ≠ [] := fun h => nomatch (spelling_eq_nil_iff hrest).mp h
      refine ⟨?_, ?_, head?_spelling hws, ?_, ?_⟩
      · intro c hc
        rw [hsplit, List.mem_append, List.mem_cons] at hc
        rcases hc with hc | rfl | hc
        · exact hw.word c hc
        · rfl
        · exact ih.word c hc
      · intro c hc
        rw [hsplit, List.mem_append, List.mem_cons] at hc
        rcases hc with hc | rfl | hc
        · exact hw.small c hc
        · decide
        · exact ih.small c hc
      · have hlast : (spelling (w :: v :: ws)).getLast? = (spelling (v :: ws)).getLast? := by
          obtain ⟨c, cs, hcs⟩ := List.exists_cons_of_ne_nil hnonempty
          rw [hsplit, hcs, List.getLast?_append_of_ne_nil _ (List.cons_ne_nil _ _), List.getLast?_cons_cons]
        rw [hlast]
        exact ih.last
      · rw [hsplit, List.isChain_append]
        refine ⟨hw.isCanonical.apart, ?_, ?_⟩
        · rw [List.isChain_cons]
          exact ⟨fun c hc hboth => ih.head (hboth.2 ▸ hc), ih.apart⟩
        · intro c hc d hd hboth
          exact hw.isCanonical.last (hboth.1 ▸ hc)

/-- Among word characters the underscore is the only separator. -/
theorem isSeparator_iff_of_isWordChar {c : Char} (h : isWordChar c = true) : isSeparator c = true ↔ c = '_' := by
  have hblank : ∀ n ∈ blankRanges.codes, wordRanges.holds n = false := by decide +kernel
  constructor
  · intro hseparator
    simp only [isSeparator, Bool.or_eq_true, beq_iff_eq] at hseparator
    rcases hseparator with (hc | rfl) | hc
    · exact hc
    · exact absurd h (by decide +kernel)
    · have hnone := hblank c.toNat (RangeTable.mem_codes_of_holds hc)
      simpa [isWordChar, hnone] using h
  · rintro rfl
    decide

/-- Joining words leaves alone what follows canonically on a character. -/
theorem joinWords_of_apart : (cs : List Char) → (∀ c ∈ cs, isWordChar c = true) → cs.getLast? ≠ some '_' →
    (cs.IsChain fun c d => ¬ (c = '_' ∧ d = '_')) → joinWords cs true false = cs
  | [], _, _, _ => rfl
  | [c], hword, hlast, _ => by
    have hseparator : isSeparator c = false := by
      rw [Bool.eq_false_iff, ne_eq, isSeparator_iff_of_isWordChar (hword c List.mem_cons_self)]
      simpa using hlast
    simp [joinWords, hseparator, hword c List.mem_cons_self]
  | c :: d :: rest, hword, hlast, hapart => by
    obtain ⟨hboth, hapart⟩ := List.isChain_cons_cons.mp hapart
    have hword' : ∀ e ∈ d :: rest, isWordChar e = true := fun e he => hword e (List.mem_cons_of_mem _ he)
    have hlast : (d :: rest).getLast? ≠ some '_' := by simpa [List.getLast?_cons_cons] using hlast
    by_cases hc : isSeparator c = true
    · -- the underscore is written before the next character, which is none
      have hunderscore := (isSeparator_iff_of_isWordChar (hword c List.mem_cons_self)).mp hc
      have hd : isSeparator d = false := by
        rw [Bool.eq_false_iff, ne_eq, isSeparator_iff_of_isWordChar (hword' d List.mem_cons_self)]
        exact fun hd => hboth ⟨hunderscore, hd⟩
      have hrest := joinWords_of_apart rest (fun e he => hword' e (List.mem_cons_of_mem _ he))
        (by
          intro h
          cases rest with
          | nil => cases h
          | cons e rest => exact hlast (by rwa [List.getLast?_cons_cons]))
        hapart.tail
      rw [joinWords, if_pos hc, joinWords, if_neg (by simp [hd]), if_pos (hword' d List.mem_cons_self), hrest,
        hunderscore]
      rfl
    · have hrest := joinWords_of_apart (d :: rest) hword' hlast hapart
      rw [joinWords, if_neg hc, if_pos (hword c List.mem_cons_self), hrest]
      rfl

/-- What is canonical is its own name. -/
theorem canonicalChars_of_isCanonical {cs : List Char} (h : IsCanonical cs) : canonicalChars cs = cs := by
  rw [canonicalChars, lowercase_of_small h.small]
  cases cs with
  | nil => rfl
  | cons c cs =>
    have hc : ¬ isSeparator c = true := by
      rw [isSeparator_iff_of_isWordChar (h.word c List.mem_cons_self)]
      simpa using h.head
    have hlast : cs.getLast? ≠ some '_' := by
      intro hlast
      cases cs with
      | nil => cases hlast
      | cons d cs => exact h.last (by rwa [List.getLast?_cons_cons])
    rw [joinWords, if_neg hc, if_pos (h.word c List.mem_cons_self),
      joinWords_of_apart cs (fun d hd => h.word d (List.mem_cons_of_mem _ hd)) hlast h.apart.tail]
    rfl

/-- Names are canonical. -/
theorem isCanonical_canonicalChars (cs : List Char) : IsCanonical (canonicalChars cs) := by
  rw [canonicalChars_eq_spelling]
  exact isCanonical_spelling fun w hw => isWord_of_mem_wordsOf hw

/-- The names that are made from labels are the canonical ones, and these are the texts that
are their own names; so the name of a name is the name itself. -/
theorem canonicalName_image (t : String) :
    IsCanonical (canonicalName t).toList ∧
      (IsCanonical t.toList ↔ canonicalName t = t) ∧
      (IsCanonical t.toList ↔ ∃ label, canonicalName label = t) ∧
      canonicalName (canonicalName t) = canonicalName t := by
  have hcanonical : ∀ s, IsCanonical (canonicalName s).toList := by
    intro s
    rw [canonicalName, String.toList_ofList]
    exact isCanonical_canonicalChars s.toList
  have hfixed : ∀ s : String, IsCanonical s.toList → canonicalName s = s := by
    intro s hs
    rw [canonicalName, canonicalChars_of_isCanonical hs, String.ofList_toList]
  refine ⟨hcanonical t, ⟨hfixed t, fun h => h ▸ hcanonical t⟩, ⟨fun h => ⟨t, hfixed t h⟩, ?_⟩,
    hfixed _ (hcanonical t)⟩
  rintro ⟨label, rfl⟩
  exact hcanonical label

/-- Lower-casing the capital I with a dot leaves a mark that is dropped. -/
example : canonicalName "İstanbul -- ΟΔΟΣ!" = "istanbul_οδος" := by decide +kernel

/-! ## Joined labels -/

/-- Two names with an underscore in between, unless one of them is empty. -/
def joinNames (x y : String) : String :=
  if x = "" then y else if y = "" then x else x ++ "_" ++ y

/-- Two spellings with an underscore in between, unless one of them is empty. -/
theorem spelling_wordsOf_append (a b : List Char) :
    spelling (wordsOf (lowercase a) ++ wordsOf (lowercase b)) =
      if canonicalChars a = [] then canonicalChars b
      else if canonicalChars b = [] then canonicalChars a
      else canonicalChars a ++ '_' :: canonicalChars b := by
  have hwords : ∀ cs, ∀ w ∈ wordsOf (lowercase cs), IsWord w := fun cs w hw => isWord_of_mem_wordsOf hw
  simp only [canonicalChars_eq_spelling, spelling_eq_nil_iff (hwords _)]
  by_cases ha : wordsOf (lowercase a) = []
  · simp [ha]
  · rw [if_neg ha, spelling_append ha]
    cases wordsOf (lowercase b) with
    | nil => simp
    | cons v vs => simp

/-- The name of two labels that a separator joins is made of both names. -/
theorem canonicalName_joined (a b : String) {c : Char} (hc : isSeparator c = true) :
    canonicalName (a ++ String.singleton c ++ b) = joinNames (canonicalName a) (canonicalName b) := by
  have hchars : canonicalChars (a ++ String.singleton c ++ b).toList =
      spelling (wordsOf (lowercase a.toList) ++ wordsOf (lowercase b.toList)) := by
    rw [canonicalChars_eq_spelling, String.toList_append, String.toList_append, String.toList_singleton,
      List.append_assoc, List.singleton_append, lowercase_append_cons hc, wordsOf_append_cons hc]
  have hempty : ∀ cs : List Char, String.ofList cs = "" ↔ cs = [] := by
    intro cs
    rw [← String.toList_inj, String.toList_ofList, String.toList_empty]
  rw [canonicalName, hchars, spelling_wordsOf_append]
  simp only [joinNames, canonicalName, hempty]
  split
  · rfl
  · split
    · rfl
    · simp [← String.toList_inj]

/-- The name of two labels that a blank, an underscore or a dash joins is made of both
names.  So the names that a link or a button declares begin alike. -/
theorem canonicalName_append :
    (∀ (a b : String) (c : Char), isBlank c = true ∨ c = '_' ∨ c = '-' →
      canonicalName (a ++ String.singleton c ++ b) = joinNames (canonicalName a) (canonicalName b)) ∧
    ∀ label : String, canonicalName label ≠ "" →
      (canonicalName (label ++ " link") = canonicalName label ++ "_link" ∧
        canonicalName (label ++ " button") = canonicalName label ++ "_button") ∧
      ((Definition.Pair.ofLink label).action = canonicalName label ∧
        (Definition.Pair.ofLink label).element = canonicalName label ++ "_link") ∧
      ∀ shown, (Definition.Pair.ofButton label shown).action = canonicalName label ∧
        (Definition.Pair.ofButton label shown).element = canonicalName label ++ "_button" := by
  have hlink : canonicalName "link" = "link" := by decide +kernel
  have hbutton : canonicalName "button" = "button" := by decide +kernel
  constructor
  · intro a b c hc
    apply canonicalName_joined
    rcases hc with hc | rfl | rfl
    · simp [isSeparator, hc]
    · decide
    · decide
  · intro label hlabel
    have hjoined : ∀ suffix : String, canonicalName suffix = suffix → suffix ≠ "" →
        canonicalName (label ++ String.singleton ' ' ++ suffix) = canonicalName label ++ "_" ++ suffix := by
      intro suffix hsuffix hne
      rw [canonicalName_joined label suffix (by decide), hsuffix, joinNames, if_neg hlabel, if_neg hne]
    have hlinked : canonicalName (label ++ " link") = canonicalName label ++ "_link" := by
      have h := hjoined "link" hlink (by decide)
      rwa [String.append_assoc, String.append_assoc] at h
    have hbuttoned : canonicalName (label ++ " button") = canonicalName label ++ "_button" := by
      have h := hjoined "button" hbutton (by decide)
      rwa [String.append_assoc, String.append_assoc] at h
    exact ⟨⟨hlinked, hbuttoned⟩, ⟨rfl, hlinked⟩, fun shown => ⟨rfl, hbuttoned⟩⟩

/-- A label that ends in a capital sigma and another one, with a blank between them, and
what a link of the first is called. -/
theorem canonicalName_sigma :
    (isBlank ' ' = true ∨ ' ' = '_' ∨ ' ' = '-') ∧
      canonicalName ("ΟΔΟΣ" ++ String.singleton ' ' ++ "Log in!") = joinNames "οδος" "log_in" ∧
      canonicalName "ΟΔΟΣ" ≠ "" ∧ (Definition.Pair.ofLink "ΟΔΟΣ").element = "οδος_link" := by
  have hname : canonicalName "ΟΔΟΣ" = "οδος" := by decide +kernel
  have hother : canonicalName "Log in!" = "log_in" := by decide +kernel
  have hblank : isBlank ' ' = true ∨ ' ' = '_' ∨ ' ' = '-' := .inl (by decide +kernel)
  have hne : canonicalName "ΟΔΟΣ" ≠ "" := by
    rw [hname]
    decide
  refine ⟨hblank, ?_, hne, ?_⟩
  · rw [canonicalName_append.1 "ΟΔΟΣ" "Log in!" ' ' hblank, hname, hother]
  · rw [(canonicalName_append.2 "ΟΔΟΣ" hne).2.1.2, hname]
    decide

end PageObjects.Text
