import PageObjects.Text.CanonicalName

/-!
# Small letters

Lower-casing leaves only characters that it does not change any more, whatever the
neighbours of a character were, and leaves a text of such characters as it is.  What
separates words also separates the contexts in which a capital sigma is looked at:
the parts of a text on both sides of a separator are lower-cased on their own.

Main definitions:

- `IsSmall`: characters that lower-casing does not change.
- `Cuts`: characters that no context reaches across.

Main results:

- Theorem `small_of_mem_lowercase`: what lower-casing leaves is small.
- Theorem `lowercase_of_small`: small characters stay as they are.
- Theorem `lowercase_append_cons`: the parts beside a separator are lower-cased apart.
-/

namespace PageObjects.Text

/-! ## Tables -/

/-- The code points of a table. -/
def RangeTable.codes (t : RangeTable) : List Nat := t.flatMap fun r => List.range' r.1 (r.2 + 1 - r.1)

/-- What a table holds is one of its code points. -/
theorem RangeTable.mem_codes_of_holds {t : RangeTable} {n : Nat} (h : t.holds n = true) : n ∈ t.codes := by
  induction t with
  | nil => cases h
  | cons r rest ih =>
    obtain ⟨lo, hi⟩ := r
    simp only [holds] at h
    split at h
    · cases h
    · rw [codes, List.flatMap_cons, List.mem_append]
      rcases Bool.or_eq_true_iff.mp h with hn | hn
      · have hn : n ≤ hi := of_decide_eq_true hn
        left
        rw [List.mem_range'_1]
        omega
      · exact .inr (ih hn)

/-- The code points that a run shifts. -/
def CaseRun.codes (r : CaseRun) : List Nat :=
  (List.range' r.first (r.last + 1 - r.first)).filter fun n => (n - r.first) % r.step == 0

/-- The code point that a run shifts another to. -/
def CaseRun.shifted (r : CaseRun) (n : Nat) : Nat := ((n : Int) + r.shift).toNat

/-- A code point is left as it is, or shifted by a run. -/
theorem lowerCode_cases (runs : List CaseRun) (n : Nat) :
    lowerCode runs n = n ∨ ∃ r ∈ runs, n ∈ r.codes ∧ lowerCode runs n = r.shifted n := by
  induction runs with
  | nil => exact .inl rfl
  | cons run rest ih =>
    simp only [lowerCode]
    split
    · exact .inl rfl
    · split
      · rename_i hfirst hlast
        obtain ⟨hlast, hstep⟩ := Bool.and_eq_true_iff.mp hlast
        have hlast : n ≤ run.last := of_decide_eq_true hlast
        refine .inr ⟨run, List.mem_cons_self, ?_, rfl⟩
        rw [CaseRun.codes, List.mem_filter, List.mem_range'_1]
        exact ⟨by omega, hstep⟩
      · rcases ih with ih | ⟨r, hr, hn, ih⟩
        · exact .inl ih
        · exact .inr ⟨r, List.mem_cons_of_mem _ hr, hn, ih⟩

/-- Whether no code point that a run shifts becomes one of another run: they come to lie
before it, after it, or between its code points. -/
def CaseRun.misses (r r' : CaseRun) : Bool :=
  Nat.blt (r.shifted r.last) r'.first || Nat.blt r'.last (r.shifted r.first) ||
    ((Nat.beq r.step 2 || Nat.beq r.first r.last) && Nat.beq r'.step 2 &&
      Nat.beq ((r.shifted r.first + r'.first) % 2) 1)

/-- Whether a run shifts to code points of characters, and keeps their distances. -/
def CaseRun.isSound (r : CaseRun) : Bool :=
  Nat.blt 0 (r.shifted r.first) &&
    (Nat.blt (r.shifted r.last) 0xd800 ||
      (Nat.blt 0xdfff (r.shifted r.first) && Nat.blt (r.shifted r.last) 0x110000))

/-- The capital I with a dot, as a run of its own. -/
def dottedRun : CaseRun := ⟨'İ'.toNat, 'İ'.toNat, 1, 0⟩

/-- No run shifts to where another one starts from. -/
theorem lowerRuns_miss : (lowerRuns.all fun r => r.isSound && (dottedRun :: lowerRuns).all r.misses) = true := by
  decide +kernel

namespace CaseRun

variable {r r' : CaseRun} {n : Nat}

/-- The distance of a code point from the start of its run stays. -/
theorem shifted_eq (hsound : r.isSound = true) (hn : n ∈ r.codes) :
    r.first ≤ n ∧ n ≤ r.last ∧ (n - r.first) % r.step = 0 ∧
      r.shifted n = r.shifted r.first + (n - r.first) ∧ r.shifted r.last = r.shifted n + (r.last - n) := by
  obtain ⟨hrange, hstep⟩ := List.mem_filter.mp hn
  rw [List.mem_range'_1] at hrange
  have hpositive : 0 < r.shifted r.first := by
    simp only [isSound, Bool.and_eq_true, Nat.blt_eq] at hsound
    exact hsound.1
  simp only [shifted] at hpositive ⊢
  refine ⟨by omega, by omega, by simpa using hstep, by omega, by omega⟩

/-- Where a run misses another, it shifts to none of its code points. -/
theorem shifted_not_mem (hsound : r.isSound = true) (hmisses : r.misses r' = true) (hn : n ∈ r.codes) :
    r.shifted n ∉ r'.codes := by
  intro hmem
  obtain ⟨hfirst, hlast, hstep, hstart, hend⟩ := shifted_eq hsound hn
  obtain ⟨hrange, hstep'⟩ := List.mem_filter.mp hmem
  rw [List.mem_range'_1] at hrange
  have hstep' : (r.shifted n - r'.first) % r'.step = 0 := by simpa using hstep'
  simp only [misses, Bool.or_eq_true, Bool.and_eq_true, Nat.blt_eq, Nat.beq_eq] at hmisses
  rcases hmisses with (h | h) | ⟨⟨hsteps, htwo⟩, hparity⟩
  · omega
  · omega
  · rw [htwo] at hstep'
    rcases hsteps with htwo' | hsingle
    · rw [htwo'] at hstep
      omega
    · omega

/-- A sound run shifts to code points of characters. -/
theorem shifted_valid (hsound : r.isSound = true) (hn : n ∈ r.codes) : (r.shifted n).isValidChar := by
  obtain ⟨hfirst, hlast, -, hstart, hend⟩ := shifted_eq hsound hn
  simp only [isSound, Bool.or_eq_true, Bool.and_eq_true, Nat.blt_eq] at hsound
  rw [Nat.isValidChar]
  omega

end CaseRun

/-- Where a run of the table shifts to, the table leaves all code points as they are. -/
theorem shifted_settled {r : CaseRun} (hr : r ∈ lowerRuns) {n : Nat} (hn : n ∈ r.codes) :
    (r.shifted n).isValidChar ∧ lowerCode lowerRuns (r.shifted n) = r.shifted n ∧ r.shifted n ≠ 'İ'.toNat := by
  obtain ⟨hsound, hmisses⟩ := Bool.and_eq_true_iff.mp (List.all_eq_true.mp lowerRuns_miss r hr)
  have hmisses : ∀ r' ∈ dottedRun :: lowerRuns, r.misses r' = true := List.all_eq_true.mp hmisses
  refine ⟨CaseRun.shifted_valid hsound hn, ?_, ?_⟩
  · rcases lowerCode_cases lowerRuns (r.shifted n) with hsame | ⟨r', hr', hn', -⟩
    · exact hsame
    · exact absurd hn' (CaseRun.shifted_not_mem hsound (hmisses r' (List.mem_cons_of_mem _ hr')) hn)
  · intro hdotted
    apply CaseRun.shifted_not_mem hsound (hmisses dottedRun List.mem_cons_self) hn
    rw [hdotted]
    decide

/-! ## Small characters -/

/-- Characters that lower-casing does not change. -/
def IsSmall (c : Char) : Prop := lowercase [c] = [c]

instance : DecidablePred IsSmall := fun c => inferInstanceAs (Decidable (lowercase [c] = [c]))

/-- Characters are small if they have no special form and are their own simple form. -/
theorem isSmall_iff {c : Char} : IsSmall c ↔ c ≠ 'Σ' ∧ c ≠ 'İ' ∧ lowerChar c = c := by
  by_cases hsigma : c = 'Σ'
  · subst hsigma
    exact ⟨fun h => absurd h (by decide), fun h => absurd rfl h.1⟩
  · by_cases hdotted : c = 'İ'
    · subst hdotted
      exact ⟨fun h => absurd h (by decide), fun h => absurd rfl h.2.1⟩
    · simp [IsSmall, lowercase, lowercaseAfter, hsigma, hdotted]

/-- What a character without a special form becomes is small. -/
theorem small_lowerChar {c : Char} (hsigma : c ≠ 'Σ') (hdotted : c ≠ 'İ') : IsSmall (lowerChar c) := by
  rcases lowerCode_cases lowerRuns c.toNat with hsame | ⟨r, hr, hn, hshifted⟩
  · have hself : lowerChar c = c := by rw [lowerChar, hsame, Char.ofNat_toNat]
    rw [hself]
    exact isSmall_iff.mpr ⟨hsigma, hdotted, hself⟩
  · obtain ⟨hvalid, hstays, hdotted'⟩ := shifted_settled hr hn
    rw [← hshifted] at hvalid hstays hdotted'
    have hcode : (lowerChar c).toNat = lowerCode lowerRuns c.toNat := by
      rw [lowerChar, Char.ofNat, dif_pos hvalid]
      rfl
    have hself : lowerChar (lowerChar c) = lowerChar c := by
      rw [lowerChar, hcode, hstays]
      rfl
    refine isSmall_iff.mpr ⟨?_, ?_, hself⟩
    · -- the capital sigma is no lower-case form of its own
      intro h
      rw [h] at hself
      exact absurd hself (by decide)
    · intro h
      exact hdotted' (by rw [← hcode, h])

/-- What lower-casing leaves is small, in every context. -/
theorem small_of_mem_lowercaseAfter (cased : Bool) {cs : List Char} {c : Char}
    (h : c ∈ lowercaseAfter cased cs) : IsSmall c := by
  induction cs generalizing cased with
  | nil => cases h
  | cons d rest ih =>
    simp only [lowercaseAfter] at h
    split at h
    · rcases List.mem_cons.mp h with rfl | h
      · split <;> decide
      · exact ih _ h
    · rename_i hsigma
      split at h
      · rcases List.mem_cons.mp h with rfl | h
        · decide
        · rcases List.mem_cons.mp h with rfl | h
          · decide
          · exact ih _ h
      · rename_i hdotted
        rcases List.mem_cons.mp h with rfl | h
        · exact small_lowerChar (by simpa using hsigma) (by simpa using hdotted)
        · exact ih _ h

/-- What lower-casing leaves is small. -/
theorem small_of_mem_lowercase {cs : List Char} {c : Char} (h : c ∈ lowercase cs) : IsSmall c :=
  small_of_mem_lowercaseAfter false h

/-- Small characters stay as they are, in every context. -/
theorem lowercaseAfter_of_small (cased : Bool) {cs : List Char} (h : ∀ c ∈ cs, IsSmall c) :
    lowercaseAfter cased cs = cs := by
  induction cs generalizing cased with
  | nil => rfl
  | cons c rest ih =>
    obtain ⟨hsigma, hdotted, hself⟩ := isSmall_iff.mp (h c List.mem_cons_self)
    simp only [lowercaseAfter, beq_iff_eq, if_neg hsigma, if_neg hdotted, hself]
    rw [ih _ fun d hd => h d (List.mem_cons_of_mem _ hd)]

/-- Small characters stay as they are. -/
theorem lowercase_of_small {cs : List Char} (h : ∀ c ∈ cs, IsSmall c) : lowercase cs = cs :=
  lowercaseAfter_of_small false h

/-! ## Parts of a text -/

/-- Characters that no context reaches across: they are not skipped, have no case, and
stay as they are. -/
structure Cuts (c : Char) : Prop where
  kept : caseIgnorableRanges.holds c.toNat = false
  caseless : casedRanges.holds c.toNat = false
  small : IsSmall c

/-- Whether a code point is that of a character that cuts. -/
def isCuttingCode (n : Nat) : Bool :=
  !caseIgnorableRanges.holds n && !casedRanges.holds n && lowerCode lowerRuns n == n &&
    n != 'Σ'.toNat && n != 'İ'.toNat

/-- No blank is part of a context. -/
theorem blank_cutting : ∀ n ∈ blankRanges.codes, isCuttingCode n = true := by
  decide +kernel

/-- A character with a code point that cuts does. -/
theorem cuts_of_code {c : Char} (h : isCuttingCode c.toNat = true) : Cuts c := by
  simp only [isCuttingCode, Bool.and_eq_true, Bool.not_eq_true', bne_iff_ne, beq_iff_eq] at h
  obtain ⟨⟨⟨⟨hkept, hcaseless⟩, hself⟩, hsigma⟩, hdotted⟩ := h
  refine ⟨hkept, hcaseless, isSmall_iff.mpr ⟨?_, ?_, ?_⟩⟩
  · rintro rfl
    exact hsigma rfl
  · rintro rfl
    exact hdotted rfl
  · rw [lowerChar, hself, Char.ofNat_toNat]

/-- Separators cut. -/
theorem cuts_of_isSeparator {c : Char} (h : isSeparator c = true) : Cuts c := by
  apply cuts_of_code
  simp only [isSeparator, Bool.or_eq_true, beq_iff_eq] at h
  rcases h with (rfl | rfl) | h
  · decide +kernel
  · decide +kernel
  · exact blank_cutting c.toNat (RangeTable.mem_codes_of_holds h)

/-- What comes after a character that cuts does not matter to what comes before it. -/
theorem startsCased_append_cons {c : Char} (hc : Cuts c) (before after : List Char) :
    startsCased (before ++ c :: after) = startsCased before := by
  induction before with
  | nil => simp [startsCased, hc.kept, hc.caseless]
  | cons d rest ih => simp only [List.cons_append, startsCased, ih]

/-- The parts beside a character that cuts are lower-cased apart, in every context. -/
theorem lowercaseAfter_append_cons {c : Char} (hc : Cuts c) (cased : Bool) (before after : List Char) :
    lowercaseAfter cased (before ++ c :: after) = lowercaseAfter cased before ++ c :: lowercase after := by
  induction before generalizing cased with
  | nil =>
    obtain ⟨hsigma, hdotted, hself⟩ := isSmall_iff.mp hc.small
    simp [lowercaseAfter, lowercase, hc.kept, hc.caseless, hsigma, hdotted, hself]
  | cons d rest ih =>
    simp only [List.cons_append, lowercaseAfter, startsCased_append_cons hc, ih]
    split
    · rfl
    · split <;> rfl

/-- The parts beside a separator are lower-cased apart. -/
theorem lowercase_append_cons {c : Char} (hc : isSeparator c = true) (before after : List Char) :
    lowercase (before ++ c :: after) = lowercase before ++ c :: lowercase after :=
  lowercaseAfter_append_cons (cuts_of_isSeparator hc) false before after

/-- A capital sigma is final before a separator, whatever follows it. -/
example : lowercase "ΑΣ ΑΣΑ".toList = "ας ασα".toList := by decide +kernel

end PageObjects.Text
