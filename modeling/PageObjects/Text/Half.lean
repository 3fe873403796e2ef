/-!
# Unpaired halves

A text that was written with escapes may hold half of a surrogate pair, which
is no character.  Such a half is kept as a character of the last plane for
private use, so that texts stay texts; only where a code point is shown,
compared or written does it count as the half it stands for.

Main definitions:

- `ofCode`: the character of a code point, which may be that of a half.
- `code`: the code point that a character stands for.
- `isHalf`: whether a character stands for a half.
- `codes`, `precedes`: the code points of a text, by which texts are ordered.

Main results:

- Theorem `precedes_trans`, `precedes_total` and `precedes_antisymm`: texts are ordered.
-/

namespace PageObjects.Text.Half

/-- The distance of a half from the character that stands for it. -/
def distance : Nat := 0x10a000 - 0xd800

/-- Whether a code point is that of a half. -/
def isHalfCode (n : Nat) : Bool := 0xd800 ≤ n && n ≤ 0xdfff

/-- The character of a code point, which may be that of a half. -/
def ofCode (n : Nat) : Char :=
  if isHalfCode n then Char.ofNat (n + distance) else Char.ofNat n

/-- Whether a character stands for a half. -/
def isHalf (c : Char) : Bool := 0x10a000 ≤ c.toNat && c.toNat ≤ 0x10a7ff

/-- The code point that a character stands for. -/
def code (c : Char) : Nat :=
  if isHalf c then c.toNat - distance else c.toNat

/-- Whether a text holds an unpaired half. -/
def within (s : String) : Bool := s.toList.any isHalf

/-- The code points that the characters of a text stand for. -/
def codes (s : String) : List Nat := s.toList.map code

/-- Whether a text comes before another or is the same: the other is not the smaller one. -/
def precedes (s t : String) : Bool := !(codes t).lex (codes s)

/-- No character is a half, so each code point has one character that stands for it. -/
theorem code_injective {c d : Char} (h : code c = code d) : c = d := by
  have hvalid : ∀ c : Char, c.toNat < 0xd800 ∨ 0xdfff < c.toNat := fun c => c.valid.imp id fun h => h.1
  have hc := hvalid c
  have hd := hvalid d
  refine Char.toNat_inj.mp ?_
  simp only [code, isHalf, distance, Bool.and_eq_true, decide_eq_true_eq] at h
  split at h <;> split at h <;> omega

theorem codes_injective {s t : String} (h : codes s = codes t) : s = t :=
  String.toList_inj.mp ((List.map_inj_right fun _ _ => code_injective).mp h)

theorem precedes_iff {s t : String} : precedes s t = true ↔ List.le (codes s) (codes t) := by
  rw [precedes, Bool.not_eq_true']
  exact List.lex_eq_false_iff_ge

theorem precedes_trans {r s t : String} (h : precedes r s = true) (h' : precedes s t = true) : precedes r t = true :=
  precedes_iff.mpr (List.le_trans (precedes_iff.mp h) (precedes_iff.mp h'))

theorem precedes_total (s t : String) : precedes s t = true ∨ precedes t s = true :=
  (List.le_total (codes s) (codes t)).imp precedes_iff.mpr precedes_iff.mpr

theorem precedes_antisymm {s t : String} (h : precedes s t = true) (h' : precedes t s = true) : s = t :=
  codes_injective (List.le_antisymm (precedes_iff.mp h) (precedes_iff.mp h'))

example : code (ofCode 0xd800) = 0xd800 := by decide

example : code (ofCode 0x1f600) = 0x1f600 := by decide

end PageObjects.Text.Half
