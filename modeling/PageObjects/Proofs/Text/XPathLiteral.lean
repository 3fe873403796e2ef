import Mathlib.Data.List.Basic
import PageObjects.Definition.Declaration

/-!
# Reading XPath string expressions

A string expression is a literal in single quotes or in double quotes, which ends at
the next quote of its kind, or a concatenation of two or more literals.  What is written
for a text is read back as this text, whatever follows it, so no text can get out of
its quotes.  In particular the expression that finds a button is a fixed template, with
the label at each of its places.

Main definitions:

- `IsLiteral`, `IsArguments`, `Denotes`: the grammar of string expressions, with their values.
- `readExpression`: read one string expression from the front of a text.
- `Piece`, `readAlong`: templates, and reading a text along a template.
- `buttonTemplate`: the template of the expression that finds a button.

Main results:

- Theorem `readExpression_iff`: what is read is what the grammar has.
- Theorem `denotes_xpathLiteralChars`: what is written for a text denotes this text.
- Theorem `xpathLiteral_roundTrip`: what is written for a text is read back, and the
  labels of buttons stay at their places.
-/

namespace PageObjects.Text

/-! ## The grammar -/

/-- The blanks that may stand between the tokens of an expression. -/
def isExpressionBlank (c : Char) : Bool := c == ' ' || c == '\t' || c == '\n' || c == '\r'

/-- Some blanks, or none. -/
def Blanks (cs : List Char) : Prop := ∀ c ∈ cs, isExpressionBlank c = true

/-- A literal and its value: there is no escape, so a quote of its own kind ends it. -/
inductive IsLiteral : List Char → List Char → Prop where
  | single {value : List Char} : '\'' ∉ value → IsLiteral ('\'' :: (value ++ ['\''])) value
  | double {value : List Char} : '"' ∉ value → IsLiteral ('"' :: (value ++ ['"'])) value

/-- What follows an argument of a concatenation, up to the parenthesis that closes it, and
the values of the arguments that are left. -/
inductive IsArguments : List Char → List (List Char) → Prop where
  | close {blanks : List Char} : Blanks blanks → IsArguments (blanks ++ [')']) []
  | more {before after expr value rest : List Char} {values : List (List Char)} : Blanks before → Blanks after →
      IsLiteral expr value → IsArguments rest values →
      IsArguments (before ++ ',' :: (after ++ (expr ++ rest))) (value :: values)

/-- A concatenation after the name of the function, with its value: two arguments or more. -/
inductive IsConcat : List Char → List Char → Prop where
  | mk {before after expr value rest : List Char} {values : List (List Char)} : Blanks before → Blanks after →
      IsLiteral expr value → IsArguments rest values → values ≠ [] →
      IsConcat (before ++ '(' :: (after ++ (expr ++ rest))) (value ++ values.flatten)

/-- The name of the function that concatenates. -/
def concatName : List Char := ['c', 'o', 'n', 'c', 'a', 't']

/-- A string expression and its value. -/
inductive Denotes : List Char → List Char → Prop where
  | literal {expr value : List Char} : IsLiteral expr value → Denotes expr value
  | concat {expr value : List Char} : IsConcat expr value → Denotes (concatName ++ expr) value

/-! ## The reader -/

/-- Read up to a quote. -/
def readUntil (quote : Char) : List Char → Option (List Char × List Char)
  | [] => none
  | c :: cs => if c = quote then some ([], cs) else (readUntil quote cs).map fun r => (c :: r.1, r.2)

/-- Read a literal. -/
def readLiteral : List Char → Option (List Char × List Char)
  | [] => none
  | c :: cs => if c = '\'' ∨ c = '"' then readUntil c cs else none

/-- Leave out the blanks at the front. -/
def skipBlanks (cs : List Char) : List Char := cs.dropWhile isExpressionBlank

/-- What is read up to a quote holds no such quote, and the quote follows it. -/
theorem readUntil_eq_some_iff {quote : Char} {cs value rest : List Char} :
    readUntil quote cs = some (value, rest) ↔ quote ∉ value ∧ cs = value ++ quote :: rest := by
  induction cs generalizing value with
  | nil => simp [readUntil]
  | cons c cs ih =>
    by_cases hc : c = quote
    · cases value with
      | nil => simp [readUntil, hc]
      | cons d value =>
        have hd : d = quote → quote ∈ d :: value := fun h => h ▸ List.mem_cons_self
        simp only [readUntil, hc, if_true, List.cons_append, List.cons.injEq]
        constructor
        · intro h
          cases h
        · rintro ⟨hno, rfl, -⟩
          exact absurd List.mem_cons_self hno
    · cases value with
      | nil => simp [readUntil, hc, Option.map_eq_some_iff]
      | cons d value =>
        have hread : (readUntil quote cs).map (fun r => (c :: r.1, r.2)) = some (d :: value, rest) ↔
            readUntil quote cs = some (value, rest) ∧ c = d := by
          cases readUntil quote cs with
          | none => simp
          | some r => simp [Prod.ext_iff, and_assoc, and_comm]
        rw [readUntil, if_neg hc, hread, ih]
        constructor
        · rintro ⟨⟨hno, rfl⟩, rfl⟩
          exact ⟨by simpa [hno] using fun h => hc h.symm, rfl⟩
        · rintro ⟨hno, heq⟩
          simp only [List.cons_append, List.cons.injEq] at heq
          exact ⟨⟨fun h => hno (List.mem_cons_of_mem _ h), heq.2⟩, heq.1⟩

/-- What is read as a literal is one, and what is left follows it. -/
theorem readLiteral_eq_some_iff {cs value rest : List Char} :
    readLiteral cs = some (value, rest) ↔ ∃ expr, IsLiteral expr value ∧ cs = expr ++ rest := by
  constructor
  · intro h
    cases cs with
    | nil => cases h
    | cons c cs =>
      simp only [readLiteral] at h
      split at h
      · rename_i hquote
        obtain ⟨hno, rfl⟩ := readUntil_eq_some_iff.mp h
        rcases hquote with rfl | rfl
        · exact ⟨_, .single hno, by simp⟩
        · exact ⟨_, .double hno, by simp⟩
      · cases h
  · rintro ⟨expr, hexpr, rfl⟩
    cases hexpr with
    | single hno =>
      rw [List.cons_append, readLiteral, if_pos (.inl rfl), readUntil_eq_some_iff]
      exact ⟨hno, by simp⟩
    | double hno =>
      rw [List.cons_append, readLiteral, if_pos (.inr rfl), readUntil_eq_some_iff]
      exact ⟨hno, by simp⟩

/-- A literal begins with a quote and takes some room. -/
theorem IsLiteral.begins {expr value : List Char} (h : IsLiteral expr value) :
    ∃ c cs, expr = c :: cs ∧ (c = '\'' ∨ c = '"') := by
  cases h with
  | single => exact ⟨_, _, rfl, .inl rfl⟩
  | double => exact ⟨_, _, rfl, .inr rfl⟩

/-- Blanks at the front are left out up to what is no blank. -/
theorem skipBlanks_append {blanks : List Char} (h : Blanks blanks) {c : Char} (hc : isExpressionBlank c = false)
    (cs : List Char) : skipBlanks (blanks ++ c :: cs) = c :: cs := by
  rw [skipBlanks, List.dropWhile_append_of_pos h, List.dropWhile_cons_of_neg (by simp [hc])]

theorem skipBlanks_literal {blanks expr value : List Char} (hblanks : Blanks blanks) (h : IsLiteral expr value)
    (rest : List Char) : skipBlanks (blanks ++ (expr ++ rest)) = expr ++ rest := by
  obtain ⟨c, cs, rfl, hc⟩ := h.begins
  refine skipBlanks_append hblanks ?_ _
  rcases hc with rfl | rfl <;> decide

/-- What is left out are blanks. -/
theorem exists_blanks (cs : List Char) : ∃ blanks, Blanks blanks ∧ cs = blanks ++ skipBlanks cs :=
  ⟨cs.takeWhile isExpressionBlank, fun _ hc => List.all_eq_true.mp List.all_takeWhile _ hc,
    List.takeWhile_append_dropWhile.symm⟩

/-- Read what follows an argument: more arguments, each after a comma, and the parenthesis. -/
def readArguments (cs : List Char) : Option (List (List Char) × List Char) :=
  match _hcs : skipBlanks cs with
  | [] => none
  | c :: more =>
    if c = ')' then some ([], more)
    else if c = ',' then
      match _hread : readLiteral (skipBlanks more) with
      | none => none
      | some (value, rest) => (readArguments rest).map fun r => (value :: r.1, r.2)
    else none
termination_by cs.length
decreasing_by
  obtain ⟨expr, -, hmore⟩ := readLiteral_eq_some_iff.mp _hread
  obtain ⟨blanks, -, hblanks⟩ := exists_blanks cs
  obtain ⟨blanks', -, hblanks'⟩ := exists_blanks more
  have hlength := congrArg List.length hblanks
  have hlength' := congrArg List.length hblanks'
  simp only [_hcs, hmore, List.length_append, List.length_cons] at hlength hlength'
  omega

/-- Read the arguments of a concatenation, of which there have to be two. -/
def readConcat (cs : List Char) : Option (List Char × List Char) :=
  match skipBlanks cs with
  | [] => none
  | c :: more =>
    if c = '(' then
      (readLiteral (skipBlanks more)).bind fun first =>
        (readArguments first.2).bind fun others =>
          if others.1 = [] then none else some (first.1 ++ others.1.flatten, others.2)
    else none

/-- Read one string expression: its value, and what is left. -/
def readExpression (cs : List Char) : Option (List Char × List Char) :=
  (readLiteral cs).or ((concatName.isPrefixOf? cs).bind readConcat)

/-! ## The reader reads the grammar -/

/-- The parenthesis ends the arguments. -/
theorem readArguments_close {cs more : List Char} (hcs : skipBlanks cs = ')' :: more) :
    readArguments cs = some ([], more) := by
  rw [readArguments]
  split
  · simp_all
  · rename_i hcs'
    cases hcs.symm.trans hcs'
    rw [if_pos rfl]

/-- A comma goes before one more argument. -/
theorem readArguments_more {cs more value rest : List Char} (hcs : skipBlanks cs = ',' :: more)
    (hread : readLiteral (skipBlanks more) = some (value, rest)) :
    readArguments cs = (readArguments rest).map fun r => (value :: r.1, r.2) := by
  rw [readArguments]
  split
  · simp_all
  · rename_i hcs'
    cases hcs.symm.trans hcs'
    rw [if_neg (by decide), if_pos rfl]
    split
    · simp_all
    · rename_i hread'
      cases hread.symm.trans hread'
      rfl

/-- What is read as arguments is what the grammar has. -/
theorem readArguments_eq_some_iff {cs rest : List Char} {values : List (List Char)} :
    readArguments cs = some (values, rest) ↔ ∃ expr, IsArguments expr values ∧ cs = expr ++ rest := by
  constructor
  · intro h
    fun_induction readArguments cs generalizing values with
    | case1 cs _ => cases h
    | case2 cs more hcs =>
      cases h
      obtain ⟨blanks, hblanks, heq⟩ := exists_blanks cs
      exact ⟨_, .close hblanks, by rw [heq, hcs]; simp⟩
    | case3 cs more hcs _ _ => cases h
    | case4 cs more value left hread hcs _ ih =>
      obtain ⟨⟨values', rest'⟩, hrest, heq⟩ := Option.map_eq_some_iff.mp h
      cases heq
      obtain ⟨tail, htail, rfl⟩ := ih hrest
      obtain ⟨expr, hexpr, hmore⟩ := readLiteral_eq_some_iff.mp hread
      obtain ⟨before, hbefore, hcs'⟩ := exists_blanks cs
      obtain ⟨after, hafter, hmore'⟩ := exists_blanks more
      refine ⟨_, .more hbefore hafter hexpr htail, ?_⟩
      rw [hcs', hcs, hmore', hmore]
      simp
    | case5 cs c more hcs _ _ => cases h
  · rintro ⟨expr, hexpr, rfl⟩
    induction hexpr with
    | close hblanks =>
      rw [List.append_assoc]
      exact readArguments_close (skipBlanks_append hblanks (by decide) _)
    | @more before after expr value tail values hbefore hafter hliteral _ ih =>
      rw [List.append_assoc, List.cons_append, List.append_assoc, List.append_assoc,
        readArguments_more (skipBlanks_append hbefore (by decide) _)
          ((skipBlanks_literal hafter hliteral _).symm ▸ readLiteral_eq_some_iff.mpr ⟨_, hliteral, rfl⟩), ih]
      rfl

/-- What is read as a concatenation is one, and what is left follows it. -/
theorem readConcat_eq_some_iff {cs value rest : List Char} :
    readConcat cs = some (value, rest) ↔ ∃ expr, IsConcat expr value ∧ cs = expr ++ rest := by
  constructor
  · intro h
    obtain ⟨before, hbefore, hcs⟩ := exists_blanks cs
    simp only [readConcat] at h
    split at h
    · cases h
    · rename_i c more hskip
      split at h
      · rename_i hc
        obtain ⟨⟨first, left⟩, hfirst, h⟩ := Option.bind_eq_some_iff.mp h
        obtain ⟨⟨values, left'⟩, hvalues, h⟩ := Option.bind_eq_some_iff.mp h
        split at h
        · cases h
        · rename_i hsome
          cases h
          obtain ⟨after, hafter, hmore⟩ := exists_blanks more
          obtain ⟨expr, hexpr, hmore'⟩ := readLiteral_eq_some_iff.mp hfirst
          obtain ⟨tail, htail, hleft⟩ := readArguments_eq_some_iff.mp hvalues
          refine ⟨_, .mk hbefore hafter hexpr htail hsome, ?_⟩
          simp only at hleft
          rw [hcs, hskip, hc, hmore, hmore', hleft]
          simp
      · cases h
  · rintro ⟨expr, hexpr, rfl⟩
    cases hexpr with
    | @mk before after expr first tail values hbefore hafter hliteral hvalues hsome =>
      have hfirst : readLiteral (expr ++ (tail ++ rest)) = some (first, tail ++ rest) :=
        readLiteral_eq_some_iff.mpr ⟨_, hliteral, rfl⟩
      have htail : readArguments (tail ++ rest) = some (values, rest) :=
        readArguments_eq_some_iff.mpr ⟨_, hvalues, rfl⟩
      rw [List.append_assoc, List.cons_append, List.append_assoc, List.append_assoc, readConcat,
        skipBlanks_append hbefore (by decide)]
      simp only [if_true, skipBlanks_literal hafter hliteral, hfirst, htail, Option.bind_some, if_neg hsome]

/-- What is read as a string expression is what the grammar has. -/
theorem readExpression_iff {cs value rest : List Char} :
    readExpression cs = some (value, rest) ↔ ∃ expr, Denotes expr value ∧ cs = expr ++ rest := by
  constructor
  · intro h
    rcases Option.or_eq_some_iff.mp h with hliteral | ⟨-, hconcat⟩
    · obtain ⟨expr, hexpr, hcs⟩ := readLiteral_eq_some_iff.mp hliteral
      exact ⟨_, .literal hexpr, hcs⟩
    · obtain ⟨more, hmore, hread⟩ := Option.bind_eq_some_iff.mp hconcat
      obtain ⟨expr, hexpr, rfl⟩ := readConcat_eq_some_iff.mp hread
      exact ⟨_, .concat hexpr, by rw [← List.isPrefixOf?_eq_some_iff_append_eq.mp hmore, List.append_assoc]⟩
  · rintro ⟨expr, hexpr, rfl⟩
    cases hexpr with
    | literal hliteral => rw [readExpression, readLiteral_eq_some_iff.mpr ⟨_, hliteral, rfl⟩, Option.some_or]
    | @concat expr _ hconcat =>
      -- The name of the function begins with no quote, so it is not taken for a literal.
      have hliteral : readLiteral (concatName ++ expr ++ rest) = none := by
        simp [concatName, readLiteral]
      rw [readExpression, hliteral, Option.none_or, List.append_assoc,
        List.isPrefixOf?_eq_some_iff_append_eq.mpr rfl, Option.bind_some]
      exact readConcat_eq_some_iff.mpr ⟨_, hconcat, rfl⟩

/-! ## What is written for a text -/

/-- The pieces between single quotes hold none, and with the quotes between them they are
the text. -/
theorem splitAtQuote_spec (cs : List Char) : ∃ piece pieces, splitAtQuote cs = piece :: pieces ∧
    (∀ p ∈ piece :: pieces, '\'' ∉ p) ∧ piece ++ pieces.flatMap ('\'' :: ·) = cs := by
  induction cs with
  | nil => exact ⟨[], [], rfl, by simp, rfl⟩
  | cons c cs ih =>
    obtain ⟨piece, pieces, hsplit, hno, hjoin⟩ := ih
    by_cases hc : c = '\''
    · refine ⟨[], piece :: pieces, by rw [splitAtQuote, if_pos hc, hsplit], ?_, ?_⟩
      · intro p hp
        rcases List.mem_cons.mp hp with rfl | hp
        · exact List.not_mem_nil
        · exact hno p hp
      · rw [List.flatMap_cons, List.nil_append, List.cons_append, hjoin, hc]
    · refine ⟨c :: piece, pieces, by rw [splitAtQuote, if_neg hc, hsplit], ?_, ?_⟩
      · intro p hp
        rcases List.mem_cons.mp hp with rfl | hp
        · exact fun h => (List.mem_cons.mp h).elim (fun h => hc h.symm) (hno piece List.mem_cons_self)
        · exact hno p (List.mem_cons_of_mem _ hp)
      · rw [List.cons_append, hjoin]

/-- The arguments after the first are quotes and pieces in turn; together they are the rest
of the text. -/
theorem flatten_quotes_pieces (pieces : List (List Char)) :
    (pieces.flatMap fun p => [['\''], p]).flatten = pieces.flatMap ('\'' :: ·) := by
  induction pieces with
  | nil => rfl
  | cons p pieces ih => simp [ih]

/-- The value of the arguments that are written for the pieces after the first. -/
theorem isArguments_concatArguments {pieces : List (List Char)} (hno : ∀ p ∈ pieces, '\'' ∉ p) (piece : List Char) :
    ∃ rest, concatArguments (piece :: pieces) ++ [')'] = inSingleQuotes piece ++ rest ∧
      IsArguments rest (pieces.flatMap fun p => [['\''], p]) := by
  induction pieces generalizing piece with
  | nil => exact ⟨[')'], by simp [concatArguments], @IsArguments.close [] (by simp [Blanks])⟩
  | cons next pieces ih =>
    obtain ⟨rest, hrest, hvalues⟩ := ih (fun p hp => hno p (List.mem_cons_of_mem _ hp)) next
    have hnext : IsLiteral (inSingleQuotes next) next := .single (hno next List.mem_cons_self)
    have hquote : IsLiteral ['"', '\'', '"'] ['\''] := @IsLiteral.double ['\''] (by decide)
    have hspace : Blanks [' '] := by simp [Blanks, isExpressionBlank]
    refine ⟨[] ++ ',' :: ([' '] ++ (['"', '\'', '"'] ++ ([] ++ ',' :: ([' '] ++ (inSingleQuotes next ++ rest))))),
      ?_, .more (by simp [Blanks]) hspace hquote (.more (by simp [Blanks]) hspace hnext hvalues)⟩
    rw [concatArguments, List.append_assoc, List.append_assoc, hrest]
    · simp
    · simp

/-- What is written for a text denotes it. -/
theorem denotes_xpathLiteralChars (cs : List Char) : Denotes (xpathLiteralChars cs) cs := by
  unfold xpathLiteralChars
  split
  · rename_i hsingle
    exact .literal (.single hsingle)
  · rename_i hsingle
    split
    · rename_i hdouble
      exact .literal (.double hdouble)
    · obtain ⟨piece, pieces, hsplit, hno, hjoin⟩ := splitAtQuote_spec cs
      obtain ⟨rest, hrest, hvalues⟩ :=
        isArguments_concatArguments (fun p hp => hno p (List.mem_cons_of_mem _ hp)) piece
      -- The text has a quote, so there is a second piece.
      have hpieces : pieces ≠ [] := by
        rintro rfl
        simp only [List.flatMap_nil, List.append_nil] at hjoin
        exact hsingle (hjoin ▸ hno piece List.mem_cons_self)
      have hsome : (pieces.flatMap fun p => [['\''], p]) ≠ [] := by
        cases pieces with
        | nil => exact absurd rfl hpieces
        | cons => simp
      have hconcat := @IsConcat.mk [] [] _ _ _ _ (by simp [Blanks]) (by simp [Blanks])
        (.single (hno piece List.mem_cons_self)) hvalues hsome
      rw [flatten_quotes_pieces, hjoin] at hconcat
      have hexpr : "concat(".toList ++ concatArguments (splitAtQuote cs) ++ [')'] =
          concatName ++ ([] ++ '(' :: ([] ++ (inSingleQuotes piece ++ rest))) := by
        rw [hsplit, List.append_assoc, hrest]
        rfl
      rw [hexpr]
      exact .concat hconcat

/-- What is written for a text is read back, whatever follows. -/
theorem readExpression_xpathLiteral (text : String) (rest : List Char) :
    readExpression ((xpathLiteral text).toList ++ rest) = some (text.toList, rest) := by
  rw [xpathLiteral, String.toList_ofList]
  exact readExpression_iff.mpr ⟨_, denotes_xpathLiteralChars _, rfl⟩

/-- No other expression stands at the front of what is written for a text. -/
theorem denotes_unique {text : String} {rest expr value left : List Char} (hexpr : Denotes expr value)
    (heq : (xpathLiteral text).toList ++ rest = expr ++ left) :
    expr = (xpathLiteral text).toList ∧ value = text.toList ∧ left = rest := by
  have hread := readExpression_xpathLiteral text rest
  rw [readExpression_iff.mpr ⟨expr, hexpr, heq⟩] at hread
  cases hread
  exact ⟨(List.append_cancel_right heq).symm, rfl, rfl⟩

/-! ## Templates -/

/-- A piece of a template: characters that stand for themselves, or the place of a string
expression. -/
inductive Piece where
  | fixed (text : String)
  | place

/-- Read a text along a template: the values at its places, and what is left. -/
def readAlong : List Piece → List Char → Option (List (List Char) × List Char)
  | [], cs => some ([], cs)
  | .fixed text :: pieces, cs => (text.toList.isPrefixOf? cs).bind (readAlong pieces)
  | .place :: pieces, cs =>
    (readExpression cs).bind fun r => (readAlong pieces r.2).map fun s => (r.1 :: s.1, s.2)

/-- A text along a template with one text at all its places. -/
def fill (t : String) : List Piece → String
  | [] => ""
  | .fixed text :: pieces => text ++ fill t pieces
  | .place :: pieces => t ++ fill t pieces

/-- How many places a template has. -/
def places : List Piece → Nat
  | [] => 0
  | .fixed _ :: pieces => places pieces
  | .place :: pieces => places pieces + 1

/-- The template of the expression that finds a button. -/
def buttonTemplate : List Piece :=
  [.fixed "//button[normalize-space(.)=", .place, .fixed " or @value=", .place, .fixed "]",
    .fixed " | //input[(@type='submit' or @type='button' or @type='reset' or @type='image') and @value=",
    .place, .fixed "]"]

theorem buttonXPath_eq_fill (label : String) : buttonXPath label = fill (xpathLiteral label) buttonTemplate := by
  have hfill (t a b c d e : String) : a ++ t ++ b ++ t ++ c ++ d ++ t ++ e =
      fill t [.fixed a, .place, .fixed b, .place, .fixed c, .fixed d, .place, .fixed e] := by
    simp only [fill, String.append_assoc, String.append_empty]
  exact hfill _ _ _ _ _ _

/-- Along a template with what is written for a text at all its places, this text is read
at each of them. -/
theorem readAlong_fill (text : String) (pieces : List Piece) (rest : List Char) :
    readAlong pieces ((fill (xpathLiteral text) pieces).toList ++ rest) =
      some (List.replicate (places pieces) text.toList, rest) := by
  induction pieces with
  | nil => simp [readAlong, fill, places]
  | cons piece pieces ih =>
    cases piece with
    | fixed t =>
      rw [fill, String.toList_append, List.append_assoc, readAlong,
        List.isPrefixOf?_eq_some_iff_append_eq.mpr rfl, Option.bind_some, ih, places]
    | place =>
      rw [fill, String.toList_append, List.append_assoc, readAlong, readExpression_xpathLiteral, Option.bind_some, ih,
        Option.map_some, places, List.replicate_succ]

/-- **What is written for a text is read back, and labels stay at their places**: one string
expression is read from what is written for a text, whatever follows: all of it and
nothing more, and its value is the text; the grammar has no other.  A button declares a
pair that is found along the fixed template, with one string expression at each place,
whose value is the label. -/
theorem xpathLiteral_roundTrip :
    (∀ (text : String) (rest : List Char),
      readExpression ((xpathLiteral text).toList ++ rest) = some (text.toList, rest) ∧
      Denotes (xpathLiteral text).toList text.toList ∧
      ∀ expr value left : List Char, Denotes expr value → (xpathLiteral text).toList ++ rest = expr ++ left →
        expr = (xpathLiteral text).toList ∧ value = text.toList ∧ left = rest) ∧
    ∀ (facts : TypeFacts) (d : Definition) (label : String), ∃ p : Definition.Pair,
      d.declare facts (.button (.ofText label)) = d.declarePair facts p ∧ p.strategy = "xpath" ∧
      p.target = fill (xpathLiteral label) buttonTemplate ∧
      readAlong buttonTemplate p.target.toList = some ([label.toList, label.toList, label.toList], []) := by
  refine ⟨fun text rest => ⟨readExpression_xpathLiteral text rest, ?_, fun _ _ _ => denotes_unique⟩,
    fun facts d label => ⟨.ofButton label label, rfl, rfl, buttonXPath_eq_fill label, ?_⟩⟩
  · rw [xpathLiteral, String.toList_ofList]
    exact denotes_xpathLiteralChars _
  · have hread := readAlong_fill label buttonTemplate []
    rw [List.append_nil, ← buttonXPath_eq_fill] at hread
    exact hread

/-- A text with quotes of both kinds, and with the end of an expression in it. -/
example : xpathLiteralChars "a'\"]".toList = "concat('a', \"'\", '\"]')".toList := by decide

end PageObjects.Text
