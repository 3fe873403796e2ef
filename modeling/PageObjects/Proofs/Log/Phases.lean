import PageObjects.Proofs.Page.Stages
import PageObjects.Proofs.Program.Calls
import PageObjects.Proofs.Scene.Moves

/-!
# The records of phases

The record that opens a phase and the one that closes it are marked.  The marks of the
constructions of pages that are logged in a run can be read off its chronicle: each
construction is opened before all that happens inside of it, and closed after it.  That
is so as long as the things that are asked for their texts give them, and the limit for
slow phases is a number; else a phase may end before it has been logged.

Main definitions:

- `Log.Mark.Announces`, `Log.Record.Reads`: how marked records are put.
- `Log.unclosed`: which phases are still open after marks.
- `Chronicle.marks`: the marks that go with what happens.
- `Chronicle.Faithful`: constructions end as their stages do.
- `Chronicle.Accounts`: what happens accounts for what is logged.

Main results:

- Theorem `Chronicle.unclosed_marks`: the marks of a chronicle close what they open.
- Theorem `Phase.around_accounts`: a phase is logged around what happens in its body.
- Theorem `Prog.run_accounts`, `callAt_accounted`: what happens in runs and calls accounts
  for what they log.
-/

namespace PageObjects

namespace Log

/-- What a phase is about that a mark opens or closes. -/
def Mark.subject : Mark → Subject
  | .opening subject _ => subject
  | .closing subject _ _ => subject

/-- Whether a mark opens a phase. -/
def Mark.opens : Mark → Bool
  | .opening _ _ => true
  | .closing _ _ _ => false

/-- The mark of a construction among marks that may be there. -/
def constructionMark? (mark : Option Mark) : Option Mark := mark.filter fun m => m.subject == .construction

/-- How the entries are put that open and close a phase. -/
def Mark.Announces : Mark → Level → String → Prop
  | .opening _ label, level, message => level = 10 ∧ message = "START phase: " ++ label
  | .closing _ label true, level, message =>
    level = 30 ∧ ∃ elapsed : Float,
      message = "END phase: " ++ label ++ " (failed after " ++ Decimal.fixed 2 elapsed ++ " seconds)"
  | .closing _ label false, level, message =>
    ∃ (slow : Bool) (elapsed : Float), level = (if slow then 30 else 10) ∧
      message = "END phase: " ++ label ++ (if slow then " (slow, " else " (") ++ Decimal.fixed 2 elapsed ++ " seconds)"

/-- A record shows a message, after its category and maybe before a context. -/
def Record.Shows (r : Record) (message : String) : Prop :=
  ∃ category : Category, r.text = "[" ++ category.word ++ "] " ++ message ∨
    ∃ context, r.text = "[" ++ category.word ++ "] " ++ (message ++ " :: " ++ context)

/-- A record reads as its mark says, if it has one. -/
def Record.Reads (r : Record) : Prop :=
  ∀ m, r.mark = some m → ∃ message, m.Announces r.level message ∧ r.Shows message

/-- The labels of the phases that are still open after marks, if no mark closes another
phase than the one that was opened last. -/
def unclosed : List String → List Mark → Option (List String)
  | labels, [] => some labels
  | labels, .opening _ label :: rest => unclosed (label :: labels) rest
  | [], .closing _ _ _ :: _ => none
  | last :: labels, .closing _ label _ :: rest => if label = last then unclosed labels rest else none

end Log

/-! ## Marks -/

/-- The marks that go with what happens, around those of what happens inside. -/
def Happening.enclose (h : Happening) (inside : List Log.Mark) : List Log.Mark :=
  match h with
  | .timed p _ left =>
    if p.subject = .construction then p.openingMark :: inside ++ [p.closingMark left.isSome] else inside
  | _ => inside

/-- Whether what happens is the construction of a page, from when its phase is opened. -/
def Happening.isConstruction : Happening → Bool
  | .timed p _ _ => p.subject == .construction
  | _ => false

namespace Chronicle

/-- The marks of constructions that go with what happens: each construction is opened
before what happens inside of it and closed after it. -/
def marks : Chronicle → List Log.Mark
  | .done => []
  | .node h inside rest => h.enclose inside.marks ++ rest.marks

/-- Constructions end as their stages do. -/
def Faithful (c : Chronicle) : Prop :=
  ∀ p stage left, .timed p stage left ∈ c.happenings → p.subject = .construction → left = stage

variable {c c' : Chronicle}

@[simp] theorem marks_append (c c' : Chronicle) : (c ++ c').marks = c.marks ++ c'.marks := by
  induction c with
  | done => rfl
  | node h inside rest _ ih => simp only [node_append, marks, ih, List.append_assoc]

theorem faithful_append : (c ++ c').Faithful ↔ c.Faithful ∧ c'.Faithful := by
  simp only [Faithful, happenings_append, List.mem_append]
  constructor
  · exact fun h => ⟨fun p s l hm => h p s l (.inl hm), fun p s l hm => h p s l (.inr hm)⟩
  · rintro ⟨h, h'⟩ p stage left (hm | hm)
    · exact h p stage left hm
    · exact h' p stage left hm

theorem faithful_done : Chronicle.done.Faithful := fun _ _ _ h => absurd h List.not_mem_nil

theorem faithful_node {h : Happening} (hc : c.Faithful) (hc' : c'.Faithful)
    (hh : ∀ p stage left, h = .timed p stage left → p.subject = .construction → left = stage) :
    (node h c c').Faithful := by
  intro p stage left hm
  rcases List.mem_cons.mp hm with heq | hm
  · exact hh p stage left heq.symm
  · rcases List.mem_append.mp hm with hm | hm
    · exact hc p stage left hm
    · exact hc' p stage left hm

/-- The marks of a chronicle close what they open. -/
theorem unclosed_marks (c : Chronicle) (labels : List String) (rest : List Log.Mark) :
    Log.unclosed labels (c.marks ++ rest) = Log.unclosed labels rest := by
  induction c generalizing labels rest with
  | done => rfl
  | node h inside after ihinside ihafter =>
    have hsame : Log.unclosed labels (inside.marks ++ (after.marks ++ rest)) = Log.unclosed labels rest := by
      rw [ihinside, ihafter]
    cases h with
    | timed p stage left =>
      simp only [marks, Happening.enclose]
      split
      · simp only [List.cons_append, List.append_assoc, Phase.openingMark, Phase.closingMark, Log.unclosed, ihinside,
          List.nil_append, if_true, ihafter]
      · rw [List.append_assoc]
        exact hsame
    | _ =>
      show Log.unclosed labels ((inside.marks ++ after.marks) ++ rest) = _
      rw [List.append_assoc]
      exact hsame

/-- The marks that go with one of the things that happen come one after the other. -/
theorem enclose_infix {h : Happening} {inside : Chronicle} (hmem : (h, inside) ∈ c.parts) :
    h.enclose inside.marks <:+: c.marks := by
  induction c with
  | done => exact absurd hmem List.not_mem_nil
  | node first within rest ihwithin ihrest =>
    have hwithin : within.marks <:+: first.enclose within.marks := by
      cases first with
      | timed p stage left =>
        simp only [Happening.enclose]
        split
        · exact ⟨[p.openingMark], [p.closingMark left.isSome], rfl⟩
        · exact List.infix_rfl
      | _ => exact List.infix_rfl
    rcases List.mem_cons.mp hmem with heq | hmem
    · cases heq
      exact (List.prefix_append _ _).isInfix
    · rcases List.mem_append.mp hmem with hmem | hmem
      · exact (ihwithin hmem).trans (hwithin.trans (List.prefix_append _ _).isInfix)
      · exact (ihrest hmem).trans (List.suffix_append _ _).isInfix

/-- A construction opens one phase more than what happens inside of it, and nothing else does. -/
theorem count_enclose (h : Happening) (inside : List Log.Mark) :
    (h.enclose inside).countP Log.Mark.opens =
      (if h.isConstruction = true then 1 else 0) + inside.countP Log.Mark.opens := by
  cases h with
  | timed p stage left =>
    have hopens : Log.Mark.opens p.openingMark = true := rfl
    have hcloses : Log.Mark.opens (p.closingMark left.isSome) = false := rfl
    simp only [Happening.enclose, Happening.isConstruction, beq_iff_eq]
    split
    · rw [List.countP_append, List.countP_cons_of_pos hopens, List.countP_singleton, hcloses]
      simp only [Bool.false_eq_true, if_false]
      omega
    · exact (Nat.zero_add _).symm
  | _ => exact (Nat.zero_add _).symm

/-- As many phases are opened as constructions happen. -/
theorem count_openings (c : Chronicle) :
    c.marks.countP Log.Mark.opens = c.happenings.countP Happening.isConstruction := by
  induction c with
  | done => rfl
  | node h inside rest ihinside ihrest =>
    rw [marks, happenings, List.countP_append, List.countP_cons, List.countP_append, count_enclose, ihinside, ihrest]
    omega

/-- Where the texts of all lines are found, so are those of the lines that are logged in one of
the things that happen. -/
theorem Given.of_mem_parts {h : Happening} {inside : Chronicle} (hgiven : c.Given) (hmem : (h, inside) ∈ c.parts) :
    inside.Given := by
  induction c with
  | done => exact absurd hmem List.not_mem_nil
  | node first within rest ihwithin ihrest =>
    obtain ⟨-, hwithin, hrest⟩ := given_node.mp hgiven
    rcases List.mem_cons.mp hmem with heq | hmem
    · cases heq
      exact hwithin
    · rcases List.mem_append.mp hmem with hmem | hmem
      · exact ihwithin hwithin hmem
      · exact ihrest hrest hmem

end Chronicle

/-! ## What is logged -/

/-- Between two worlds marked records were logged, each of which reads as its mark says. -/
structure World.Logs (w w' : World) (marks : List Log.Mark) : Prop where
  settings : w'.scene.settings = w.scene.settings
  records : ∃ new : List Log.Record, w'.journal.records = new ++ w.journal.records ∧
    (new.reverse.filterMap fun r => Log.constructionMark? r.mark) = marks ∧ ∀ r ∈ new, r.Reads

namespace World.Logs

variable {w w' w'' : World} {marks marks' : List Log.Mark}

/-- Where no record is added, none is marked. -/
theorem of_same (hscene : w'.scene.settings = w.scene.settings) (h : w'.journal.records = w.journal.records) :
    w.Logs w' [] :=
  ⟨hscene, [], h, rfl, fun _ hr => absurd hr List.not_mem_nil⟩

theorem refl (w : World) : w.Logs w [] := of_same rfl rfl

theorem trans (h : w.Logs w' marks) (h' : w'.Logs w'' marks') : w.Logs w'' (marks ++ marks') := by
  obtain ⟨new, hnew, hmarks, hreads⟩ := h.records
  obtain ⟨new', hnew', hmarks', hreads'⟩ := h'.records
  refine ⟨h'.settings.trans h.settings, new' ++ new, ?_, ?_, ?_⟩
  · rw [hnew', hnew, List.append_assoc]
  · rw [List.reverse_append, List.filterMap_append, hmarks, hmarks']
  · intro r hr
    rcases List.mem_append.mp hr with hr | hr
    · exact hreads' r hr
    · exact hreads r hr

end World.Logs

/-- A mark fits an entry that is always logged and put as the mark announces it. -/
def Log.Mark.Fits (m : Log.Mark) (e : Log.Entry) : Prop :=
  e.gate = .signal ∧ Log.lowestLevel ≤ e.level ∧ m.Announces e.level e.message

/-- The record of an entry reads as its mark says, if the mark fits. -/
theorem Log.Entry.recordWith_reads {e : Log.Entry} {mark : Option Log.Mark} (hfits : ∀ m, mark = some m → m.Fits e)
    (tail : String) : (e.recordWith mark tail).Reads := by
  intro m hm
  refine ⟨e.message, (hfits m hm).2.2, e.category, ?_⟩
  show line e.category e.message tail = _ ∨ ∃ context, line e.category e.message tail = _
  unfold line
  split
  · exact .inl rfl
  · exact .inr ⟨tail, rfl⟩

/-- A record that is kept is marked as it is said to be, if its mark fits. -/
theorem World.keep_logs (w : World) {e : Log.Entry} {mark : Option Log.Mark} (hfits : ∀ m, mark = some m → m.Fits e)
    (tail : String) : w.Logs (w.keep (e.recordWith mark tail)) (Log.constructionMark? mark).toList := by
  have hrecords : (w.keep (e.recordWith mark tail)).journal.records =
      if Log.lowestLevel ≤ e.level then e.recordWith mark tail :: w.journal.records else w.journal.records :=
    Log.Journal.write_records _ _
  by_cases hlevel : Log.lowestLevel ≤ e.level
  · rw [if_pos hlevel] at hrecords
    refine ⟨rfl, [e.recordWith mark tail], hrecords, ?_, ?_⟩
    · show ([e.recordWith mark tail].filterMap fun r => Log.constructionMark? r.mark) = _
      cases hmark : Log.constructionMark? mark <;> simp [Log.Entry.recordWith, hmark]
    · exact fun r hr => List.mem_singleton.mp hr ▸ Log.Entry.recordWith_reads hfits tail
  · -- what has a mark has weight enough
    have hmark : mark = none := by
      cases mark with
      | none => rfl
      | some m => exact absurd (hfits m rfl).2.1 hlevel
    rw [if_neg hlevel] at hrecords
    rw [hmark] at hrecords ⊢
    exact .of_same rfl hrecords

/-- Operations log nothing that is marked. -/
theorem Op.run_logs {β : Type} (o : Op β) (w : World) : w.Logs (o.run w).2 [] := by
  have hsettings : (o.run w).2.scene.settings = w.scene.settings := ((Deed.op o).moves w).settings
  cases o with
  | declare n facts d => exact .of_same hsettings (congrArg Log.Journal.records (w.change_journal n _))
  | enter n e => exact .of_same hsettings (congrArg Log.Journal.records (w.change_journal n _))
  | lock n => exact .of_same hsettings (congrArg Log.Journal.records (w.update_journal n _))
  | writeTable n name value => exact .of_same hsettings (congrArg Log.Journal.records (w.update_journal n _))
  | _ => exact .of_same hsettings rfl

/-! ## Runs -/

/-- What happens accounts for what is logged between two worlds. -/
def Chronicle.Accounts (c : Chronicle) (w w' : World) : Prop := w.Logs w' c.marks ∧ c.Faithful

/-- The limit for slow phases is a number. -/
def World.Timed (w : World) : Prop := w.scene.settings.slowPhase.isNumber = true

/-- What happens in calls accounts for what they log, as long as things give their texts. -/
def Caller.Accounted (caller : Caller) (called : CallChronicle) : Prop :=
  ∀ f args named (w : World), w.Timed → (called f args named w).Given →
    (called f args named w).Accounts w (caller f args named w).2

open Chronicle (following)

theorem World.Logs.timed {w w' : World} {marks : List Log.Mark} (h : w.Logs w' marks) (hw : w.Timed) : w'.Timed := by
  rw [World.Timed, h.settings]
  exact hw

namespace Chronicle.Accounts

variable {c c' : Chronicle} {w w' : World}

theorem done (w : World) : Chronicle.done.Accounts w w := ⟨.refl w, Chronicle.faithful_done⟩

/-- What happens in two parts accounts for both. -/
theorem trans {w'' : World} (hc : c.Accounts w w') (hc' : c'.Accounts w' w'') : (c ++ c').Accounts w w'' := by
  refine ⟨?_, Chronicle.faithful_append.mpr ⟨hc.2, hc'.2⟩⟩
  rw [Chronicle.marks_append]
  exact hc.1.trans hc'.1

/-- What happens in a part of a run and after it accounts for both. -/
theorem andThen {α β : Type} {r : Result α} {run : α → World → Result β} {next : α → World → Chronicle}
    (hr : c.Accounts w r.2) (hw : w.Timed) (hgiven : (c ++ following r next).Given)
    (hnext : ∀ a w', w'.Timed → (next a w').Given → (next a w').Accounts w' (run a w').2) :
    (c ++ following r next).Accounts w (Prog.andThen r run).2 := by
  have hw' : r.2.Timed := hr.1.timed hw
  obtain ⟨-, hrest⟩ := Chronicle.given_append.mp hgiven
  rcases r with ⟨fault | a, w₁⟩
  · exact hr.trans (done w₁)
  · exact hr.trans (hnext a w₁ hw' hrest)

/-- What happens inside of what is no phase accounts for all of it. -/
theorem inside {h : Happening} (hh : ∀ p stage left, h ≠ .timed p stage left) (hc : c.Accounts w w') :
    (Chronicle.node h c .done).Accounts w w' := by
  have hmarks : (Chronicle.node h c .done).marks = c.marks := by
    rw [Chronicle.marks, Chronicle.marks, List.append_nil]
    cases h with
    | timed p stage left => exact absurd rfl (hh p stage left)
    | _ => rfl
  exact ⟨hmarks ▸ hc.1, Chronicle.faithful_node hc.2 Chronicle.faithful_done fun p stage left heq =>
    absurd heq (hh p stage left)⟩

end Chronicle.Accounts

section Lines

variable {caller : Caller} {called : CallChronicle} (hcaller : caller.Accounted called)

include hcaller

/-- What happens when texts are asked for accounts for what is logged, if what happens in
calls does. -/
theorem Asking.run_accounts {α : Type} (p : Asking α) {w : World} (hw : w.Timed)
    (hgiven : (p.chronicle caller called w).Given) : (p.chronicle caller called w).Accounts w (p.run caller w).2 := by
  induction p generalizing w with
  | done a => exact .done w
  | fail fault => exact .done w
  | look f next ih =>
    have hlook : (Chronicle.node (.performed (.view f)) .done .done).Accounts w w :=
      .inside (fun _ _ _ => by simp) (.done w)
    exact hlook.trans (ih _ hw (Chronicle.given_node.mp hgiven).2.2)
  | call f args next ih =>
    have hcall : (Chronicle.node (.called f args [] w (caller f args [] w)) (called f args [] w) .done).Accounts w
        (caller f args [] w).2 :=
      .inside (fun _ _ _ => by simp) (hcaller f args [] w hw (Chronicle.given_node.mp hgiven).2.1)
    exact hcall.andThen hw hgiven fun v w' hw' => ih v hw'

/-- If the text of its context is found, a line is logged. -/
theorem tell_accounts {e : Log.Entry} {mark : Option Log.Mark} (hfits : ∀ m, mark = some m → m.Fits e) {w : World}
    (hw : w.Timed) (hgiven : (tellChronicle caller called e w).Given) :
    ∃ w', tell caller e mark w = (.ok (), w') ∧
      w.Logs w' ((tellChronicle caller called e w).marks ++ (Log.constructionMark? mark).toList) ∧
      (tellChronicle caller called e w).Faithful := by
  by_cases hopens : e.gate.opens w.journal.policy.mode = true
  · rw [tellChronicle, if_pos hopens] at hgiven ⊢
    obtain ⟨hfound, hasking, -⟩ := Chronicle.given_node.mp hgiven
    have htail : (e.tailChronicle caller called w).Accounts w (e.tail caller w).2 := by
      unfold Log.Entry.tail Log.Entry.tailChronicle at *
      split
      · rename_i hincluded
        rw [if_pos hincluded] at hasking
        exact Asking.run_accounts hcaller _ hw hasking
      · exact .done w
    have hinside : (Chronicle.node (.told e w (e.tail caller w)) (e.tailChronicle caller called w) .done).Accounts w
        (e.tail caller w).2 := htail.inside fun _ _ _ => by simp
    have hok : (e.tail caller w).1.isOk = true := hfound _ rfl
    rw [tell, if_pos hopens]
    generalize e.tail caller w = r at hinside hok ⊢
    obtain ⟨_ | tail, w'⟩ := r
    · cases hok
    · exact ⟨_, rfl, hinside.1.trans (w'.keep_logs hfits tail), hinside.2⟩
  · -- what has a mark is always logged
    have hmark : mark = none := by
      cases mark with
      | none => rfl
      | some m => exact absurd (by rw [(hfits m rfl).1]; rfl) hopens
    rw [tell, tellChronicle, if_neg hopens, if_neg hopens, hmark]
    exact ⟨w, rfl, .refl w, Chronicle.faithful_done⟩

/-! ## Phases -/

namespace Phase

variable {α : Type} (p : Phase)

omit hcaller in
theorem opening_fits : p.openingMark.Fits p.opening := ⟨rfl, Int.le_refl 10, rfl, rfl⟩

omit hcaller in
/-- A phase ends as its body does, with a line that its mark fits, unless its context
repeats a name or its limit is no number. -/
theorem finish_cases (called : CallChronicle) (limit : Value) (start : Float) (r : Result α) :
    (∃ e, (p.closingMark (raised? r.1).isSome).Fits e ∧
        p.closingChronicle caller called limit start r = tellChronicle caller called e r.2 ∧
        p.finish caller limit start r =
          Prog.andThen (tell caller e (some (p.closingMark (raised? r.1).isSome)) r.2) fun _ w => (r.1, w)) ∨
      (p.closingChronicle caller called limit start r = .done ∧ (p.finish caller limit start r).2 = r.2 ∧
        ¬ (admits p.fullContext ["failed"] = true ∧ limit.isNumber = true)) := by
  have hten : (10 : Int) ≤ 30 := by decide
  obtain ⟨answer, w⟩ := r
  cases answer with
  | error fault =>
    by_cases hadmits : admits p.fullContext ["failed"] = true
    · refine .inl ⟨p.failure (w.scene.clock - start), ⟨rfl, hten, rfl, _, rfl⟩, ?_, ?_⟩
      · simp only [closingChronicle, if_pos hadmits]
      · simp only [finish, if_pos hadmits]
        rfl
    · refine .inr ⟨?_, ?_, fun h => hadmits h.1⟩
      · simp only [closingChronicle, if_neg hadmits]
      · simp only [finish, if_neg hadmits]
  | ok a =>
    cases hreaches : reaches (w.scene.clock - start) limit with
    | ok slow =>
      have hlevel : (10 : Int) ≤ if slow then 30 else 10 := by
        split
        · exact hten
        · exact Int.le_refl 10
      refine .inl ⟨p.success (w.scene.clock - start) slow, ⟨rfl, hlevel, slow, _, rfl, rfl⟩, ?_, ?_⟩
      · simp only [closingChronicle, hreaches]
      · simp only [finish, hreaches]
        rfl
    | error fault =>
      refine .inr ⟨?_, ?_, fun h => ?_⟩
      · simp only [closingChronicle, hreaches]
      · simp only [finish, hreaches]
      · obtain ⟨slow, hslow⟩ := reaches_of_isNumber (w.scene.clock - start) h.2
        rw [hreaches] at hslow
        cases hslow

omit hcaller in
/-- What a script states goes with no mark of a construction. -/
theorem constructionMark?_of_other {p : Phase} (h : p.subject = .other) :
    Log.constructionMark? (some p.openingMark) = none ∧
      ∀ failed, Log.constructionMark? (some (p.closingMark failed)) = none := by
  cases p with
  | construction => cases h
  | stated => exact ⟨rfl, fun _ => rfl⟩

/-- The end of a phase is logged with its mark.  That of a construction is the end of its
body. -/
theorem finish_accounts {limit : Value} (start : Float) {r : Result α}
    (hends : p.subject = .construction → admits p.fullContext ["failed"] = true ∧ limit.isNumber = true)
    (hw : r.2.Timed) (hgiven : (p.closingChronicle caller called limit start r).Given) :
    r.2.Logs (p.finish caller limit start r).2 ((p.closingChronicle caller called limit start r).marks ++
        (Log.constructionMark? (some (p.closingMark (raised? (p.finish caller limit start r).1).isSome))).toList) ∧
      (p.closingChronicle caller called limit start r).Faithful ∧
      (p.subject = .construction → raised? (p.finish caller limit start r).1 = raised? r.1) := by
  rcases p.finish_cases called limit start r with ⟨e, hfits, hchronicle, hfinish⟩ | ⟨hchronicle, hfinish, hnone⟩
  · rw [hchronicle] at hgiven ⊢
    have hfits : ∀ m, some (p.closingMark (raised? r.1).isSome) = some m → m.Fits e := fun m hm =>
      Option.some.inj hm ▸ hfits
    obtain ⟨w', htell, hlogs, hfaithful⟩ := tell_accounts hcaller hfits hw hgiven
    rw [hfinish, htell]
    exact ⟨hlogs, hfaithful, fun _ => rfl⟩
  · -- only what a script states may end without a line
    have hother : p.subject = .other := by
      cases hsubject : p.subject with
      | construction => exact absurd (hends hsubject) hnone
      | other => rfl
    rw [hchronicle, hfinish, (constructionMark?_of_other hother).2]
    refine ⟨.refl r.2, Chronicle.faithful_done, fun h => ?_⟩
    rw [hother] at h
    cases h

omit hcaller in
/-- What goes with a phase is between its own marks, if it is a construction. -/
theorem enclose_timed (stage left : Option Raised) (marks : List Log.Mark) :
    (Happening.timed p stage left).enclose marks = (Log.constructionMark? (some p.openingMark)).toList ++
      (marks ++ (Log.constructionMark? (some (p.closingMark left.isSome))).toList) := by
  cases p with
  | construction pageName visit => rfl
  | stated label category context slow => exact (List.append_nil marks).symm

/-- A phase is opened by its line, and then its body is run and it is ended. -/
theorem around_opened (body : World → Result α) (inside : World → Chronicle) {w : World} (hw : w.Timed)
    (hadmits : admits p.fullContext [] = true) (hgiven : (p.chronicle caller called body inside w).Given) :
    ∃ opened, tell caller p.opening (some p.openingMark) w = (.ok (), opened) ∧
      w.Logs opened ((tellChronicle caller called p.opening w).marks ++
        (Log.constructionMark? (some p.openingMark)).toList) ∧
      (tellChronicle caller called p.opening w).Faithful ∧
      p.around caller body w = p.finish caller (p.limit w.scene.settings) w.scene.clock (body opened) ∧
      p.chronicle caller called body inside w = tellChronicle caller called p.opening w ++
        .node (.timed p (raised? (body opened).1) (raised? (p.around caller body w).1))
          (inside opened ++ p.closingChronicle caller called (p.limit w.scene.settings) w.scene.clock (body opened))
          .done := by
  have haround : p.around caller body w = Prog.andThen (tell caller p.opening (some p.openingMark) w) fun _ w' =>
      p.finish caller (p.limit w.scene.settings) w.scene.clock (body w') := if_pos hadmits
  simp only [Phase.chronicle, if_pos hadmits] at hgiven ⊢
  obtain ⟨w₁, htell, hopened, hfaithful⟩ := tell_accounts hcaller (fun m hm => Option.some.inj hm ▸ p.opening_fits) hw
    (Chronicle.given_append.mp hgiven).1
  refine ⟨w₁, htell, hopened, hfaithful, ?_, ?_⟩
  · rw [haround, htell]
    rfl
  · rw [htell]
    rfl

/-- What happens in a phase accounts for what is logged in it, if what happens in its body
does. -/
theorem around_accounts {body : World → Result α} {inside : World → Chronicle}
    (hbody : ∀ w : World, w.Timed → (inside w).Given → (inside w).Accounts w (body w).2) {w : World} (hw : w.Timed)
    (hgiven : (p.chronicle caller called body inside w).Given) :
    (p.chronicle caller called body inside w).Accounts w (p.around caller body w).2 := by
  by_cases hadmits : admits p.fullContext [] = true
  · have hends : p.subject = .construction →
        admits p.fullContext ["failed"] = true ∧ (p.limit w.scene.settings).isNumber = true := by
      cases p with
      | construction pageName visit => exact fun _ => ⟨rfl, hw⟩
      | stated => exact fun h => nomatch h
    obtain ⟨w₁, -, hopened, hfaithful, haround, hchronicle⟩ :=
      p.around_opened hcaller body inside hw hadmits hgiven
    rw [hchronicle] at hgiven ⊢
    obtain ⟨-, hafter⟩ := Chronicle.given_append.mp hgiven
    obtain ⟨hinside, hclosing⟩ := Chronicle.given_append.mp (Chronicle.given_node.mp hafter).2.1
    have hinner := hbody w₁ (hopened.timed hw) hinside
    obtain ⟨hclosed, hfaithful', hend⟩ :=
      finish_accounts hcaller p w.scene.clock hends (hinner.1.timed (hopened.timed hw)) hclosing
    have hlogs := hopened.trans (hinner.1.trans hclosed)
    rw [haround]
    refine ⟨?_, Chronicle.faithful_append.mpr ⟨hfaithful, ?_⟩⟩
    · simpa only [Chronicle.marks_append, Chronicle.marks, enclose_timed, List.append_assoc, List.append_nil]
        using hlogs
    · have hinside : (inside w₁ ++ _).Faithful := Chronicle.faithful_append.mpr ⟨hinner.2, hfaithful'⟩
      refine Chronicle.faithful_node hinside Chronicle.faithful_done ?_
      rintro _ _ _ ⟨⟩ hsubject
      exact hend hsubject
  · simp only [Phase.chronicle, if_neg hadmits, around]
    exact .done w

end Phase

end Lines

/-! ## Programs -/

/-- What happens in a check that is repeated accounts for what is logged, if what happens
in one check does. -/
theorem repeatCheck_accounts (deadline : Float) (interval : Value) {check : World → Result (Option Value)}
    {once : World → Chronicle}
    (hcheck : ∀ w : World, w.Timed → (once w).Given → (once w).Accounts w (check w).2) (n : Nat) {w : World}
    (hw : w.Timed) (hgiven : (repeatChronicle deadline interval check once n w).Given) :
    (repeatChronicle deadline interval check once n w).Accounts w
      (repeatCheck deadline interval check n w).2 := by
  induction n generalizing w with
  | zero => exact .done w
  | succ n ih =>
    simp only [repeatCheck, repeatChronicle] at hgiven ⊢
    obtain ⟨honce, hafter⟩ := Chronicle.given_append.mp hgiven
    have hfirst := hcheck w hw honce
    generalize check w = r at hfirst hafter ⊢
    obtain ⟨answer, w₁⟩ := r
    simp only at hfirst hafter ⊢
    have hw₁ : w₁.Timed := hfirst.1.timed hw
    generalize checked answer = verdict at hafter ⊢
    rcases verdict with fault | (_ | v)
    · exact hfirst.trans (.done w₁)
    · refine hfirst.trans ?_
      simp only at hafter ⊢
      by_cases hlate : w₁.scene.clock > deadline
      · rw [if_pos hlate, if_pos hlate]
        exact .done w₁
      · rw [if_neg hlate] at hafter ⊢
        rw [if_neg hlate]
        have hslept : (Chronicle.node (.performed (.sleep interval)) .done .done).Accounts w₁
            (Op.run (.sleep interval) w₁).2 :=
          .inside (fun _ _ _ => by simp) ⟨Op.run_logs _ w₁, Chronicle.faithful_done⟩
        have hrest := (Chronicle.given_node.mp hafter).2.2
        simp only [Op.run, World.withScene] at hslept hrest ⊢
        generalize w₁.scene.sleep interval = slept at hslept hrest ⊢
        rcases slept with ⟨_ | v, s⟩
        · exact hslept
        · exact hslept.trans (ih (hslept.1.timed hw₁) hrest)
    · exact hfirst.trans (.done w₁)

/-- What happens in a run accounts for what is logged in it, if what happens in calls does. -/
theorem Prog.run_accounts {caller : Caller} {called : CallChronicle} {rounds : Nat}
    (hcaller : caller.Accounted called) {α : Type} (p : Prog α) {w : World} (hw : w.Timed)
    (hgiven : (p.chronicle caller called rounds w).Given) :
    (p.chronicle caller called rounds w).Accounts w (p.run caller rounds w).2 := by
  induction p generalizing w with
  | done a => exact .done w
  | fail r => exact .done w
  | perform op next ih =>
    have hop : (Chronicle.node (.performed op) .done .done).Accounts w (op.run w).2 :=
      .inside (fun _ _ _ => by simp) ⟨op.run_logs w, Chronicle.faithful_done⟩
    exact hop.trans (ih _ (hop.1.timed hw) (Chronicle.given_node.mp hgiven).2.2)
  | invoke f args named next ih =>
    have hcall : (Chronicle.node (.called f args named w (caller f args named w)) (called f args named w)
        .done).Accounts w (caller f args named w).2 :=
      .inside (fun _ _ _ => by simp) (hcaller f args named w hw (Chronicle.given_node.mp hgiven).2.1)
    exact hcall.andThen hw hgiven fun v w' hw' => ih v hw'
  | tell e next ih =>
    have hfits : ∀ m, (none : Option Log.Mark) = some m → m.Fits e := fun m hm => nomatch hm
    obtain ⟨w', htell, hlogs, hfaithful⟩ := tell_accounts hcaller hfits hw (Chronicle.given_append.mp hgiven).1
    have htold : (tellChronicle caller called e w).Accounts w (PageObjects.tell caller e none w).2 := by
      rw [htell]
      refine ⟨?_, hfaithful⟩
      have hnone : (Log.constructionMark? none).toList = [] := rfl
      rwa [hnone, List.append_nil] at hlogs
    exact htold.andThen hw hgiven fun _ w' hw' => ih hw'
  | attempt body next ihbody ih =>
    have hbody := ihbody hw (Chronicle.given_append.mp hgiven).1
    exact hbody.trans (ih _ (hbody.1.timed hw) (Chronicle.given_append.mp hgiven).2)
  | phase p body next ihbody ih =>
    have hphase := p.around_accounts hcaller (fun w hw => ihbody hw) hw (Chronicle.given_append.mp hgiven).1
    exact hphase.andThen hw hgiven fun b w' hw' => ih b hw'
  | await p check next ihcheck ih =>
    have hchecks := repeatCheck_accounts (w.scene.clock + p.timeout) p.interval (fun w hw => ihcheck hw) rounds hw
      (Chronicle.given_append.mp hgiven).1
    exact hchecks.andThen hw hgiven fun v w' hw' => ih v hw'

/-- What happens in calls accounts for what they log. -/
theorem callAt_accounted (rounds depth : Nat) : (callAt rounds depth).Accounted (callChronicle rounds depth) := by
  induction depth with
  | zero => exact fun _ _ _ w _ _ => .done w
  | succ depth ih => exact fun f args named w hw hgiven => Prog.run_accounts ih _ hw hgiven

end PageObjects
