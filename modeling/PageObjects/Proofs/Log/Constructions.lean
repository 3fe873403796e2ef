import PageObjects.Proofs.Dispatch.Order
import PageObjects.Proofs.Log.Phases

/-!
# The records of constructions

The records of the constructions of pages are nested like the constructions themselves,
in whatever way the pages come to be constructed: in functions and methods of other
pages, or where faults are caught.

Main definitions:

- `Prog.SetsUp`: the calls by which the root sets a page up.
- `Chronicle.Constructs`: what happens in such a call.
- `scriptRecords`: the records of all steps of a script.
- `Chronicle.Balanced`: how the records and the constructions of a script go together.

Main results:

- Theorem `Prog.SetsUp.constructs`: a call that sets a page up is one phase.
- Theorem `constructions_balanced`: the records of the constructions of a script.
-/

namespace PageObjects

/-! ## Constructions -/

namespace Prog

variable {caller : Caller} {called : CallChronicle} {rounds : Nat} {w w' : World} {cls : ClassRef} {d : Definition}

/-- The lines that a run logs, and the marks that go with it, are those of another one, and so is its fault. -/
structure SameLines (caller : Caller) (called : CallChronicle) (rounds : Nat) {α β : Type} (p : Prog α) (w : World)
    (q : Prog β) (w' : World) : Prop where
  marks : (p.chronicle caller called rounds w).marks = (q.chronicle caller called rounds w').marks
  told : (p.chronicle caller called rounds w).told = (q.chronicle caller called rounds w').told
  fault : raised? (p.run caller rounds w).1 = raised? (q.run caller rounds w').1

namespace SameLines

variable {α β γ : Type} {w'' : World} {p : Prog α} {q : Prog β} {r : Prog γ}

theorem refl (p : Prog α) (w : World) : SameLines caller called rounds p w p w := ⟨rfl, rfl, rfl⟩

theorem trans (h : SameLines caller called rounds p w q w') (h' : SameLines caller called rounds q w' r w'') :
    SameLines caller called rounds p w r w'' :=
  ⟨h.marks.trans h'.marks, h.told.trans h'.told, h.fault.trans h'.fault⟩

/-- An operation logs no line. -/
theorem op_bind (o : Op β) (k : β → Prog α) (w : World) :
    SameLines caller called rounds ((op o).bind k) w (k (o.run w).1) (o.run w).2 :=
  ⟨rfl, rfl, rfl⟩

/-- Nor does a look at the scene. -/
theorem view_bind (f : Scene → β) (k : β → Prog α) (w : World) :
    SameLines caller called rounds ((view f).bind k) w (k (f w.scene)) w :=
  ⟨rfl, rfl, rfl⟩

/-- What is made of an answer logs no line. -/
theorem bind_done (p : Prog α) (f : α → β) (w : World) :
    SameLines caller called rounds (p.bind fun a => .done (f a)) w p w := by
  have hsilent : Chronicle.following (p.run caller rounds w) (fun a => (Prog.done (f a)).chronicle caller called
      rounds) = .done := by
    rcases p.run caller rounds w with ⟨_ | a, w'⟩ <;> rfl
  have hchronicle : (p.bind fun a => .done (f a)).chronicle caller called rounds w =
      p.chronicle caller called rounds w ++ .done := by
    rw [chronicle_bind, hsilent]
  refine ⟨?_, ?_, ?_⟩
  · rw [hchronicle, Chronicle.marks_append]
    exact List.append_nil _
  · rw [hchronicle, Chronicle.told_append]
    exact List.append_nil _
  · rw [run_bind]
    rcases p.run caller rounds w with ⟨_ | a, w'⟩ <;> rfl

end SameLines

/-- To set a page up is the phase of its construction, once it keeps its driver. -/
theorem setUpPageWith_sameLines {id : Nat} {args : List Value} {named : Named} {browser : Value} {visit : Option Value}
    (hsetter : w.scene.member? cls settingName = none) (hd : w.scene.definition? cls = some d)
    (hargs : bindArguments [("browser", true), ("visit", false)] args named = some [some browser, visit]) :
    SameLines caller called rounds (setUpPageWith (.page id cls) cls args named) w
      (timed (constructionPhase d.pageName (visit.getD (.bool false)))
        (stages (.page id cls) cls d (visit.getD (.bool false))))
      { w with scene := w.scene.setField id PageType.reservedField browser } := by
  let kept : World := { w with scene := w.scene.setField id PageType.reservedField browser }
  let k : Definition → Prog Unit := fun d => timed (constructionPhase d.pageName (visit.getD (.bool false)))
    (stages (.page id cls) cls d (visit.getD (.bool false)))
  -- nothing takes the place of keeping the driver
  have hkeep : SameLines caller called rounds
      ((setAttribute (.page id cls) PageType.reservedField browser).bind fun _ => (definitionOf cls).bind k) w
      ((definitionOf cls).bind k) kept := by
    rw [setAttribute, bind_eq, bind_assoc]
    refine (SameLines.view_bind _ _ w).trans ?_
    rw [Scene.typeMember?, hsetter]
    exact SameLines.op_bind (.setField id PageType.reservedField browser) _ w
  have hdefinition : SameLines caller called rounds ((definitionOf cls).bind k) kept (k d) kept := by
    rw [definitionOf, bind_eq, bind_assoc]
    refine (SameLines.view_bind _ _ kept).trans ?_
    rw [show kept.scene.definition? cls = some d from hd]
    exact .refl _ _
  rw [setUpPageWith, hargs]
  exact hkeep.trans hdefinition

/-- Calls by which the root sets a page up: of a type that leaves it to the root to make its pages,
and of the member of the root, on a page or with a page.  `s'` is the scene in which the page with
the number `id` is set up, and `given` is what it is set up with. -/
inductive SetsUp (s : Scene) : (f : Value) → (args : List Value) → (id : Nat) → (cls : ClassRef) → (s' : Scene) →
    (given : List Value) → Prop where
  | made {cls : ClassRef} {args : List Value} : s.overrides cls constructionMembers = false →
      SetsUp s (.pageType cls) args s.instances.length cls (s.addInstance {}).2 args
  | bound {id : Nat} {cls : ClassRef} {args : List Value} : s.member? cls settingName = none →
      SetsUp s (.member (.page id cls) setUpMember) args id cls s args
  | handed {owner : ClassRef} {id : Nat} {cls : ClassRef} {args : List Value} : s.member? cls settingName = none →
      SetsUp s (.member (.pageType owner) setUpMember) (.page id cls :: args) id cls s args

/-- Such a call is the phase of a construction. -/
theorem SetsUp.sameLines {f : Value} {args given : List Value} {named : Named} {id : Nat} {s : Scene} {browser : Value}
    {visit : Option Value} (h : SetsUp w.scene f args id cls s given) (hd : w.scene.definition? cls = some d)
    (hargs : bindArguments [("browser", true), ("visit", false)] given named = some [some browser, visit]) :
    SameLines caller called rounds (enter f args named) w
      (timed (constructionPhase d.pageName (visit.getD (.bool false)))
        (stages (.page id cls) cls d (visit.getD (.bool false))))
      { w with scene := s.setField id PageType.reservedField browser } := by
  cases h with
  | made hplain =>
    have hmember : ∀ n ∈ constructionMembers, w.scene.member? cls n = none := fun n hn =>
      Scene.member?_of_overrides hplain hn
    show SameLines caller called rounds (construct cls args named) w _ _
    rw [construct, bind_eq]
    refine (SameLines.view_bind _ _ w).trans ?_
    rw [hmember makingMember (by decide), newPage, bind_eq]
    refine (SameLines.view_bind _ _ w).trans ?_
    rw [hmember setUpMember (by decide), bind_eq]
    refine (SameLines.op_bind (.addInstance {}) _ w).trans ?_
    refine (SameLines.bind_done (setUpPageWith (.page w.scene.instances.length cls) cls args named) _ _).trans ?_
    exact setUpPageWith_sameLines (w := { w with scene := (w.scene.addInstance {}).2 })
      (hmember settingName (by decide)) hd hargs
  | bound hsetter =>
    exact (SameLines.bind_done (setUpPageWith (.page id cls) cls args named) _ w).trans
      (setUpPageWith_sameLines hsetter hd hargs)
  | handed hsetter =>
    exact (SameLines.bind_done (setUpPageWith (.page id cls) cls given named) _ w).trans
      (setUpPageWith_sameLines hsetter hd hargs)

end Prog

/-- What happens in a call is the construction of a page, from some world on: its phase is opened
once its line has been put together, the stages of the page follow, and then the phase is closed,
as failed if the call ends with a fault, which is the fault of the stages. -/
def Chronicle.Constructs (c : Chronicle) (depth : Nat) (left : Option Raised) (p : Phase) (stages : Prog Unit)
    (start : World) : Prop :=
  let caller := callAt usualRounds depth
  let called := callChronicle usualRounds depth
  ∃ opened, tell caller p.opening (some p.openingMark) start = (.ok (), opened) ∧
    left = raised? (stages.run caller usualRounds opened).1 ∧
    c.marks = (tellChronicle caller called p.opening start).marks ++ p.openingMark ::
      ((stages.chronicle caller called usualRounds opened).marks ++
        (p.closingChronicle caller called (p.limit start.scene.settings) start.scene.clock
          (stages.run caller usualRounds opened)).marks ++ [p.closingMark left.isSome])

section Calls

variable {w : World} {depth : Nat}

/-- To time a program is to run it as the body of a phase. -/
theorem Prog.run_timed {caller : Caller} {rounds : Nat} {α : Type} (p : Phase) (body : Prog α) (w : World) :
    (timed p body).run caller rounds w = p.around caller (body.run caller rounds) w := by
  show andThen (p.around caller (body.run caller rounds) w) _ = _
  rcases p.around caller (body.run caller rounds) w with ⟨_ | a, w'⟩ <;> rfl

/-- The marks that go with a program that is timed are those of its phase. -/
theorem Prog.marks_timed {caller : Caller} {called : CallChronicle} {rounds : Nat} {α : Type} (p : Phase)
    (body : Prog α) (w : World) : ((timed p body).chronicle caller called rounds w).marks =
      (p.chronicle caller called (body.run caller rounds) (body.chronicle caller called rounds) w).marks := by
  show (p.chronicle caller called (body.run caller rounds) (body.chronicle caller called rounds) w ++
    Chronicle.following (p.around caller (body.run caller rounds) w) _).marks = _
  rw [Chronicle.marks_append]
  rcases p.around caller (body.run caller rounds) w with ⟨_ | a, w'⟩ <;> exact List.append_nil _

/-- The phase of a construction goes with one pair of marks around what its stages do, and ends as
they do. -/
theorem Prog.timed_constructs (pageName : Label) (visit : Value) (stages : Prog Unit) (hw : w.Timed)
    (hgiven : ((timed (constructionPhase pageName visit) stages).chronicle (callAt usualRounds depth)
      (callChronicle usualRounds depth) usualRounds w).Given) :
    ((timed (constructionPhase pageName visit) stages).chronicle (callAt usualRounds depth)
      (callChronicle usualRounds depth) usualRounds w).Constructs depth
        (raised? ((timed (constructionPhase pageName visit) stages).run (callAt usualRounds depth) usualRounds w).1)
        (constructionPhase pageName visit) stages w := by
  have hcaller := callAt_accounted usualRounds depth
  obtain ⟨hphase, -⟩ := Chronicle.given_append.mp hgiven
  obtain ⟨opened, htell, hopened, -, haround, hchronicle⟩ :=
    (constructionPhase pageName visit).around_opened hcaller _ _ hw rfl hphase
  rw [hchronicle] at hphase
  obtain ⟨hinside, hclosing⟩ :=
    Chronicle.given_append.mp (Chronicle.given_node.mp (Chronicle.given_append.mp hphase).2).2.1
  have hinner := run_accounts hcaller stages (hopened.timed hw) hinside
  have hlimit : ((constructionPhase pageName visit).limit w.scene.settings).isNumber = true := hw
  obtain ⟨-, -, hend⟩ := Phase.finish_accounts hcaller (constructionPhase pageName visit) w.scene.clock
    (fun _ => ⟨rfl, hlimit⟩) (hinner.1.timed (hopened.timed hw)) hclosing
  have hleft := hend rfl
  rw [← haround] at hleft
  refine ⟨opened, htell, by rw [run_timed, hleft], ?_⟩
  rw [run_timed, marks_timed, hchronicle, hleft, Chronicle.marks_append, Chronicle.marks, Chronicle.marks,
    List.append_nil, Chronicle.marks_append]
  rfl

/-- A call by which the root sets a page up is the construction of that page. -/
theorem Prog.SetsUp.constructs {f : Value} {args given : List Value} {named : Named} {id : Nat} {cls : ClassRef}
    {s : Scene} {d : Definition} {browser : Value} {visit : Option Value} (h : SetsUp w.scene f args id cls s given)
    (hd : w.scene.definition? cls = some d)
    (hargs : bindArguments [("browser", true), ("visit", false)] given named = some [some browser, visit])
    (hw : w.Timed) (hgiven : (callChronicle usualRounds (depth + 1) f args named w).Given) :
    (callChronicle usualRounds (depth + 1) f args named w).Constructs depth
      (raised? (callAt usualRounds (depth + 1) f args named w).1)
      (constructionPhase d.pageName (visit.getD (.bool false)))
      (stages (.page id cls) cls d (visit.getD (.bool false)))
      { w with scene := s.setField id PageType.reservedField browser } := by
  let start : World := { w with scene := s.setField id PageType.reservedField browser }
  have hsame : SameLines (callAt usualRounds depth) (callChronicle usualRounds depth) usualRounds
      (enter f args named) w _ start := h.sameLines hd hargs
  have htimed : start.Timed := by
    cases h <;> exact hw
  have hphase : Chronicle.Given _ := fun t ht => hgiven t (hsame.told ▸ ht)
  obtain ⟨opened, htell, hleft, hmarks⟩ := timed_constructs d.pageName _ _ htimed hphase
  refine ⟨opened, htell, hsame.fault.trans hleft, ?_⟩
  exact (hsame.marks.trans hmarks).trans (by rw [← hsame.fault]; rfl)

end Calls

/-! ## Scripts -/

/-- The marks of constructions among records. -/
def Log.constructionMarks (records : List Log.Record) : List Log.Mark :=
  records.filterMap fun r => Log.constructionMark? r.mark

/-- The records of all steps of a script. -/
def scriptRecords (steps : List Step) (w : World) : List Log.Record := (runScript (·.records) steps w).flatten

/-- What happens in a step accounts for what is reported of it. -/
theorem runStep_accounts (step : Step) {w : World} (hw : w.Timed) (hgiven : (step.chronicle w).Given) :
    (runStep step w).2.Timed ∧ Log.constructionMarks (runStep step w).1.records = (step.chronicle w).marks ∧
      (step.chronicle w).Faithful ∧ ∀ r ∈ (runStep step w).1.records, r.Reads := by
  have hrun := Prog.run_accounts (callAt_accounted usualRounds usualDepth) (Prog.ofStep step) (w := w.renewed) hw hgiven
  obtain ⟨new, hnew, hmarks, hreads⟩ := hrun.1.records
  have hrecords : (runStep step w).1.records = new.reverse := by
    show ((Prog.ofStep step).run (callAt usualRounds usualDepth) usualRounds w.renewed).2.journal.records.reverse = _
    rw [hnew]
    exact congrArg List.reverse (List.append_nil new)
  refine ⟨hrun.1.timed hw, ?_, hrun.2, ?_⟩
  · rw [hrecords]
    exact hmarks
  · rw [hrecords]
    exact fun r hr => hreads r (List.mem_reverse.mp hr)

/-- The records of constructions are balanced.  They go with the constructions that happen, one inside
of the other; each construction is opened and closed once, under one label; it is closed as failed
if a fault leaves it, which is the fault of its stages; and each call by which the root sets a page
up is one construction, unless it is too deep for anything to happen in it. -/
structure Chronicle.Balanced (c : Chronicle) (records : List Log.Record) : Prop where
  marks : Log.constructionMarks records = c.marks
  nested : Log.unclosed [] (Log.constructionMarks records) = some []
  count : (Log.constructionMarks records).countP Log.Mark.opens = c.happenings.countP Happening.isConstruction
  pairs : ∀ p stage left inside, (.timed p stage left, inside) ∈ c.parts → p.subject = .construction →
    left = stage ∧ p.openingMark :: inside.marks ++ [p.closingMark left.isSome] <:+: Log.constructionMarks records
  calls : ∀ f args named before r inside, (.called f args named before r, inside) ∈ c.parts →
    ∀ id cls s given d browser visit, Prog.SetsUp before.scene f args id cls s given →
      before.scene.definition? cls = some d →
      bindArguments [("browser", true), ("visit", false)] given named = some [some browser, visit] →
      (r = (.error { fault := .tooDeep }, before) ∧ inside = .done) ∨
        inside.marks <:+: Log.constructionMarks records ∧
        ∃ depth, inside.Constructs depth (raised? r.1) (Prog.constructionPhase d.pageName (visit.getD (.bool false)))
          (Prog.stages (.page id cls) cls d (visit.getD (.bool false)))
          { before with scene := s.setField id PageType.reservedField browser }
  reads : ∀ r ∈ records, r.Reads

/-- That the limit for slow phases is a number lasts. -/
theorem World.timed_lasting : Lasting fun w w' : World => w.Timed → w'.Timed where
  refl _ := id
  trans h h' := h' ∘ h
  op o w hw := by
    rw [World.Timed, show (o.run w).2.scene.settings = w.scene.settings from ((Deed.op o).moves w).settings]
    exact hw
  journal _ _ := id

/-- What happens in a script accounts for all that is reported of it. -/
theorem runScript_accounts (steps : List Step) {w : World} (hw : w.Timed) (hgiven : (scriptChronicle steps w).Given) :
    Log.constructionMarks (scriptRecords steps w) = (scriptChronicle steps w).marks ∧
      (scriptChronicle steps w).Faithful ∧ ∀ r ∈ scriptRecords steps w, r.Reads := by
  induction steps generalizing w with
  | nil => exact ⟨rfl, Chronicle.faithful_done, fun r hr => absurd hr List.not_mem_nil⟩
  | cons step rest ih =>
    obtain ⟨hfirst, hrest⟩ := Chronicle.given_append.mp hgiven
    obtain ⟨htimed, hmarks, hfaithful, hreads⟩ := runStep_accounts step hw hfirst
    obtain ⟨hmarks', hfaithful', hreads'⟩ := ih htimed hrest
    have hrecords : scriptRecords (step :: rest) w =
        (runStep step w).1.records ++ scriptRecords rest (runStep step w).2 := rfl
    refine ⟨?_, Chronicle.faithful_append.mpr ⟨hfaithful, hfaithful'⟩, ?_⟩
    · rw [hrecords, scriptChronicle, Chronicle.marks_append, ← hmarks, ← hmarks']
      exact List.filterMap_append
    · intro r hr
      rw [hrecords] at hr
      rcases List.mem_append.mp hr with hr | hr
      · exact hreads r hr
      · exact hreads' r hr

/-- **The records of constructions are balanced**, in whatever way a script comes to construct pages,
if the texts of all lines are found, and the limit for slow phases is a number. -/
theorem constructions_balanced (steps : List Step) {w : World} (hw : w.Timed)
    (hgiven : (scriptChronicle steps w).Given) : (scriptChronicle steps w).Balanced (scriptRecords steps w) := by
  obtain ⟨hmarks, hfaithful, hreads⟩ := runScript_accounts steps hw hgiven
  refine ⟨hmarks, ?_, ?_, ?_, ?_, hreads⟩
  · have hnested := (scriptChronicle steps w).unclosed_marks [] []
    rw [List.append_nil] at hnested
    rw [hmarks]
    exact hnested
  · rw [hmarks]
    exact Chronicle.count_openings _
  · intro p stage left inside hmem hsubject
    have henclosed := Chronicle.enclose_infix hmem
    rw [Happening.enclose, if_pos hsubject] at henclosed
    exact ⟨hfaithful p stage left (Chronicle.mem_happenings hmem) hsubject, hmarks ▸ henclosed⟩
  · intro f args named before r inside hmem id cls s given d browser visit hsets hd hargs
    obtain ⟨htimed, depth, rfl, rfl⟩ := scriptChronicle_calling World.timed_lasting (fun _ h => h) steps
      (fun h : w.Timed => h) f args named before r inside hmem
    cases depth with
    | zero => exact .inl ⟨rfl, rfl⟩
    | succ depth =>
      refine .inr ⟨hmarks ▸ Chronicle.enclose_infix hmem, depth, ?_⟩
      exact hsets.constructs hd hargs (htimed hw) (hgiven.of_mem_parts hmem)

/-! ## Pages that are constructed -/

section Runs

open Prog

/-- A type of pages without an address. -/
def plainPage : ClassRef := ⟨1, "Page"⟩

/-- A type of pages with an address. -/
def homePage : ClassRef := ⟨2, "HomePage"⟩

/-- A type of records that are asked for their texts. -/
def flagRecord : ClassRef := ⟨0, "Flag"⟩

/-- What is done to define the types and to make a record, which fails to give its text. -/
def flagDeeds : List Deed :=
  definingDeeds plainPage [] [] ++ definingDeeds homePage [] [.address (.text "/")] ++
    [.op (.addFunction (.request (.raise .runtime (some "boom")))),
     .op (.addRecordType { name := "Flag", plain := false, members := [(textMember, .method "__str__" 0)] }),
     .op (.addInstance {}), .op (.assign "Page" (.pageType plainPage)), .op (.assign "HomePage" (.pageType homePage)),
     .op (.assign "flag" (.object 0 (some flagRecord)))]

/-- The world after that. -/
def flagWorld (settings : Settings) : World :=
  ({ settings, drivers := [("browser", {})] } : Setting).world.after flagDeeds

/-- The same world, in which lines are logged without their contexts. -/
def curtWorld : World := (flagWorld {}).after [.op (.setPolicy { includeContext := false })]

/-- A step that constructs a page. -/
def constructing (type : String) (visit : Request) : Step :=
  { expr := .apply (.request (.held type)) [.request (.held "browser"), .request visit] [] }

/-- Steps that construct a page that has no address, first with the flag that makes it go
there. -/
def constructingTwice : List Step :=
  [constructing "Page" (.const (.bool true)), constructing "Page" (.const (.bool false))]

/-- The first construction fails, since the page has no address, and the second does not. -/
theorem curtWorld_balanced :
    curtWorld.Timed ∧ (scriptChronicle constructingTwice curtWorld).Given ∧
    Log.constructionMarks (scriptRecords constructingTwice curtWorld) =
      [.opening .construction "construct Page", .closing .construction "construct Page" true,
       .opening .construction "construct Page", .closing .construction "construct Page" false] := by
  have htimed : curtWorld.Timed := rfl
  have hgiven : (scriptChronicle constructingTwice curtWorld).Given := by
    show ∀ t ∈ _, _
    decide +kernel
  have hmarks : (scriptChronicle constructingTwice curtWorld).marks =
      [.opening .construction "construct Page", .closing .construction "construct Page" true,
       .opening .construction "construct Page", .closing .construction "construct Page" false] := by decide +kernel
  exact ⟨htimed, hgiven, (constructions_balanced constructingTwice htimed hgiven).marks.trans hmarks⟩

/-- A construction whose flag fails to give its text is not logged, and one whose time
cannot be compared with the limit is not logged as ended. -/
theorem flagWorld_unbalanced :
    Log.constructionMarks (scriptRecords [constructing "Page" (.held "flag")] (flagWorld {})) = [] ∧
    (runStep (constructing "Page" (.held "flag")) (flagWorld {})).1.answer.isOk = false ∧
    Log.unclosed [] (Log.constructionMarks
        (scriptRecords [constructing "Page" (.const (.bool false))] (flagWorld { slowPhase := .text "soon" }))) =
      some ["construct Page"] := by
  refine ⟨?_, ?_, ?_⟩ <;> decide +kernel

end Runs

end PageObjects
