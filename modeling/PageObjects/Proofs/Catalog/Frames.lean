import PageObjects.Catalog.Build
import PageObjects.Proofs.Program.Frames

/-!
# What the building of a page type leaves alone

To define a page type, and to state something about it, takes modest operations only:
they make a definition and a type, and change the definition.  So does the building of
the page type of an entry.  It can put something into a catalog only by the members that
it calls of the types it builds on.

Main results:

- Theorem `Prog.Modest.statement`: statements are modest.
- Theorem `Prog.Modest.definePageType`: a type is defined modestly, if its hook is modest.
- Theorem `Prog.Modest.buildPage`: the page type of an entry is built modestly.
-/

namespace PageObjects.Prog.Modest

/-! ## Declarations -/

variable (cls : ClassRef)

theorem definitionNumber : (Prog.definitionNumber cls).Modest := .view_bind fun _ => .ofOption _ _

theorem definitionOf : (Prog.definitionOf cls).Modest := .view_bind fun _ => .ofOption _ _

/-- A declaration that changes a definition is modest. -/
theorem declaring {o : Op Outcome} (ho : o.isModest = true) : (Prog.declaring o).Modest := by
  refine .bind (.op ho) fun outcome => .bind (.logAll _) fun _ => ?_
  cases outcome.2 with
  | none => exact .done _
  | some fault => exact .raise _

theorem declareOn (d : Declaration) : (Prog.declareOn cls d).Modest :=
  .view_bind fun _ => .bind (definitionNumber cls) fun _ => declaring rfl

/-- A member of a type is called modestly, as long as what else would be done is modest. -/
theorem callTypeMember (name : String) (args : List Value) {usual : Prog Value} (husual : usual.Modest) :
    (Prog.callTypeMember cls name args usual).Modest := by
  refine .view_bind fun member => ?_
  cases member with
  | none => exact husual
  | some v => exact .view_bind fun _ => .callValue _ _ _

theorem declareBinding (kind : BindingKind) (name body : Value) : (Prog.declareBinding cls kind name body).Modest :=
  .view_bind fun _ =>
    .ite
      (.bind (callTypeMember cls _ _ (.done _)) fun _ =>
        .bind (.labelled name) fun _ => .bind (definitionNumber cls) fun _ => declaring rfl)
      (.bind (.givenName name) fun _ => declareOn cls _)

theorem declareOrDecorate (kind : BindingKind) (name body : Value) :
    (Prog.declareOrDecorate cls kind name body).Modest :=
  .ite (.done _) (.bind (declareBinding cls kind name body) fun _ => .done _)

theorem declareBy (member : String) (name body : Value) : (Prog.declareBy cls member name body).Modest :=
  callTypeMember cls _ _ (declareOrDecorate cls _ name body)

theorem decorateBy (member : String) (name body : Value) : (Prog.decorateBy cls member name body).Modest :=
  .view_bind fun _ =>
    .ite (.bind (callTypeMember cls _ _ (.done _)) fun _ => .callValue _ _ _) (declareBy cls _ name body)

theorem declareBoth (p : Definition.Pair) : (Prog.declareBoth cls p).Modest :=
  .bind (declareBy cls _ _ _) fun _ => .bind (declareBy cls _ _ _) fun _ => .done _

theorem declareLink (label : Value) : (Prog.declareLink cls label).Modest :=
  .bind (.ofOption _ _) fun _ => .view_bind fun _ =>
    .ite (declareBoth cls _) (.bind (.labelled label) fun _ => declareOn cls _)

theorem declareButton (label : Value) : (Prog.declareButton cls label).Modest :=
  .bind (.ofOption _ _) fun _ => .bind (.labelled label) fun _ => .view_bind fun _ =>
    .ite (declareBoth cls _) (declareOn cls _)

theorem expectElement (name timeout : Value) : (Prog.expectElement cls name timeout).Modest :=
  .view_bind fun _ => declareOn cls _

/-- Statements are modest. -/
theorem statement (st : Statement) : (Prog.statement cls st).Modest := by
  cases st with
  | address url => exact callTypeMember cls _ _ (.silently (declareOn cls _))
  | expectElement name timeout => exact callTypeMember cls _ _ (.silently (expectElement cls _ _))
  | expectTitle title => exact callTypeMember cls _ _ (.silently (declareOn cls _))
  | binding member name body => exact declareBy cls member name body
  | decorated member name body => exact decorateBy cls member name body
  | link label => exact callTypeMember cls _ _ (.silently (declareLink cls label))
  | button label => exact callTypeMember cls _ _ (.silently (declareButton cls label))

/-! ## Types -/

theorem expectedSlot (name : Value) : (Prog.expectedSlot cls name).Modest :=
  .ite (.view_bind fun _ => .done _) (.raise _)

theorem checkExpectation : (Prog.checkExpectation cls).Modest := by
  refine .view_bind fun d => ?_
  cases d.bind fun d => d.expectedElement with
  | none => exact .done _
  | some e =>
    refine .bind (expectedSlot cls e.name) fun slot => ?_
    cases slot with
    | some slot => exact .done _
    | none =>
      have hraise : ∀ name : String,
          ((Prog.formatted e.name).bind fun t => Prog.raise (.unresolvable name t) : Prog Unit).Modest :=
        fun name => .bind (.formatted e.name) fun _ => .raise _
      exact .bind (.ofOption _ _) fun _ => .view_bind fun _ => .ite (.done _) (.view_bind hraise)

theorem lockType : (Prog.lockType cls).Modest :=
  .bind (definitionNumber cls) fun _ => .bind (.op rfl) fun _ => .bind (definitionOf cls) fun _ =>
    .bind (.ofFault _) fun _ => .bind (.ofFault _) fun _ => .view_bind fun _ => .log _

variable {cls} {declare : ClassRef → Prog (List Raised)}

/-- A hook is run modestly if it is modest. -/
theorem runOwnHook (hdeclare : (declare cls).Modest) (members : List (String × Value)) :
    (Prog.runOwnHook cls members declare).Modest := by
  unfold Prog.runOwnHook
  split
  · exact .done _
  · exact .done _
  · exact .ite hdeclare (.bind (.callValue _ _ _) fun _ => .done _)

theorem parentOf (members : List (String × Value)) (lineage : List ClassRef) :
    (Prog.parentOf members lineage).Modest := by
  unfold Prog.parentOf
  split
  · exact .done _
  · exact .raise _
  · exact .view_bind fun _ => .ofOption _ _

theorem setUpType (hdeclare : (declare cls).Modest) (t : PageType) : (Prog.setUpType t cls declare).Modest :=
  .bind (parentOf _ _) fun _ => .bind (.op rfl) fun _ => .bind (.op rfl) fun _ =>
    .bind (runOwnHook hdeclare _) fun _ => .bind (checkExpectation cls) fun _ => .bind (lockType cls) fun _ => .done _

theorem setUpBy (setter : Value) (t : PageType) : (Prog.setUpBy setter t cls).Modest :=
  .bind (.op rfl) fun _ => .bind (.callValue _ _ _) fun _ => .done _

/-- A type is defined modestly, if its hook is modest. -/
theorem definePageType (hdeclare : ∀ cls, (declare cls).Modest) (d : Draft) :
    (Prog.definePageType d declare).Modest := by
  refine .bind (.ofFault _) fun name => .view_bind fun n => .bind (.ofFault _) fun fullName =>
    .view_bind fun lineage? => .bind (.ofOption _ _) fun lineage => .view_bind fun setter => ?_
  cases setter with
  | some setter => exact .bind (setUpBy setter _) fun _ => .done _
  | none => exact .bind (setUpType (hdeclare _) _) fun _ => .done _

/-! ## Entries -/

theorem stateAll (cls : ClassRef) (steps : List Catalog.Entry.Step) : (Prog.stateAll cls steps).Modest := by
  induction steps with
  | nil => exact .done _
  | cons step rest ih => exact .bind (.ofFault step) fun stated => .bind (statement cls stated) fun _ => ih

theorem stateEntry (cls : ClassRef) (raw : Value) : (Prog.stateEntry cls raw).Modest :=
  .view_bind fun _ => .bind (.ofOption _ _) fun _ => .view_bind fun _ => stateAll cls _

theorem textOf (name : Value) : (Prog.textOf name).Modest := .view_bind fun _ => .ofFault _

theorem described (raw : Value) : (Prog.described raw).Modest :=
  .view_bind fun _ => .ite (.done _) (.bind (.op rfl) fun _ => .done _)

theorem entryBase (catalog : Nat) (name : Value) (raw : Value.Entries) :
    (Prog.entryBase catalog name raw).Modest := by
  refine .ite (.done _) (.bind (.ite (.view _) (.raise _)) fun registered => ?_)
  split
  · exact .done _
  · exact .raise _
  · exact .bind (textOf name) fun _ => .view_bind fun _ => .bind (.ofFault _) fun _ => .raise _

/-- The page type of an entry is built modestly. -/
theorem buildPage (catalog : Nat) (name raw : Value) : (Prog.buildPage catalog name raw).Modest := by
  refine .view_bind fun entries? => ?_
  cases entries? with
  | none => exact .bind (textOf name) fun _ => .raise _
  | some entries =>
    have hhook : ∀ cls, (do Prog.stateEntry cls raw; pure [] : Prog (List Raised)).Modest :=
      fun cls => .bind (stateEntry cls raw) fun _ => .done _
    exact .bind (.ofFault _) fun _ =>
      .ite
        (.bind (entryBase catalog name entries) fun _ => .bind (definePageType hhook _) fun _ => .done _)
        (.bind (textOf name) fun _ => .raise _)

end PageObjects.Prog.Modest
