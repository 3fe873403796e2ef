import PageObjects.Proofs.Page.Stages

/-!
# Waiting for the expected element

A page that waits looks for its expected element again and again.  Each poll evaluates
the accessor afresh, once, and asks what it gives whether it is displayed.  A poll that
finds nothing, or nothing that is displayed, is soft, and so is one that ends with the
fault that an element is not there.  After a soft poll the wait sleeps once and polls
again, unless the deadline is over.

A control that is displayed but counts as false is overlooked: the wait goes on as after
a soft poll, so such a control is never what the wait comes to.

Main definitions:

- `Sight`: what one poll sees.
- `Prog.look`: one poll, with what it sees.
- `Sight.Soft`, `Sight.Overlooked`: what the wait does not settle for.
- `Polls`: polls one after the other, with one sleep after each.

Main results:

- Theorem `Prog.poll_eq_look`: a check for the expected element is a poll that settles
  for what is shown.
- Theorem `repeatCheck_polls`: a check that is repeated polls until it is settled.
- Theorem `wait_outcome`: what a wait comes to is decided by its last poll.
-/

namespace PageObjects

/-- What one poll sees: no control, one that is not displayed, one that is displayed but
counts as false, or one that is shown. -/
inductive Sight where
  | nothing
  | hidden
  | overlooked (control : Value)
  | shown (control : Value)

namespace Sight

/-- What a poll that sees something settles for. -/
def settled? : Sight → Option Value
  | .shown control => some control
  | _ => none

/-- A poll is soft if it gives no control, or one that is not displayed, or if it ends
with the fault that an element is not there, or not there any more. -/
def Soft : Except Raised Sight → Prop
  | .ok .nothing | .ok .hidden => True
  | .ok _ => False
  | .error r => r.kind.isAbsence = true

/-- A poll overlooks a control that is displayed but counts as false. -/
def Overlooked (seen : Except Raised Sight) : Prop := ∃ control, seen = .ok (.overlooked control)

instance (seen : Except Raised Sight) : Decidable (Overlooked seen) :=
  match seen with
  | .ok (.overlooked v) => isTrue ⟨v, rfl⟩
  | .ok .nothing | .ok .hidden | .ok (.shown _) | .error _ => isFalse fun ⟨_, h⟩ => nomatch h

end Sight

namespace Prog

/-- One poll for the expected element: the accessor is evaluated once, and what it gives
is asked whether it is displayed. -/
def look (page : Value) (cls : ClassRef) (name : String) : Prog Sight := do
  let control ← stage page cls "_resolve_accessor" [.text name] (resolveAccessor page name)
  if control.isNone then pure .nothing
  else if ← truth (← callMember control "is_displayed" []) then
    if ← truth control then pure (.shown control) else pure (.overlooked control)
  else pure .hidden

/-- A check for the expected element is a poll that settles for what is shown. -/
theorem poll_eq_look (page : Value) (cls : ClassRef) (name : String) :
    poll page cls name = (look page cls name).bind fun seen => .done seen.settled? := by
  have hdisplayed : ∀ control : Value, displayed control = Prog.bind (do
      if control.isNone then pure Sight.nothing
      else if ← truth (← callMember control "is_displayed" []) then
        if ← truth control then pure (.shown control) else pure (.overlooked control)
      else pure .hidden) fun seen => .done seen.settled? := by
    intro control
    rw [displayed]
    split
    · rfl
    · simp only [bind_eq, bind_assoc]
      congr 1
      funext answer
      congr 1
      funext shown
      cases shown with
      | false => rfl
      | true =>
        simp only [if_true, bind_assoc]
        congr 1
        funext counts
        cases counts <;> rfl
  simp only [poll, look, bind_eq, bind_assoc]
  congr 1
  funext control
  exact hdisplayed control

end Prog

/-! ## Polls -/

/-- A poll that the wait does not settle for: it is soft, or it overlooks a control. -/
def Sight.Unsettled (seen : Except Raised Sight) : Prop := Sight.Soft seen ∨ Sight.Overlooked seen

/-- A poll shows a control, is not settled for, or ends with another fault. -/
theorem Sight.cases_of (seen : Except Raised Sight) :
    (∃ v, seen = .ok (.shown v)) ∨ Unsettled seen ∨ ∃ r, seen = .error r ∧ r.kind.isAbsence = false := by
  rcases seen with r | (_ | _ | v | v)
  · cases h : r.kind.isAbsence with
    | false => exact .inr (.inr ⟨r, rfl, h⟩)
    | true => exact .inr (.inl (.inl h))
  · exact .inr (.inl (.inl trivial))
  · exact .inr (.inl (.inl trivial))
  · exact .inr (.inl (.inr ⟨v, rfl⟩))
  · exact .inl ⟨v, rfl⟩

/-- Polls one after the other, none of which is settled for: before the deadline is over
the wait sleeps once after each, and then polls again. -/
inductive Polls (once : World → Result Sight) (deadline : Float) (interval : Value) : Nat → World → World → Prop where
  | none (w : World) : Polls once deadline interval 0 w w
  | again {n : Nat} {seen : Except Raised Sight} {w w₁ w' : World} :
      once w = (seen, w₁) → Sight.Unsettled seen → ¬ w₁.scene.clock > deadline →
      Polls once deadline interval n { w₁ with scene := (w₁.scene.sleep interval).2 } w' →
      Polls once deadline interval (n + 1) w w'

/-- What a wait comes to after its last poll: what is shown, the end of the time, or the
fault of the poll. -/
inductive Settles (deadline : Float) : (seen : Except Raised Sight) → World → Except Raised Value → Prop where
  | shown (v : Value) (w : World) : Settles deadline (.ok (.shown v)) w (.ok v)
  | late {seen : Except Raised Sight} {w : World} : Sight.Unsettled seen → w.scene.clock > deadline →
      Settles deadline seen w (.error { fault := .timedOut })
  | failed {r : Raised} (w : World) : r.kind.isAbsence = false → Settles deadline (.error r) w (.error r)

section

variable {once : World → Result Sight} {check : World → Result (Option Value)} {interval : Value}

/-- How a poll that settles for what is shown counts as a check. -/
theorem checked_of_unsettled {seen : Except Raised Sight} {w : World} (h : Sight.Unsettled seen) :
    checked (Prog.andThen (seen, w) fun seen w => (.ok seen.settled?, w)).1 = .ok none := by
  rcases seen with r | (_ | _ | v | v)
  · rcases h with h | ⟨v, hv⟩
    · have habsent : r.kind.isAbsence = true := h
      simp [checked, habsent]
    · cases hv
  · rfl
  · rfl
  · rfl
  · rcases h with h | ⟨v', hv⟩
    · cases h
    · cases hv

/-- A check that is repeated polls until it is settled.  It is cut off if it is not
settled by the last round. -/
theorem repeatCheck_polls (hcheck : ∀ w, check w = Prog.andThen (once w) fun seen w => (.ok seen.settled?, w))
    {x : Float} (hinterval : Scene.seconds? interval = .ok x) (deadline : Float) (n : Nat) (w : World) :
    (∃ w', Polls once deadline interval n w w' ∧
      repeatCheck deadline interval check n w = (.error { fault := .tooDeep }, w')) ∨
    ∃ m w' seen w'' r, m < n ∧ Polls once deadline interval m w w' ∧ once w' = (seen, w'') ∧
      Settles deadline seen w'' r ∧ repeatCheck deadline interval check n w = (r, w'') := by
  induction n generalizing w with
  | zero => exact .inl ⟨w, .none w, rfl⟩
  | succ n ih =>
    rcases honce : once w with ⟨seen, w₁⟩
    have hfirst : check w = Prog.andThen (seen, w₁) fun seen w => (.ok seen.settled?, w) := by rw [hcheck, honce]
    rcases Sight.cases_of seen with ⟨v, rfl⟩ | hunsettled | ⟨r, rfl, hr⟩
    · refine .inr ⟨0, w, _, w₁, .ok v, Nat.succ_pos n, .none w, honce, .shown v w₁, ?_⟩
      simp [repeatCheck, hfirst, Sight.settled?, checked]
    · have hworld : (check w).2 = w₁ := by
        rw [hfirst]
        rcases seen with r | seen <;> rfl
      have hchecked : checked (check w).1 = .ok none := by
        rw [hfirst]
        exact checked_of_unsettled hunsettled
      by_cases hlate : w₁.scene.clock > deadline
      · refine .inr ⟨0, w, seen, w₁, _, Nat.succ_pos n, .none w, honce, .late hunsettled hlate, ?_⟩
        simp only [repeatCheck, hchecked, hworld, hlate, if_true]
      · have hsleep : w₁.scene.sleep interval = (.ok .none, (w₁.scene.sleep interval).2) := by
          simp only [Scene.sleep, hinterval]
        have hrest : repeatCheck deadline interval check (n + 1) w =
            repeatCheck deadline interval check n { w₁ with scene := (w₁.scene.sleep interval).2 } := by
          rw [repeatCheck]
          simp only [hchecked, hworld, hlate, if_false]
          rw [hsleep]
        rw [hrest]
        rcases ih { w₁ with scene := (w₁.scene.sleep interval).2 } with
          ⟨w', hpolls, hcut⟩ | ⟨m, w', seen', w'', r, hm, hpolls, hlast, hsettles, hend⟩
        · exact .inl ⟨w', .again honce hunsettled hlate hpolls, hcut⟩
        · exact .inr ⟨m + 1, w', seen', w'', r, Nat.succ_lt_succ hm, .again honce hunsettled hlate hpolls, hlast,
            hsettles, hend⟩
    · refine .inr ⟨0, w, _, w₁, .error r, Nat.succ_pos n, .none w, honce, .failed w₁ hr, ?_⟩
      simp [repeatCheck, hfirst, checked, hr]

end

/-! ## Waits -/

/-- A number that can be read as a time can be shown in a message. -/
theorem Fault.waitingTimeFault?_of_isNumber {timeout : Value} {t : Float} (hnumber : timeout.isNumber = true)
    (ht : timeout.toFloat = .ok t) : waitingTimeFault? timeout = none := by
  cases timeout with
  | bool | float | nan => rfl
  | int n =>
    simp only [Value.toFloat] at ht
    split at ht
    · rename_i y hy
      simp [waitingTimeFault?, hy]
    · cases ht
  | _ => cases hnumber

namespace Prog

variable {caller : Caller} {rounds : Nat} {w : World} {id : Nat} {cls : ClassRef} {d : Definition}
  {e : ElementExpectation} {name : String} {t : Float} {browser : Value}

/-- To wait is to repeat a check. -/
theorem run_waitFor (p : Patience) (check : Prog (Option Value)) (w : World) :
    run caller rounds (waitFor p check) w =
      repeatCheck (w.scene.clock + p.timeout) p.interval (run caller rounds check) rounds w := by
  rw [waitFor, run]
  exact andThen_pure _

/-- A wait is a check that is repeated, of which the faults are looked at. -/
theorem run_waitForExpected (hd : w.scene.definition? cls = some d) (he : d.expectedElement = some e)
    (hname : e.name = .text name) (ht : e.timeout.toFloat = .ok t) (hevery : w.scene.member? cls everyName = none)
    (hbrowser : w.scene.field? id PageType.reservedField = some browser) {r : Except Raised Value} {w' : World}
    (hended : repeatCheck (w.scene.clock + t) (interval w.scene.settings)
      (run caller rounds (poll (.page id cls) cls name)) rounds w = (r, w')) :
    run caller rounds (waitForExpected (.page id cls) cls) w =
      match r with
      | .ok v => (.ok v, w')
      | .error r => run caller rounds (waitFault d.pageName e.name e.timeout r) w' := by
  have hword : e.name.word? = some name := by rw [hname]; rfl
  have hwaited : run caller rounds (outcome (waitFor ⟨t, interval w.scene.settings⟩
      (poll (.page id cls) cls name))) w = (.ok r, w') := by
    rw [run_outcome, run_waitFor, hended]
  rw [waitForExpected, bind_eq, definitionOf, bind_eq, bind_assoc, run_view_bind, hd, run_ofOption_some_bind, he]
  simp only
  rw [bind_eq, run_bind, run_browserOf hevery hbrowser, andThen_ok, ht, bind_eq, run_ofFault_ok_bind, bind_eq,
    run_view_bind, hword, bind_eq, run_ofOption_some_bind, bind_eq, run_bind, hwaited, andThen_ok]
  cases r <;> rfl

/-- The end of the time becomes the fault that the element was not present; any other
fault goes on. -/
theorem run_waitFault (htime : Fault.waitingTimeFault? e.timeout = none) (hname : e.name = .text name) (r : Raised)
    (w : World) :
    run caller rounds (waitFault d.pageName e.name e.timeout r) w =
      (.error (if r.kind = .timeout then
        { fault := .notPresent d.pageName (.ofText name) e.timeout, cause := some r.fault } else r), w) := by
  rw [waitFault]
  split
  · rw [hname, labelled_text, bind_eq, bind, Fault.absence, htime]
    rfl
  · rfl

end Prog

/-- What a wait for the expected element comes to.  However the accessor behaves, every
poll but the last is soft or overlooks a control, with one sleep after it, and the last
poll decides: what it shows is what the wait comes to; if the time is over after a poll
that is not settled for, or if a poll itself ends with the fault that a time is over, the
element was not present; any other fault is that of the wait.  Only a wait that is not
settled within the bound on the number of polls is cut off. -/
theorem wait_outcome (caller : Caller) (rounds : Nat) (w : World) (id : Nat) (cls : ClassRef) (name : String)
    {d : Definition} {e : ElementExpectation} {t x : Float} {browser : Value}
    (hd : w.scene.definition? cls = some d) (he : d.expectedElement = some e) (hname : e.name = .text name)
    (hnumber : e.timeout.isNumber = true) (ht : e.timeout.toFloat = .ok t)
    (hinterval : Scene.seconds? (Prog.interval w.scene.settings) = .ok x)
    (hevery : w.scene.member? cls everyName = none)
    (hbrowser : w.scene.field? id PageType.reservedField = some browser) :
    let once : World → Result Sight := (Prog.look (.page id cls) cls name).run caller rounds
    let deadline : Float := w.scene.clock + t
    let wait : Result Value := (Prog.waitForExpected (.page id cls) cls).run caller rounds w
    let absent (cause : Fault) : Raised :=
      { fault := .notPresent d.pageName (.ofText name) e.timeout, cause := some cause }
    (∃ w', Polls once deadline (Prog.interval w.scene.settings) rounds w w' ∧
      wait = (.error { fault := .tooDeep }, w')) ∨
    ∃ m w' seen w'', m < rounds ∧ Polls once deadline (Prog.interval w.scene.settings) m w w' ∧
      once w' = (seen, w'') ∧
      ((∃ v, seen = .ok (.shown v) ∧ wait = (.ok v, w'')) ∨
       ((Sight.Soft seen ∨ Sight.Overlooked seen) ∧ w''.scene.clock > deadline ∧
          wait = (.error (absent .timedOut), w'')) ∨
       (∃ r, seen = .error r ∧ r.kind = .timeout ∧ wait = (.error (absent r.fault), w'')) ∨
       ∃ r, seen = .error r ∧ r.kind.isAbsence = false ∧ r.kind ≠ .timeout ∧ wait = (.error r, w'')) := by
  intro once deadline wait absent
  have htime : Fault.waitingTimeFault? e.timeout = none := Fault.waitingTimeFault?_of_isNumber hnumber ht
  have hwait : ∀ {r w'}, repeatCheck deadline (Prog.interval w.scene.settings)
      ((Prog.poll (.page id cls) cls name).run caller rounds) rounds w = (r, w') →
      wait = (r.mapError fun r => if r.kind = .timeout then absent r.fault else r, w') := by
    intro r w' hended
    rw [show wait = _ from Prog.run_waitForExpected hd he hname ht hevery hbrowser hended]
    cases r with
    | error r => exact Prog.run_waitFault htime hname r w'
    | ok v => rfl
  have hcheck : ∀ w, (Prog.poll (.page id cls) cls name).run caller rounds w =
      Prog.andThen (once w) fun seen w => (.ok seen.settled?, w) := fun w => by
    rw [Prog.poll_eq_look, Prog.run_bind]
    rfl
  rcases repeatCheck_polls hcheck hinterval deadline rounds w with
    ⟨w', hpolls, hcut⟩ | ⟨m, w', seen, w'', r, hm, hpolls, hlast, hsettles, hend⟩
  · exact .inl ⟨w', hpolls, hwait hcut⟩
  · refine .inr ⟨m, w', seen, w'', hm, hpolls, hlast, ?_⟩
    have hcomes := hwait hend
    cases hsettles with
    | shown v => exact .inl ⟨v, rfl, hcomes⟩
    | late hunsettled hlate => exact .inr (.inl ⟨hunsettled, hlate, hcomes⟩)
    | @failed r _ hr =>
      by_cases htimeout : r.kind = .timeout
      · rw [Except.mapError, if_pos htimeout] at hcomes
        exact .inr (.inr (.inl ⟨r, rfl, htimeout, hcomes⟩))
      · rw [Except.mapError, if_neg htimeout] at hcomes
        exact .inr (.inr (.inr ⟨r, rfl, hr, htimeout, hcomes⟩))

/-! ## A page that waits -/

/-- The type of a page that expects a box. -/
def boxPage : ClassRef := ⟨1, "BoxPage"⟩

/-- A panel: a record that says of itself that it is displayed, and that it counts as false. -/
def panel : Value := .object 1 (some ⟨0, "Panel"⟩)

/-- What is done to define the page, which waits for a second and whose accessor gives a
control, and to make a page and the panel. -/
def boxPageDeeds (control : Value) : List Deed :=
  [.op (.addRecordType
    { name := "Panel", plain := true
      members := [("is_displayed", .method "is_displayed" 0), ("__bool__", .method "__bool__" 1)] }),
   .op (.addFunction (.request (.const (.bool true)))), .op (.addFunction (.request (.const (.bool false)))),
   .op (.addFunction (.request (.const control))),
   .op (.derive 0 (.ofText boxPage.name)),
   .op (.addPageType
    { name := boxPage.name, fullName := boxPage.name, bases := [rootType], lineage := [boxPage, rootType]
      definition := some 1 }),
   .op (.enter 1 (.element (.ofText "box") (.function 2))),
   .op (.enter 1 (.expectElement (.text "box") (.int 1))), .op (.lock 1),
   .op (.addInstance { fields := [(PageType.reservedField, .driver "browser")] }), .op (.addInstance {})]

/-- The world after that, with an element that is displayed when it is asked again. -/
def boxPageWorld (control : Value) : World :=
  ({ drivers := [("browser", {})], elements := [("box", { displayedAfter := .int 1 })] } : Setting).world.after
    (boxPageDeeds control)

/-- The wait for the element comes to what its last poll shows. -/
theorem boxPage_shown :
    ∃ m w' v w'', m < 4 ∧
      Polls ((Prog.look (.page 0 boxPage) boxPage "box").run (callAt 4 8) 4) (0 + 1) (.float 0.5) m
        (boxPageWorld (.element "box")) w' ∧
      (Prog.look (.page 0 boxPage) boxPage "box").run (callAt 4 8) 4 w' = (.ok (.shown v), w'') ∧
      (Prog.waitForExpected (.page 0 boxPage) boxPage).run (callAt 4 8) 4 (boxPageWorld (.element "box")) =
        (.ok v, w'') := by
  have hanswer : ((Prog.waitForExpected (.page 0 boxPage) boxPage).run (callAt 4 8) 4
      (boxPageWorld (.element "box"))).1.toBool = true := by decide +kernel
  have hfails : ∀ {r w'}, (Prog.waitForExpected (.page 0 boxPage) boxPage).run (callAt 4 8) 4
      (boxPageWorld (.element "box")) ≠ (.error r, w') := fun h => by
    rw [h] at hanswer
    cases hanswer
  rcases wait_outcome (callAt 4 8) 4 (boxPageWorld (.element "box")) 0 boxPage "box" rfl rfl rfl rfl rfl rfl rfl rfl with
    ⟨w', -, hcut⟩ | ⟨m, w', seen, w'', hm, hpolls, hlast, hdecides⟩
  · exact absurd hcut hfails
  · rcases hdecides with ⟨v, rfl, hwait⟩ | ⟨-, -, hwait⟩ | ⟨r, -, -, hwait⟩ | ⟨r, -, -, -, hwait⟩
    · exact ⟨m, w', v, w'', hm, hpolls, hlast, hwait⟩
    · exact absurd hwait hfails
    · exact absurd hwait hfails
    · exact absurd hwait hfails

/-- A panel that is displayed but counts as false is overlooked by every poll, and the
wait for it fails. -/
example : Sight.Overlooked ((Prog.look (.page 0 boxPage) boxPage "box").run (callAt 4 8) 4 (boxPageWorld panel)).1 ∧
    ((Prog.waitForExpected (.page 0 boxPage) boxPage).run (callAt 4 8) 4 (boxPageWorld panel)).1.toBool = false := by
  decide +kernel

end PageObjects
