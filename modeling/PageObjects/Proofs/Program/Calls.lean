import PageObjects.Proofs.Program.Chronicle
import PageObjects.Proofs.Program.Traces

/-!
# The calls of a run

Calls are made in runs, in calls, in phases, while something is waited for and when the
texts of lines are found.  All of them come to what they come to by themselves, and the
world before each of them is one to which the run has led.

Main definitions:

- `Chronicle.parts`: all that happens, with what happens inside of it.
- `Chronicle.Calling`: something holds of all calls that happen.
- `IsCall`: what calls come to, and what happens in them.

Main results:

- Theorem `Prog.chronicle_calling`: what holds of calls holds of those that happen in a run.
- Theorem `scriptChronicle_calling`: the calls that happen in a script are calls.
-/

namespace PageObjects

namespace Chronicle

/-- All that happens, also inside of other things, each with what happens inside of it. -/
def parts : Chronicle → List (Happening × Chronicle)
  | .done => []
  | .node h inside rest => (h, inside) :: (inside.parts ++ rest.parts)

@[simp] theorem parts_append (c c' : Chronicle) : (c ++ c').parts = c.parts ++ c'.parts := by
  induction c with
  | done => rfl
  | node h inside rest _ ih => simp only [node_append, parts, ih, List.cons_append, List.append_assoc]

/-- What happens with something inside of it happens. -/
theorem mem_happenings {c : Chronicle} {h : Happening} {inside : Chronicle} (hmem : (h, inside) ∈ c.parts) :
    h ∈ c.happenings := by
  induction c with
  | done => exact absurd hmem List.not_mem_nil
  | node first within rest ihwithin ihrest =>
    rcases List.mem_cons.mp hmem with heq | hmem
    · cases heq
      exact List.mem_cons_self
    · refine List.mem_cons_of_mem _ (List.mem_append.mpr ?_)
      exact (List.mem_append.mp hmem).imp ihwithin ihrest

/-- Something holds of all calls that happen, with what they come to and what happens in them. -/
def Calling (P : Value → List Value → Named → World → Result Value → Chronicle → Prop) (c : Chronicle) : Prop :=
  ∀ f args named before r inside, (.called f args named before r, inside) ∈ c.parts → P f args named before r inside

variable {P : Value → List Value → Named → World → Result Value → Chronicle → Prop} {c c' : Chronicle}

theorem calling_done : Chronicle.done.Calling P := fun _ _ _ _ _ _ h => absurd h List.not_mem_nil

theorem Calling.append (h : c.Calling P) (h' : c'.Calling P) : (c ++ c').Calling P := by
  intro f args named before r inside hmem
  rw [parts_append] at hmem
  rcases List.mem_append.mp hmem with hmem | hmem
  · exact h f args named before r inside hmem
  · exact h' f args named before r inside hmem

/-- What is no call itself may have calls inside of it. -/
theorem Calling.node {h : Happening} (hh : ∀ f args named before r, h ≠ .called f args named before r)
    (hc : c.Calling P) (hc' : c'.Calling P) : (Chronicle.node h c c').Calling P := by
  intro f args named before r inside hmem
  rcases List.mem_cons.mp hmem with heq | hmem
  · exact absurd (congrArg Prod.fst heq).symm (hh f args named before r)
  · exact hc.append hc' f args named before r inside (by rwa [parts_append])

/-- A call may have calls inside of it. -/
theorem Calling.call {f : Value} {args : List Value} {named : Named} {before : World} {r : Result Value}
    (h : P f args named before r c) (hc : c.Calling P) (hc' : c'.Calling P) :
    (Chronicle.node (.called f args named before r) c c').Calling P := by
  intro f args named before r inside hmem
  rcases List.mem_cons.mp hmem with heq | hmem
  · cases heq
    exact h
  · exact hc.append hc' f args named before r inside (by rwa [parts_append])

/-- What follows a part of a run makes calls only if that part has an answer. -/
theorem Calling.following {α : Type} {r : Result α} {next : α → World → Chronicle} {R : World → World → Prop}
    {w : World} (hr : R w r.2) (hnext : ∀ a w', R w w' → (next a w').Calling P) :
    (Chronicle.following r next).Calling P := by
  rcases r with ⟨_ | a, w'⟩
  · exact calling_done
  · exact hnext a w' hr

end Chronicle

open Chronicle (following calling_done)

section Calling

variable {P : Value → List Value → Named → World → Result Value → Chronicle → Prop} {R : World → World → Prop}
  {caller : Caller} {called : CallChronicle} {rounds : Nat} {w₀ w : World}

/-- Something holds of all calls that are made in worlds to which a run leads, and of those inside of them. -/
def Caller.Calling (caller : Caller) (called : CallChronicle) (R : World → World → Prop) (w₀ : World)
    (P : Value → List Value → Named → World → Result Value → Chronicle → Prop) : Prop :=
  ∀ f args named w, R w₀ w →
    P f args named w (caller f args named w) (called f args named w) ∧ (called f args named w).Calling P

variable (hR : Lasting R) (hcaller : caller.Respects R) (hcalls : caller.Calling called R w₀ P)

include hR hcaller hcalls

/-- What holds of calls holds of those that are made when texts are asked for. -/
theorem Asking.chronicle_calling {α : Type} (p : Asking α) (hw : R w₀ w) :
    (p.chronicle caller called w).Calling P := by
  induction p generalizing w with
  | done a => exact calling_done
  | fail fault => exact calling_done
  | look f next ih => exact .node (fun _ _ _ _ _ => by simp) calling_done (ih _ hw)
  | call f args next ih =>
    obtain ⟨hcall, hinside⟩ := hcalls f args [] w hw
    exact .call hcall hinside
      (.following (hR.trans hw (hcaller f args [] w)) fun v w' hw' => ih v hw')

/-- What holds of calls holds of those that are made when a line is logged. -/
theorem tellChronicle_calling (e : Log.Entry) (hw : R w₀ w) : (tellChronicle caller called e w).Calling P := by
  unfold tellChronicle
  split
  · refine .node (fun _ _ _ _ _ => by simp) ?_ calling_done
    unfold Log.Entry.tailChronicle
    split
    · exact Asking.chronicle_calling hR hcaller hcalls _ hw
    · exact calling_done
  · exact calling_done

/-- What holds of calls holds of those that are made at the end of a phase. -/
theorem Phase.closingChronicle_calling {α : Type} (p : Phase) (limit : Value) (start : Float) {r : Result α}
    (hr : R w₀ r.2) : (p.closingChronicle caller called limit start r).Calling P := by
  obtain ⟨_ | a, w'⟩ := r
  · simp only [closingChronicle]
    split
    · exact tellChronicle_calling hR hcaller hcalls _ hr
    · exact calling_done
  · simp only [closingChronicle]
    split
    · exact tellChronicle_calling hR hcaller hcalls _ hr
    · exact calling_done

/-- What holds of calls holds of those that are made in a phase, if it holds of those in its body. -/
theorem Phase.chronicle_calling {α : Type} (p : Phase) {body : World → Result α} {inside : World → Chronicle}
    (hbody : ∀ w, R w (body w).2) (hinside : ∀ w, R w₀ w → (inside w).Calling P) (hw : R w₀ w) :
    (p.chronicle caller called body inside w).Calling P := by
  unfold Phase.chronicle
  split
  · refine .append (tellChronicle_calling hR hcaller hcalls _ hw) ?_
    refine .following (hR.trans hw (tell_related hR hcaller _ _ w)) fun _ w' hw' => ?_
    have hclosing := Phase.closingChronicle_calling hR hcaller hcalls p (p.limit w.scene.settings) w.scene.clock
      (hR.trans hw' (hbody w'))
    exact .node (fun _ _ _ _ _ => by simp) ((hinside w' hw').append hclosing) calling_done
  · exact calling_done

omit hcaller hcalls in
/-- What holds of calls holds of those that are made in a check that is repeated, if it holds
of those in one check. -/
theorem repeatChronicle_calling (deadline : Float) (interval : Value) {check : World → Result (Option Value)}
    {once : World → Chronicle} (hcheck : ∀ w, R w (check w).2) (honce : ∀ w, R w₀ w → (once w).Calling P) (n : Nat)
    (hw : R w₀ w) : (repeatChronicle deadline interval check once n w).Calling P := by
  induction n generalizing w with
  | zero => exact calling_done
  | succ n ih =>
    have hfirst : R w₀ (check w).2 := hR.trans hw (hcheck w)
    refine .append (honce w hw) ?_
    split
    · split
      · exact calling_done
      · refine .node (fun _ _ _ _ _ => by simp) calling_done ?_
        exact .following (hR.trans hfirst (hR.op (.sleep interval) _)) fun _ w' hw' => ih hw'
    · exact calling_done

/-- What holds of calls holds of those that are made in a run. -/
theorem Prog.chronicle_calling {α : Type} (p : Prog α) (hw : R w₀ w) :
    (p.chronicle caller called rounds w).Calling P := by
  induction p generalizing w with
  | done a => exact calling_done
  | fail r => exact calling_done
  | perform op next ih =>
    exact .node (fun _ _ _ _ _ => by simp) calling_done (ih _ (hR.trans hw (hR.op op w)))
  | invoke f args named next ih =>
    obtain ⟨hcall, hinside⟩ := hcalls f args named w hw
    exact .call hcall hinside (.following (hR.trans hw (hcaller f args named w)) fun v w' hw' => ih v hw')
  | tell e next ih =>
    exact .append (tellChronicle_calling hR hcaller hcalls e hw)
      (.following (hR.trans hw (tell_related hR hcaller e none w)) fun _ w' hw' => ih hw')
  | attempt body next ihbody ih =>
    exact .append (ihbody hw) (ih _ (hR.trans hw (body.run_related hR hcaller w)))
  | phase p body next ihbody ih =>
    have hbody : ∀ w, R w (body.run caller rounds w).2 := body.run_related hR hcaller
    exact .append (p.chronicle_calling hR hcaller hcalls hbody (fun w hw => ihbody hw) hw)
      (.following (hR.trans hw (p.around_related hR hcaller hbody w)) fun b w' hw' => ih b hw')
  | await p check next ihcheck ih =>
    have hcheck : ∀ w, R w (check.run caller rounds w).2 := check.run_related hR hcaller
    exact .append (repeatChronicle_calling hR _ _ hcheck (fun w hw => ihcheck hw) rounds hw)
      (.following (hR.trans hw (repeatCheck_related hR _ _ hcheck rounds w)) fun v w' hw' => ih v hw')

end Calling

/-! ## Scripts -/

/-- What a call comes to, and what happens in it, in a world to which a run leads. -/
def IsCall (R : World → World → Prop) (w₀ : World) (rounds : Nat) (f : Value) (args : List Value) (named : Named)
    (before : World) (r : Result Value) (inside : Chronicle) : Prop :=
  R w₀ before ∧ ∃ depth, r = callAt rounds depth f args named before ∧ inside = callChronicle rounds depth f args named before

variable {R : World → World → Prop} {w₀ : World}

/-- The calls that happen in calls are calls. -/
theorem callAt_calling (hR : Lasting R) (rounds depth : Nat) :
    (callAt rounds depth).Calling (callChronicle rounds depth) R w₀ (IsCall R w₀ rounds) := by
  induction depth with
  | zero => exact fun f args named w hw => ⟨⟨hw, 0, rfl, rfl⟩, calling_done⟩
  | succ depth ih =>
    exact fun f args named w hw => ⟨⟨hw, depth + 1, rfl, rfl⟩,
      Prog.chronicle_calling hR (callAt_respects hR rounds depth) ih _ hw⟩

/-- The calls that happen in a script are calls, if what is forgotten between its steps does not matter. -/
theorem scriptChronicle_calling (hR : Lasting R) (hrenewed : ∀ w : World, R w w.renewed) (steps : List Step) {w : World}
    (hw : R w₀ w) : (scriptChronicle steps w).Calling (IsCall R w₀ usualRounds) := by
  induction steps generalizing w with
  | nil => exact calling_done
  | cons step rest ih =>
    have hcaller := callAt_respects hR usualRounds usualDepth
    have hstart : R w₀ w.renewed := hR.trans hw (hrenewed w)
    refine .append (Prog.chronicle_calling hR hcaller (callAt_calling hR _ _) _ hstart) (ih ?_)
    exact hR.trans hstart ((Prog.ofStep step).run_related hR hcaller w.renewed)

end PageObjects
