import PageObjects.Proofs.Program.Answers
import PageObjects.Proofs.Scene.Parts

/-!
# What runs leave behind

A relation between worlds that no operation and no call breaks relates the world
before a run to the world after it.  In particular nothing that has been noted is
forgotten within a run: events are only ever added.

Main definitions:

- `Lasting`: a preorder of worlds that no operation breaks.
- `Caller.Respects`: calls lead from a world to a related one.
- `World.Retains`: all that was noted is still noted.

Main results:

- Theorem `Prog.run_related`: every run leads from a world to a related one, if calls do.
- Theorem `callAt_retains`, `Prog.run_retains`: calls and runs retain all events.
-/

namespace PageObjects

/-- A preorder of worlds that no operation breaks, nor a line that is logged. -/
structure Lasting (R : World → World → Prop) : Prop where
  refl : ∀ w, R w w
  trans : ∀ {w w' w''}, R w w' → R w' w'' → R w w''
  op : ∀ {β : Type} (o : Op β) (w : World), R w (o.run w).2
  journal : ∀ (w : World) (j : Log.Journal), R w { w with journal := j }

/-- Calls lead from a world to a related one. -/
def Caller.Respects (caller : Caller) (R : World → World → Prop) : Prop :=
  ∀ f args named w, R w (caller f args named w).2

section Related

variable {R : World → World → Prop} {caller : Caller} {rounds : Nat}

/-- Going on after a part of a run leads to a related world, if both parts do. -/
theorem Lasting.andThen (hR : Lasting R) {α β : Type} {w : World} {r : Result α} {next : α → World → Result β}
    (hr : R w r.2) (hnext : ∀ a w, R w (next a w).2) : R w (Prog.andThen r next).2 := by
  rcases r with ⟨_ | a, w'⟩
  · exact hr
  · exact hR.trans hr (hnext a w')

/-- To ask for texts leads to a related world, if calls do. -/
theorem Asking.run_related (hR : Lasting R) (hcaller : caller.Respects R) {α : Type} (p : Asking α) (w : World) :
    R w (p.run caller w).2 := by
  induction p generalizing w with
  | done a => exact hR.refl w
  | fail fault => exact hR.refl w
  | look f next ih => exact ih _ w
  | call f args next ih => exact hR.andThen (hcaller f args [] w) ih

/-- To log a line leads to a related world, if calls do. -/
theorem tell_related (hR : Lasting R) (hcaller : caller.Respects R) (e : Log.Entry) (mark : Option Log.Mark)
    (w : World) : R w (tell caller e mark w).2 := by
  have htail : R w (e.tail caller w).2 := by
    unfold Log.Entry.tail
    split
    · exact Asking.run_related hR hcaller _ w
    · exact hR.refl w
  unfold tell
  split
  · exact hR.andThen htail fun tail w' => hR.journal w' _
  · exact hR.refl w

/-- A phase leads to a related world, if its body and calls do. -/
theorem Phase.around_related (hR : Lasting R) (hcaller : caller.Respects R) {α : Type} (p : Phase)
    {body : World → Result α} (hbody : ∀ w, R w (body w).2) (w : World) : R w (p.around caller body w).2 := by
  have htold : ∀ (w : World) e mark (answer : Except Raised α),
      R w (Prog.andThen (tell caller e mark w) fun _ w => (answer, w)).2 := fun w e mark answer =>
    hR.andThen (tell_related hR hcaller e mark w) fun _ w => hR.refl w
  have hfinish : ∀ limit start (r : Result α), R r.2 (p.finish caller limit start r).2 := by
    rintro limit start ⟨_ | a, w⟩
    · simp only [finish]
      split
      · exact htold _ _ _ _
      · exact hR.refl _
    · simp only [finish]
      split
      · exact htold _ _ _ _
      · exact hR.refl _
  simp only [around]
  split
  · exact hR.andThen (tell_related hR hcaller _ _ w) fun _ w' => hR.trans (hbody w') (hfinish _ _ _)
  · exact hR.refl _

/-- A check that is repeated leads to a related world, if one check does. -/
theorem repeatCheck_related (hR : Lasting R) (deadline : Float) (interval : Value)
    {check : World → Result (Option Value)} (hcheck : ∀ w, R w (check w).2) (n : Nat) (w : World) :
    R w (repeatCheck deadline interval check n w).2 := by
  induction n generalizing w with
  | zero => exact hR.refl w
  | succ n ih =>
    have hfirst : R w (check w).2 := hcheck w
    simp only [repeatCheck]
    generalize check w = r at hfirst
    obtain ⟨answer, w'⟩ := r
    simp only at hfirst ⊢
    rcases checked answer with fault | (_ | v)
    · exact hfirst
    · simp only
      split
      · exact hfirst
      · have hsleep : R w' { w' with scene := (w'.scene.sleep interval).2 } := hR.op (.sleep interval) w'
        rcases hs : w'.scene.sleep interval with ⟨_ | v, s⟩
        · rw [hs] at hsleep
          exact hR.trans hfirst hsleep
        · rw [hs] at hsleep
          exact hR.trans hfirst (hR.trans hsleep (ih _))
    · exact hfirst

/-- A run leads to a related world, if calls do. -/
theorem Prog.run_related (hR : Lasting R) (hcaller : caller.Respects R) {α : Type} (p : Prog α) (w : World) :
    R w (p.run caller rounds w).2 := by
  induction p generalizing w with
  | done a => exact hR.refl w
  | fail r => exact hR.refl w
  | perform op next ih => exact hR.trans (hR.op op w) (ih _ _)
  | invoke f args named next ih => exact hR.andThen (hcaller f args named w) ih
  | tell e next ih => exact hR.andThen (tell_related hR hcaller e none w) fun _ => ih
  | attempt body next ihbody ih => exact hR.trans (ihbody w) (ih _ _)
  | phase p body next ihbody ih => exact hR.andThen (p.around_related hR hcaller ihbody w) ih
  | await p check next ihcheck ih => exact hR.andThen (repeatCheck_related hR _ _ ihcheck rounds w) ih

/-- Calls lead to related worlds. -/
theorem callAt_respects (hR : Lasting R) (rounds depth : Nat) : (callAt rounds depth).Respects R := by
  induction depth with
  | zero => exact fun _ _ _ w => hR.refl w
  | succ depth ih => exact fun f args named w => Prog.run_related hR ih _ w

end Related

/-! ## Events -/

/-- All that was noted is still noted, before anything else. -/
def World.Retains (w w' : World) : Prop := w.scene.events <:+ w'.scene.events

namespace Scene

/-- Letting time pass is noted. -/
theorem sleep_events (s : Scene) (seconds : Value) :
    (s.sleep seconds).2.events = .sleep seconds :: s.events := by
  simp only [sleep]
  split <;> rfl

/-- What is noted when a driver goes to an address: the address, and the time that
loading takes, if it takes any. -/
theorem visit_events {s : Scene} {driver : String} {d : Driver} (h : s.drivers.lookup driver = some d)
    (address : Value) :
    (s.visit driver address).2.events =
      (if s.truthy d.loading then [.sleep d.loading] else []) ++ .visit driver address :: s.events := by
  have htruthy : (s.note (.visit driver address)).truthy d.loading = s.truthy d.loading := by
    cases d.loading <;> rfl
  simp only [visit, h, htruthy]
  by_cases hloading : s.truthy d.loading = true
  · simp only [hloading, if_true]
    split <;> exact sleep_events _ _
  · simp only [hloading]
    split <;> rfl

end Scene

/-- Operations retain all events. -/
theorem Op.run_retains {β : Type} (o : Op β) (w : World) : w.Retains (o.run w).2 := (o.run_touches w).events

/-- What has been noted lasts. -/
theorem World.retains_lasting : Lasting World.Retains where
  refl _ := List.suffix_rfl
  trans h h' := List.IsSuffix.trans h h'
  op o w := o.run_retains w
  journal _ _ := List.suffix_rfl

/-- Calls retain all events. -/
theorem callAt_retains (rounds depth : Nat) : (callAt rounds depth).Respects World.Retains :=
  callAt_respects World.retains_lasting rounds depth

/-- Runs retain all events, if calls do. -/
theorem Prog.run_retains {caller : Caller} {rounds : Nat} (hcaller : caller.Respects World.Retains) {α : Type}
    (p : Prog α) (w : World) : w.Retains (p.run caller rounds w).2 :=
  p.run_related World.retains_lasting hcaller w

end PageObjects
