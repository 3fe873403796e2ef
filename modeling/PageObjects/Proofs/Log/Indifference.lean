import PageObjects.Proofs.Log.Constructions

/-!
# What is logged makes no difference

Two runs that start in worlds which differ in their logging policies only come to the
same.  This is shown for runs in worlds that are alike: they have the same scene, and
what has been logged differs as far as the policies say.  Operations, lines and phases
leave such worlds alike, and so do all runs, as long as nothing reads what has been
logged, and the texts that lines show are found without anything else being done: they
are looked for only if the line is logged.

Main definitions:

- `Log.passing`: what a mode leaves of records.
- `Op.isHeedless`, `Chronicle.Heedless`: nothing sets the policy or reads what was logged.
- `World.Alike`, `StepReport.Alike`: what may differ under two policies.

Main results:

- Theorem `World.Alike.perform`: heedless operations leave worlds alike.
- Theorem `Prog.run_alike`, `callAt_indifferent`: so do runs and calls.
- Theorem `logging_indifferent`: what scripts come to under two policies.
-/

namespace PageObjects

namespace Log

/-- How much a mode logs. -/
def Mode.rank : Mode → Nat
  | .live => 0
  | .debug => 1
  | .trace => 2

/-- What passes in a mode passes in the modes that log more. -/
theorem Gate.opens_mono {g : Gate} {m m' : Mode} (h : m.rank ≤ m'.rank) (hopens : g.opens m = true) :
    g.opens m' = true := by
  revert h hopens
  cases g <;> cases m <;> cases m' <;> decide

/-- What a mode leaves of records: live mode leaves out the diagnostics and the traces, and
debug mode the traces. -/
def passing : Mode → List Record → List Record
  | .live, records => records.filter fun r => r.gate == .signal
  | .debug, records => records.filter fun r => r.gate != .trace
  | .trace, records => records

/-- What it leaves are the records that it opens for. -/
theorem passing_eq (m : Mode) (records : List Record) :
    passing m records = records.filter fun r => r.gate.opens m := by
  cases m with
  | live => exact List.filter_congr fun r _ => by cases r.gate <;> rfl
  | debug => exact List.filter_congr fun r _ => by cases r.gate <;> rfl
  | trace =>
    refine (List.filter_eq_self.mpr fun r _ => ?_).symm
    cases r.gate <;> rfl

@[simp] theorem passing_nil (m : Mode) : passing m [] = [] := by rw [passing_eq, List.filter_nil]

theorem passing_cons_of_opens {m : Mode} {r : Record} (h : r.gate.opens m = true) (records : List Record) :
    passing m (r :: records) = r :: passing m records := by
  rw [passing_eq, passing_eq]
  exact List.filter_cons_of_pos h

theorem passing_cons_of_not_opens {m : Mode} {r : Record} (h : ¬ r.gate.opens m = true) (records : List Record) :
    passing m (r :: records) = passing m records := by
  rw [passing_eq, passing_eq]
  exact List.filter_cons_of_neg h

theorem passing_reverse (m : Mode) (records : List Record) :
    passing m records.reverse = (passing m records).reverse := by
  rw [passing_eq, passing_eq, List.filter_reverse]

namespace Journal

variable {j : Journal} {place : List String}

theorem deliver_outlets (r : Record) (j : Journal) (o : Outlet) : (deliver r j o).outlets = j.outlets := by
  cases o <;> simp only [deliver]
  split <;> rfl

theorem foldl_deliver_outlets (r : Record) (os : List Outlet) (j : Journal) :
    (os.foldl (deliver r) j).outlets = j.outlets := by
  induction os generalizing j with
  | nil => rfl
  | cons o os ih => rw [List.foldl_cons, ih, deliver_outlets]

/-- Logging leaves the outlets as they are. -/
theorem write_outlets (j : Journal) (r : Record) : (j.write r).outlets = j.outlets := by
  unfold write
  split
  · exact foldl_deliver_outlets _ _ _
  · rfl

/-- What is delivered elsewhere leaves the text of a file as it is. -/
theorem foldl_deliver_fileText (r : Record) {os : List Outlet} (h : .file place ∉ os) (j : Journal) :
    (os.foldl (deliver r) j).fileText place = j.fileText place := by
  induction os generalizing j with
  | nil => rfl
  | cons o os ih =>
    have hfirst : (deliver r j o).fileText place = j.fileText place := by
      cases o with
      | console level =>
        simp only [deliver]
        split <;> rfl
      | file other =>
        have hne : place ≠ other := fun heq => h (heq ▸ List.mem_cons_self)
        simp [deliver, fileText, Assoc.lookup_put, hne]
    rw [List.foldl_cons, ih fun hm => h (List.mem_cons_of_mem _ hm), hfirst]

/-- Logging leaves the text of a file as it is, if it is no outlet. -/
theorem write_fileText (h : .file place ∉ j.outlets) (r : Record) :
    (j.write r).fileText place = j.fileText place := by
  unfold write
  split
  · exact foldl_deliver_fileText _ h _
  · rfl

end Journal

end Log

/-- Whether an operation neither sets the policy nor reads what has been logged; files of
the log are at `logs`. -/
def Op.isHeedless {β : Type} (logs : List (List String)) : Op β → Bool
  | .setPolicy _ => false
  | .consoleText => false
  | .fileText place => !logs.contains place
  | .openLogFile place => logs.contains place
  | _ => true

/-- Whether what happens, if it is an operation, is heedless. -/
def Happening.isHeedless (logs : List (List String)) : Happening → Bool
  | .performed o => o.isHeedless logs
  | _ => true

/-- All operations that happen are heedless. -/
def Chronicle.Heedless (logs : List (List String)) (c : Chronicle) : Prop :=
  ∀ h ∈ c.happenings, h.isHeedless logs = true

/-! ## Worlds -/

/-- Two worlds are alike that differ in their policies and in what has been logged; what
has been logged may be read at `logs` only. -/
structure World.Alike (logs : List (List String)) (p p' : Log.Policy) (w w' : World) : Prop where
  scene : w'.scene = w.scene
  policy : w.journal.policy = p
  policy' : w'.journal.policy = p'
  outlets : w'.journal.outlets = w.journal.outlets
  places : ∀ place, .file place ∈ w.journal.outlets → place ∈ logs
  texts : ∀ place, place ∉ logs → w'.journal.fileText place = w.journal.fileText place
  records : p.includeContext = p'.includeContext → p.mode.rank ≤ p'.mode.rank →
    w.journal.records = Log.passing p.mode w'.journal.records

variable {logs : List (List String)} {p p' : Log.Policy} {w w' : World}

/-- A world in which a line has been logged whose text has been found, if it is logged. -/
def World.told (w : World) (e : Log.Entry) (mark : Option Log.Mark) (tail : String) : World :=
  if e.gate.opens w.journal.policy.mode then w.keep (e.recordWith mark tail) else w

section Told

variable (w : World) (e : Log.Entry) (mark : Option Log.Mark) (tail : String)

/-- A line that is logged leaves the scene as it is. -/
theorem World.told_scene : (w.told e mark tail).scene = w.scene := by
  unfold told
  split <;> rfl

theorem World.told_policy : (w.told e mark tail).journal.policy = w.journal.policy := by
  unfold told
  split
  · exact Log.Journal.write_policy _ _
  · rfl

theorem World.told_outlets : (w.told e mark tail).journal.outlets = w.journal.outlets := by
  unfold told
  split
  · exact Log.Journal.write_outlets _ _
  · rfl

theorem World.told_fileText {place : List String} (h : .file place ∉ w.journal.outlets) :
    (w.told e mark tail).journal.fileText place = w.journal.fileText place := by
  unfold told
  split
  · exact Log.Journal.write_fileText h _
  · rfl

/-- A line that is logged leaves its record, if its weight is high enough. -/
theorem World.told_records : (w.told e mark tail).journal.records =
    if e.gate.opens w.journal.policy.mode = true ∧ Log.lowestLevel ≤ e.level then
      e.recordWith mark tail :: w.journal.records else w.journal.records := by
  unfold told
  by_cases hopens : e.gate.opens w.journal.policy.mode = true
  · simp only [hopens, if_true, true_and]
    exact Log.Journal.write_records _ _
  · simp only [hopens, Bool.false_eq_true, if_false, false_and]

end Told

namespace World.Alike

/-- Worlds stay alike when a line is logged, if its text is the same where both show it. -/
theorem told (h : World.Alike logs p p' w w') (e : Log.Entry) (mark : Option Log.Mark) {tail tail' : String}
    (htail : p.includeContext = p'.includeContext → e.gate.opens p.mode = true → e.gate.opens p'.mode = true →
      tail' = tail) : World.Alike logs p p' (w.told e mark tail) (w'.told e mark tail') where
  scene := by rw [told_scene, told_scene, h.scene]
  policy := by rw [told_policy, h.policy]
  policy' := by rw [told_policy, h.policy']
  outlets := by rw [told_outlets, told_outlets, h.outlets]
  places := by
    rw [told_outlets]
    exact h.places
  texts place hplace := by
    have hfree : .file place ∉ w.journal.outlets := fun hm => hplace (h.places place hm)
    have hfree' : .file place ∉ w'.journal.outlets := h.outlets ▸ hfree
    rw [told_fileText _ _ _ _ hfree, told_fileText _ _ _ _ hfree', h.texts place hplace]
  records hcontext hmode := by
    rw [told_records, told_records, h.policy, h.policy']
    by_cases hopens : e.gate.opens p.mode = true
    · have hopens' := Log.Gate.opens_mono hmode hopens
      rw [htail hcontext hopens hopens']
      by_cases hlevel : Log.lowestLevel ≤ e.level
      · rw [if_pos ⟨hopens, hlevel⟩, if_pos ⟨hopens', hlevel⟩, h.records hcontext hmode]
        exact (Log.passing_cons_of_opens hopens _).symm
      · rw [if_neg fun h => hlevel h.2, if_neg fun h => hlevel h.2]
        exact h.records hcontext hmode
    · rw [if_neg fun h => hopens h.1, h.records hcontext hmode]
      split
      · exact (Log.passing_cons_of_not_opens hopens _).symm
      · rfl

/-- Worlds that are alike do not differ in what an operation does that looks at the scene
only, and leaves the log as it is. -/
theorem aside (h : World.Alike logs p p' w w') {β : Type} {r r' : β × World} (hanswer : r'.1 = r.1)
    (hscene : r'.2.scene = r.2.scene) (hjournal : r.2.journal = w.journal) (hjournal' : r'.2.journal = w'.journal) :
    r'.1 = r.1 ∧ World.Alike logs p p' r.2 r'.2 :=
  ⟨hanswer, {
    scene := hscene
    policy := hjournal ▸ h.policy
    policy' := hjournal' ▸ h.policy'
    outlets := by rw [hjournal, hjournal', h.outlets]
    places := hjournal ▸ h.places
    texts := by rw [hjournal, hjournal']; exact h.texts
    records := by rw [hjournal, hjournal']; exact h.records }⟩

/-- Worlds that are alike do not differ in what a change of a definition does. -/
theorem change (h : World.Alike logs p p' w w') (definition : Nat) (f : Definition → Declared) :
    (w'.change definition f).1 = (w.change definition f).1 ∧
      World.Alike logs p p' (w.change definition f).2 (w'.change definition f).2 := by
  unfold World.change
  rw [h.scene]
  cases w.scene.definitions[definition]? with
  | none => exact ⟨rfl, h⟩
  | some d => exact h.aside rfl rfl rfl rfl

theorem update (h : World.Alike logs p p' w w') (definition : Nat) (f : Definition → Definition) :
    (w'.update definition f).1 = (w.update definition f).1 ∧
      World.Alike logs p p' (w.update definition f).2 (w'.update definition f).2 := by
  unfold World.update
  rw [h.scene]
  cases w.scene.definitions[definition]? with
  | none => exact ⟨rfl, h⟩
  | some d => exact h.aside rfl rfl rfl rfl

/-- Outlets may be set up anew, if those that are files are at the places of the log. -/
theorem setUp (h : World.Alike logs p p' w w') {s : Scene} {j j' : Log.Journal}
    (hpolicy : j.policy = w.journal.policy) (hpolicy' : j'.policy = w'.journal.policy)
    (hrecords : j.records = w.journal.records) (hrecords' : j'.records = w'.journal.records)
    (houtlets : j'.outlets = j.outlets) (hplaces : ∀ place, .file place ∈ j.outlets → place ∈ logs)
    (htexts : ∀ place, place ∉ logs → j'.fileText place = j.fileText place) :
    World.Alike logs p p' { scene := s, journal := j } { scene := s, journal := j' } where
  scene := rfl
  policy := hpolicy.trans h.policy
  policy' := hpolicy'.trans h.policy'
  outlets := houtlets
  places := hplaces
  texts := htexts
  records := by
    show _ → _ → j.records = Log.passing p.mode j'.records
    rw [hrecords, hrecords']
    exact h.records

/-- Worlds that are alike do not differ in what a heedless operation does. -/
theorem perform (h : World.Alike logs p p' w w') {β : Type} (o : Op β) (ho : o.isHeedless logs = true) :
    (o.run w').1 = (o.run w).1 ∧ World.Alike logs p p' (o.run w).2 (o.run w').2 := by
  cases o with
  | setPolicy q => cases ho
  | consoleText => cases ho
  | fileText place => exact ⟨h.texts place (by simpa [Op.isHeedless] using ho), h⟩
  | openConsole verbose =>
    refine ⟨rfl, ?_⟩
    simp only [Op.run, World.setJournal]
    rw [show w'.scene = w.scene from h.scene]
    exact h.setUp rfl rfl rfl rfl rfl (fun place hm => by simp [Log.Journal.setConsole] at hm) h.texts
  | openLogFile place =>
    have hplace : place ∈ logs := by simpa [Op.isHeedless] using ho
    refine ⟨rfl, ?_⟩
    simp only [Op.run, World.openLogFile]
    rw [show w'.scene = w.scene from h.scene]
    refine h.setUp rfl rfl rfl rfl (congrArg (· ++ _) h.outlets) (fun other hm => ?_) fun other hother => ?_
    · rcases List.mem_append.mp hm with hm | hm
      · exact h.places other hm
      · obtain rfl : other = place := by simpa using hm
        exact hplace
    · have hne : other ≠ place := fun heq => hother (heq ▸ hplace)
      have htext : ∀ j : Log.Journal, (j.addFile place).fileText other = j.fileText other := by
        intro j
        simp [Log.Journal.addFile, Log.Journal.fileText, Assoc.lookup_put, hne]
      rw [htext, htext]
      exact h.texts other hother
  | declare definition facts d =>
    have hfacts := h.change definition fun d' => d'.declare facts d
    exact hfacts
  | enter definition e => exact h.change definition fun d => d.declareEntry e
  | lock definition => exact h.update definition _
  | writeTable definition name value => exact h.update definition _
  | _ =>
    obtain ⟨s, j⟩ := w
    obtain ⟨s', j'⟩ := w'
    obtain rfl : s' = s := h.scene
    exact h.aside rfl rfl rfl rfl

end World.Alike

/-! ## Runs -/

namespace Chronicle

theorem heedless_append {c c' : Chronicle} : (c ++ c').Heedless logs ↔ c.Heedless logs ∧ c'.Heedless logs := by
  simp only [Heedless, happenings_append, List.forall_mem_append]

theorem heedless_node {h : Happening} {inside rest : Chronicle} :
    (node h inside rest).Heedless logs ↔
      h.isHeedless logs = true ∧ inside.Heedless logs ∧ rest.Heedless logs := by
  simp only [Heedless, happenings, List.forall_mem_cons, List.forall_mem_append]

/-- What happens in two runs neither sets the policy nor depends on what is logged. -/
structure Calm (logs : List (List String)) (c c' : Chronicle) : Prop where
  heedless : c.Heedless logs
  unmoved : c.Unmoved
  unmoved' : c'.Unmoved

namespace Calm

variable {c c' d d' : Chronicle}

theorem first (h : Calm logs (c ++ d) (c' ++ d')) : Calm logs c c' :=
  ⟨(heedless_append.mp h.heedless).1, (unmoved_append.mp h.unmoved).1, (unmoved_append.mp h.unmoved').1⟩

theorem second (h : Calm logs (c ++ d) (c' ++ d')) : Calm logs d d' :=
  ⟨(heedless_append.mp h.heedless).2, (unmoved_append.mp h.unmoved).2, (unmoved_append.mp h.unmoved').2⟩

variable {a b : Happening}

theorem inside (h : Calm logs (.node a c d) (.node b c' d')) : Calm logs c c' :=
  ⟨(heedless_node.mp h.heedless).2.1, (unmoved_node.mp h.unmoved).2.1, (unmoved_node.mp h.unmoved').2.1⟩

theorem rest (h : Calm logs (.node a c d) (.node b c' d')) : Calm logs d d' :=
  ⟨(heedless_node.mp h.heedless).2.2, (unmoved_node.mp h.unmoved).2.2, (unmoved_node.mp h.unmoved').2.2⟩

end Calm

end Chronicle

open Chronicle (following)

/-- Two runs end alike: with the same answer, in worlds that are alike. -/
def EndAlike (logs : List (List String)) (p p' : Log.Policy) {α : Type} (r r' : Result α) : Prop :=
  r'.1 = r.1 ∧ World.Alike logs p p' r.2 r'.2

/-- What two runs go on with is alike if what each of them goes on with is. -/
theorem EndAlike.andThen {α β : Type} {r r' : Result α} (h : EndAlike logs p p' r r')
    {run : α → World → Result β} {next : α → World → Chronicle}
    (hcalm : Chronicle.Calm logs (following r next) (following r' next))
    (hnext : ∀ a w w', World.Alike logs p p' w w' → Chronicle.Calm logs (next a w) (next a w') →
      EndAlike logs p p' (run a w) (run a w')) :
    EndAlike logs p p' (Prog.andThen r run) (Prog.andThen r' run) := by
  obtain ⟨answer, w⟩ := r
  obtain ⟨answer', w'⟩ := r'
  obtain ⟨hanswer, hworld⟩ := h
  obtain rfl : answer' = answer := hanswer
  cases answer' with
  | error fault => exact ⟨rfl, hworld⟩
  | ok a => exact hnext a w w' hworld hcalm

/-- Calls end alike in worlds that are alike, if what happens in them is calm. -/
def Caller.Indifferent (caller : Caller) (called : CallChronicle) (logs : List (List String))
    (p p' : Log.Policy) : Prop :=
  ∀ f args named w w', World.Alike logs p p' w w' →
    Chronicle.Calm logs (called f args named w) (called f args named w') →
      EndAlike logs p p' (caller f args named w) (caller f args named w')

section Lines

variable {caller : Caller} {called : CallChronicle}

/-- To ask for texts ends alike in worlds that are alike, if calls do. -/
theorem Asking.run_alike (hcaller : caller.Indifferent called logs p p') {α : Type} (q : Asking α) {w w' : World}
    (h : World.Alike logs p p' w w')
    (hcalm : Chronicle.Calm logs (q.chronicle caller called w) (q.chronicle caller called w')) :
    EndAlike logs p p' (q.run caller w) (q.run caller w') := by
  induction q generalizing w w' with
  | done a => exact ⟨rfl, h⟩
  | fail fault => exact ⟨rfl, h⟩
  | look f next ih =>
    have hrest := hcalm.rest
    simp only [run]
    rw [h.scene] at hrest ⊢
    exact ih _ h hrest
  | call f args next ih => exact (hcaller f args [] w w' h hcalm.inside).andThen hcalm.rest fun v _ _ => ih v

/-- A line whose text is found without anything else being done is logged, if it is. -/
theorem tell_of_unmoved {e : Log.Entry} {w : World} (h : (tellChronicle caller called e w).Unmoved) :
    ∃ tail, (e.gate.opens w.journal.policy.mode = true → e.tail caller w = (.ok tail, w)) ∧
      ∀ mark, tell caller e mark w = (.ok (), w.told e mark tail) := by
  by_cases hopens : e.gate.opens w.journal.policy.mode = true
  · rw [tellChronicle, if_pos hopens] at h
    obtain ⟨tail, htail⟩ := (Chronicle.unmoved_node.mp h).1 _ rfl
    refine ⟨tail, fun _ => htail, fun mark => ?_⟩
    rw [tell, World.told, if_pos hopens, if_pos hopens, show e.tail caller w = (.ok tail, w) from htail]
    rfl
  · refine ⟨"", fun h => absurd h hopens, fun mark => ?_⟩
    rw [tell, World.told, if_neg hopens, if_neg hopens]

variable (hcaller : caller.Indifferent called logs p p')

include hcaller

/-- The text of a line is the same in worlds that are alike, if both show it. -/
theorem Log.Entry.tail_alike {e : Log.Entry} (h : World.Alike logs p p' w w')
    (hcontext : p.includeContext = p'.includeContext) (hopens : e.gate.opens p.mode = true)
    (hopens' : e.gate.opens p'.mode = true)
    (hcalm : Chronicle.Calm logs (tellChronicle caller called e w) (tellChronicle caller called e w')) :
    (e.tail caller w').1 = (e.tail caller w).1 := by
  rw [← h.policy] at hopens hcontext
  rw [← h.policy'] at hopens' hcontext
  rw [tellChronicle, tellChronicle, if_pos hopens, if_pos hopens'] at hcalm
  have hinside := hcalm.inside
  simp only [tailChronicle, tail, ← hcontext] at hinside ⊢
  split
  · rename_i hincluded
    rw [if_pos hincluded, if_pos hincluded] at hinside
    exact (Asking.run_alike hcaller _ h hinside).1
  · rfl

/-- Lines whose texts are found without anything else being done leave worlds alike. -/
theorem tell_alike (h : World.Alike logs p p' w w') {e : Log.Entry}
    (hcalm : Chronicle.Calm logs (tellChronicle caller called e w) (tellChronicle caller called e w'))
    (mark : Option Log.Mark) : ∃ w₁ w₁', tell caller e mark w = (.ok (), w₁) ∧ tell caller e mark w' = (.ok (), w₁') ∧
      World.Alike logs p p' w₁ w₁' := by
  obtain ⟨tail, htail, htell⟩ := tell_of_unmoved hcalm.unmoved
  obtain ⟨tail', htail', htell'⟩ := tell_of_unmoved hcalm.unmoved'
  refine ⟨_, _, htell mark, htell' mark, h.told e mark fun hcontext hopens hopens' => ?_⟩
  have hsame := Log.Entry.tail_alike hcaller h hcontext hopens hopens' hcalm
  rw [htail (h.policy ▸ hopens), htail' (h.policy' ▸ hopens')] at hsame
  exact Except.ok.inj hsame

/-- A line leaves worlds alike, after which a run ends as it does before. -/
theorem told_alike (h : World.Alike logs p p' w w') {e : Log.Entry}
    (hcalm : Chronicle.Calm logs (tellChronicle caller called e w) (tellChronicle caller called e w'))
    (mark : Option Log.Mark) {α : Type} (answer : Except Raised α) :
    EndAlike logs p p' (Prog.andThen (tell caller e mark w) fun _ w => (answer, w))
      (Prog.andThen (tell caller e mark w') fun _ w => (answer, w)) := by
  obtain ⟨w₁, w₁', htell, htell', hworld⟩ := tell_alike hcaller h hcalm mark
  rw [htell, htell']
  exact ⟨rfl, hworld⟩

/-- Phases end alike in worlds that are alike, if their bodies do. -/
theorem Phase.finish_alike (p₀ : Phase) (limit : Value) (start : Float) {α : Type} {r r' : Result α}
    (h : EndAlike logs p p' r r')
    (hcalm : Chronicle.Calm logs (p₀.closingChronicle caller called limit start r)
      (p₀.closingChronicle caller called limit start r')) :
    EndAlike logs p p' (p₀.finish caller limit start r) (p₀.finish caller limit start r') := by
  obtain ⟨answer, w⟩ := r
  obtain ⟨answer', w'⟩ := r'
  obtain ⟨hanswer, hworld⟩ := h
  obtain rfl : answer' = answer := hanswer
  have hclock : w'.scene.clock = w.scene.clock := congrArg Scene.clock hworld.scene
  cases answer' with
  | error fault =>
    simp only [closingChronicle, finish, hclock] at hcalm ⊢
    split
    · rename_i hadmits
      rw [if_pos hadmits, if_pos hadmits] at hcalm
      exact told_alike hcaller hworld hcalm _ _
    · exact ⟨rfl, hworld⟩
  | ok a =>
    simp only [closingChronicle, finish, hclock] at hcalm ⊢
    cases hreaches : reaches (w.scene.clock - start) limit with
    | ok slow =>
      simp only [hreaches] at hcalm ⊢
      exact told_alike hcaller hworld hcalm _ _
    | error fault => exact ⟨rfl, hworld⟩

/-- Phases end alike in worlds that are alike, if their bodies do. -/
theorem Phase.around_alike (p₀ : Phase) {α : Type} {body : World → Result α} {inside : World → Chronicle}
    (hbody : ∀ w w', World.Alike logs p p' w w' → Chronicle.Calm logs (inside w) (inside w') →
      EndAlike logs p p' (body w) (body w'))
    (h : World.Alike logs p p' w w')
    (hcalm : Chronicle.Calm logs (p₀.chronicle caller called body inside w)
      (p₀.chronicle caller called body inside w')) :
    EndAlike logs p p' (p₀.around caller body w) (p₀.around caller body w') := by
  by_cases hadmits : admits p₀.fullContext [] = true
  · simp only [Phase.chronicle, if_pos hadmits] at hcalm
    have hafter := hcalm.second
    obtain ⟨w₁, w₁', htell, htell', hopened⟩ := tell_alike hcaller h hcalm.first (some p₀.openingMark)
    rw [htell, htell'] at hafter
    have hinner := hbody w₁ w₁' hopened hafter.inside.first
    have hsettings : w'.scene.settings = w.scene.settings := congrArg Scene.settings h.scene
    have hclock : w'.scene.clock = w.scene.clock := congrArg Scene.clock h.scene
    have hclosing := hafter.inside.second
    simp only [around, if_pos hadmits, htell, htell', Prog.andThen_ok, hsettings, hclock] at hclosing ⊢
    exact finish_alike hcaller p₀ _ _ hinner hclosing
  · simp only [around, if_neg hadmits]
    exact ⟨rfl, h⟩

end Lines

/-- Checks that are repeated end alike in worlds that are alike, if one check does. -/
theorem repeatCheck_alike (deadline : Float) (interval : Value) {check : World → Result (Option Value)}
    {once : World → Chronicle}
    (hcheck : ∀ w w', World.Alike logs p p' w w' → Chronicle.Calm logs (once w) (once w') →
      EndAlike logs p p' (check w) (check w'))
    (n : Nat) (h : World.Alike logs p p' w w')
    (hcalm : Chronicle.Calm logs (repeatChronicle deadline interval check once n w)
      (repeatChronicle deadline interval check once n w')) :
    EndAlike logs p p' (repeatCheck deadline interval check n w) (repeatCheck deadline interval check n w') := by
  induction n generalizing w w' with
  | zero => exact ⟨rfl, h⟩
  | succ n ih =>
    simp only [repeatChronicle] at hcalm
    have hfirst := hcheck w w' h hcalm.first
    have hafter := hcalm.second
    simp only [repeatCheck]
    generalize check w = r at hfirst hafter ⊢
    generalize check w' = r' at hfirst hafter ⊢
    obtain ⟨answer, w₁⟩ := r
    obtain ⟨answer', w₁'⟩ := r'
    obtain ⟨hanswer, hworld⟩ := hfirst
    obtain rfl : answer' = answer := hanswer
    have hclock : w₁'.scene.clock = w₁.scene.clock := congrArg Scene.clock hworld.scene
    simp only at hafter ⊢
    generalize checked answer' = verdict at hafter ⊢
    rcases verdict with fault | (_ | v)
    · exact ⟨rfl, hworld⟩
    · simp only [hclock] at hafter ⊢
      by_cases hlate : w₁.scene.clock > deadline
      · rw [if_pos hlate, if_pos hlate]
        exact ⟨rfl, hworld⟩
      · rw [if_neg hlate, if_neg hlate] at hafter
        rw [if_neg hlate, if_neg hlate]
        have hslept := hworld.perform (.sleep interval) rfl
        have hrest := hafter.rest
        simp only [Op.run, World.withScene] at hslept hrest ⊢
        generalize w₁.scene.sleep interval = slept at hslept hrest ⊢
        generalize w₁'.scene.sleep interval = slept' at hslept hrest ⊢
        obtain ⟨answer₂, s⟩ := slept
        obtain ⟨answer₂', s'⟩ := slept'
        obtain ⟨hanswer₂, hworld₂⟩ := hslept
        obtain rfl : answer₂' = answer₂ := hanswer₂
        cases answer₂' with
        | error fault => exact ⟨rfl, hworld₂⟩
        | ok v => exact ih hworld₂ hrest
    · exact ⟨rfl, hworld⟩

/-- Runs end alike in worlds that are alike, if calls do. -/
theorem Prog.run_alike {caller : Caller} {called : CallChronicle} {rounds : Nat}
    (hcaller : caller.Indifferent called logs p p') {α : Type} (q : Prog α) {w w' : World}
    (h : World.Alike logs p p' w w')
    (hcalm : Chronicle.Calm logs (q.chronicle caller called rounds w) (q.chronicle caller called rounds w')) :
    EndAlike logs p p' (q.run caller rounds w) (q.run caller rounds w') := by
  induction q generalizing w w' with
  | done a => exact ⟨rfl, h⟩
  | fail r => exact ⟨rfl, h⟩
  | perform op next ih =>
    obtain ⟨hanswer, hworld⟩ := h.perform op (Chronicle.heedless_node.mp hcalm.heedless).1
    have hrest := hcalm.rest
    simp only [run]
    rw [hanswer] at hrest ⊢
    exact ih _ hworld hrest
  | invoke f args named next ih =>
    exact (hcaller f args named w w' h hcalm.inside).andThen hcalm.rest fun v _ _ => ih v
  | tell e next ih =>
    obtain ⟨w₁, w₁', htell, htell', hworld⟩ := tell_alike hcaller h hcalm.first none
    have hrest := hcalm.second
    rw [htell, htell'] at hrest
    simp only [run, htell, htell', andThen_ok]
    exact ih hworld hrest
  | attempt body next ihbody ih =>
    obtain ⟨hanswer, hworld⟩ := ihbody h hcalm.first
    have hrest := hcalm.second
    simp only [run]
    rw [hanswer] at hrest ⊢
    exact ih _ hworld hrest
  | phase p₀ body next ihbody ih =>
    have hphase := p₀.around_alike hcaller (fun _ _ => ihbody) h hcalm.first
    exact hphase.andThen hcalm.second fun b _ _ => ih b
  | await p₀ check next ihcheck ih =>
    have hclock : w'.scene.clock = w.scene.clock := congrArg Scene.clock h.scene
    have hchecks := hcalm.first
    have hrest := hcalm.second
    rw [hclock] at hchecks hrest
    have hends := repeatCheck_alike _ p₀.interval (fun _ _ => ihcheck) rounds h hchecks
    simp only [run, hclock]
    exact hends.andThen hrest fun v _ _ => ih v

/-- Calls end alike in worlds that are alike. -/
theorem callAt_indifferent (rounds depth : Nat) :
    (callAt rounds depth).Indifferent (callChronicle rounds depth) logs p p' := by
  induction depth with
  | zero => exact fun _ _ _ w w' h _ => ⟨rfl, h⟩
  | succ depth ih => exact fun f args named w w' h hcalm => Prog.run_alike ih _ h hcalm

/-! ## Scripts -/

/-- Two reports of a step are alike under two policies. -/
structure StepReport.Alike (p p' : Log.Policy) (r r' : StepReport) : Prop where
  answer : r'.answer = r.answer
  events : r'.events = r.events
  scene : r'.scene = r.scene
  records : p.includeContext = p'.includeContext → p.mode.rank ≤ p'.mode.rank →
    r.records = Log.passing p.mode r'.records

/-- A step is reported alike in worlds that are alike, and leaves them alike. -/
theorem runStep_alike (step : Step) (h : World.Alike logs p p' w w')
    (hcalm : Chronicle.Calm logs (step.chronicle w) (step.chronicle w')) :
    StepReport.Alike p p' (runStep step w).1 (runStep step w').1 ∧
      World.Alike logs p p' (runStep step w).2 (runStep step w').2 := by
  have hrenewed : World.Alike logs p p' w.renewed w'.renewed :=
    { scene := congrArg (fun s : Scene => { s with events := [] }) h.scene
      policy := h.policy
      policy' := h.policy'
      outlets := h.outlets
      places := h.places
      texts := h.texts
      records := fun _ _ => (Log.passing_nil p.mode).symm }
  obtain ⟨hanswer, hworld⟩ :=
    Prog.run_alike (callAt_indifferent usualRounds usualDepth) (Prog.ofStep step) hrenewed hcalm
  refine ⟨⟨hanswer, ?_, hworld.scene, fun hcontext hmode => ?_⟩, hworld⟩
  · exact congrArg (fun s : Scene => s.events.reverse) hworld.scene
  · exact (congrArg List.reverse (hworld.records hcontext hmode)).trans (Log.passing_reverse _ _).symm

/-- A script is reported alike in worlds that are alike. -/
theorem runScript_alike (steps : List Step) (h : World.Alike logs p p' w w')
    (hcalm : Chronicle.Calm logs (scriptChronicle steps w) (scriptChronicle steps w')) :
    List.Forall₂ (StepReport.Alike p p') (runScript id steps w) (runScript id steps w') := by
  induction steps generalizing w w' with
  | nil => exact .nil
  | cons step rest ih =>
    obtain ⟨hreport, hworld⟩ := runStep_alike step h hcalm.first
    exact .cons hreport (ih hworld hcalm.second)

/-- A world under a policy. -/
def World.under (w : World) (p : Log.Policy) : World := { w with journal := { w.journal with policy := p } }

/-- Under any two policies, a script that neither sets the policy nor reads what has been
logged comes to the same, does the same, and leaves the same behind, as long as the texts
that lines show are found, and nothing else is done to find them.  If both policies show
the contexts of lines or none does, what is logged under one of them is what passes in its
mode among what is logged under the other, if that one logs more. -/
theorem logging_indifferent (steps : List Step) (w : World) (p p' : Log.Policy) (logs : List (List String))
    (hplaces : ∀ place, .file place ∈ w.journal.outlets → place ∈ logs)
    (hheedless : (scriptChronicle steps (w.under p)).Heedless logs)
    (hunmoved : (scriptChronicle steps (w.under p)).Unmoved)
    (hunmoved' : (scriptChronicle steps (w.under p')).Unmoved) :
    List.Forall₂ (StepReport.Alike p p') (runScript id steps (w.under p)) (runScript id steps (w.under p')) := by
  have halike : World.Alike logs p p' (w.under p).renewed (w.under p').renewed :=
    { scene := rfl
      policy := rfl
      policy' := rfl
      outlets := rfl
      places := hplaces
      texts := fun _ _ => rfl
      records := fun _ _ => (Log.passing_nil p.mode).symm }
  cases steps with
  | nil => exact .nil
  | cons step rest =>
    -- the first step starts with nothing reported, whatever there was before
    have hcalm : Chronicle.Calm logs (scriptChronicle (step :: rest) (w.under p).renewed)
        (scriptChronicle (step :: rest) (w.under p').renewed) := ⟨hheedless, hunmoved, hunmoved'⟩
    have hreports := runScript_alike (step :: rest) halike hcalm
    exact hreports

/-! ## Scripts under two policies -/

/-- Steps that log a diagnostic and a trace, and construct two pages, the first of which
has no address. -/
def notingSteps : List Step :=
  [{ expr := .request (.diagnostic (.text "looked up") (.text "DISPATCH") []) },
   { expr := .request (.trace (.text "handed on") (.text "DISPATCH") []) },
   constructing "Page" (.const (.bool true)), constructing "HomePage" (.const (.bool true))]

/-- The policy of a mode that shows no contexts. -/
def curtPolicy (mode : Log.Mode) : Log.Policy := { mode, includeContext := false }

/-- Where lines show no contexts, nothing is done to find their texts. -/
theorem Chronicle.Unmoved.of_told {c : Chronicle} (h : ∃ ws : List World, c.told = ws.map fun w => (w, .ok "", w)) :
    c.Unmoved := by
  obtain ⟨ws, hws⟩ := h
  intro t ht
  rw [hws] at ht
  obtain ⟨w, -, rfl⟩ := List.mem_map.mp ht
  exact ⟨"", rfl⟩

/-- The steps come to the same under the policies that log least and most. -/
theorem notingSteps_indifferent :
    (∀ place, .file place ∈ (flagWorld {}).journal.outlets → place ∈ ([] : List (List String))) ∧
    (scriptChronicle notingSteps ((flagWorld {}).under (curtPolicy .live))).Heedless [] ∧
    (scriptChronicle notingSteps ((flagWorld {}).under (curtPolicy .live))).Unmoved ∧
    (scriptChronicle notingSteps ((flagWorld {}).under (curtPolicy .trace))).Unmoved ∧
    List.Forall₂ (StepReport.Alike (curtPolicy .live) (curtPolicy .trace))
      (runScript id notingSteps ((flagWorld {}).under (curtPolicy .live)))
      (runScript id notingSteps ((flagWorld {}).under (curtPolicy .trace))) := by
  have hplaces : ∀ place, .file place ∈ (flagWorld {}).journal.outlets → place ∈ ([] : List (List String)) :=
    fun place hplace => absurd hplace List.not_mem_nil
  have hheedless : (scriptChronicle notingSteps ((flagWorld {}).under (curtPolicy .live))).Heedless [] := by
    show ∀ h ∈ _, _ = true
    decide +kernel
  have hlive : (scriptChronicle notingSteps ((flagWorld {}).under (curtPolicy .live))).Unmoved := by
    have htold : ∃ ws : List World, (scriptChronicle notingSteps ((flagWorld {}).under (curtPolicy .live))).told =
        ws.map fun w => (w, .ok "", w) := by
      with_unfolding_all exact ⟨[_, _, _, _, _], rfl⟩
    exact .of_told htold
  have htrace : (scriptChronicle notingSteps ((flagWorld {}).under (curtPolicy .trace))).Unmoved := by
    have htold : ∃ ws : List World, (scriptChronicle notingSteps ((flagWorld {}).under (curtPolicy .trace))).told =
        ws.map fun w => (w, .ok "", w) := by
      with_unfolding_all exact ⟨[_, _, _, _, _, _, _], rfl⟩
    exact .of_told htold
  exact ⟨hplaces, hheedless, hlive, htrace,
    logging_indifferent notingSteps (flagWorld {}) _ _ [] hplaces hheedless hlive htrace⟩

/-- A page is constructed with a flag that fails to give its text, if lines show no
contexts, and is not if they do. -/
theorem flagWorld_different :
    (runStep (constructing "HomePage" (.held "flag")) ((flagWorld {}).under (curtPolicy .live))).1.answer.isOk = true ∧
    (runStep (constructing "HomePage" (.held "flag")) ((flagWorld {}).under {})).1.answer.isOk = false := by
  constructor <;> decide +kernel

end PageObjects
