import PageObjects.Proofs.Control.Typing

/-!
# Runs beside each other

Two runs that start where some elements are the same come to the same, as long as they use
no other elements: they end with the same answer or the same fault, and leave these elements
the same.  Neither touches anything else on the page.

Main definitions:

- `World.Since`: nothing has changed but the page and the log.
- `Prog.Standing`: programs that change nothing, and always come to the same.
- `World.Confined`: nothing has changed but some elements.
- `World.Beside`: worlds in which some elements are the same.
- `Prog.Twins`: programs that come to the same beside each other.

Main results:

- Theorem `Prog.Twins.bind`: programs that go on.
- Theorem `Prog.twins_use` and `Prog.twins_log`: uses of an element, and lines of the log.
-/

namespace PageObjects

open Prog

/-! ## What is there all the time -/

/-- Since a world nothing has changed but the elements, their trace and what has been logged.
There may be more instances. -/
structure World.Since (w w' : World) : Prop where
  surroundings : w'.scene.surroundings = w.scene.surroundings
  instances : w.scene.instances <+: w'.scene.instances
  policy : w'.journal.policy = w.journal.policy

/-- Values that are no mappings of instances still to be made. -/
def Value.MadeIn (v : Value) (s : Scene) : Prop := ∀ i, v = .mapping (.fields i) → i < s.instances.length

namespace World.Since

variable {w w' w'' : World}

theorem refl (w : World) : w.Since w := ⟨rfl, List.prefix_rfl, rfl⟩

theorem trans (h : w.Since w') (h' : w'.Since w'') : w.Since w'' :=
  ⟨h'.surroundings.trans h.surroundings, h.instances.trans h'.instances, h'.policy.trans h.policy⟩

theorem cells (h : w.Since w') : w'.scene.cells = w.scene.cells := by
  show w'.scene.surroundings.cells = w.scene.surroundings.cells
  rw [h.surroundings]

theorem readNamed (h : w.Since w') (v : Value) : w'.scene.readNamed v = w.scene.readNamed v := by
  show w'.scene.surroundings.readNamed v = w.scene.surroundings.readNamed v
  rw [h.surroundings]

/-- What instances keep that were there stays as it is. -/
theorem fieldsOf (h : w.Since w') {i : Nat} (hi : i < w.scene.instances.length) :
    w'.scene.fieldsOf i = w.scene.fieldsOf i := Scene.fieldsOf_of_prefix h.instances hi

/-- What a mapping consists of stays as it is. -/
theorem entriesAt (h : w.Since w') {place : Place} (hplace : (Value.mapping place).MadeIn w.scene) :
    w'.scene.entriesAt place = w.scene.entriesAt place := by
  have hdefinitions : w'.scene.surroundings.definitions = w.scene.surroundings.definitions := by rw [h.surroundings]
  have hcatalogs : w'.scene.surroundings.catalogs = w.scene.surroundings.catalogs := by rw [h.surroundings]
  simp only [Scene.surroundings] at hdefinitions hcatalogs
  cases place with
  | fields i => simp only [Scene.entriesAt, h.fieldsOf (hplace i rfl)]
  | _ => simp only [Scene.entriesAt, hdefinitions, hcatalogs]

/-- What a value gives one by one stays as it is. -/
theorem members? (h : w.Since w') {v : Value} (hv : v.MadeIn w.scene) : w'.scene.members? v = w.scene.members? v := by
  cases v with
  | mapping place => simp only [Scene.members?, Scene.entries?, h.entriesAt hv, h.cells]
  | _ => simp only [Scene.members?, Scene.entries?, h.cells]

theorem truthy (h : w.Since w') {v : Value} (hv : v.MadeIn w.scene) : w'.scene.truthy v = w.scene.truthy v := by
  cases v with
  | mapping place => simp only [Scene.truthy, h.entriesAt hv]
  | _ => simp only [Scene.truthy, h.cells]

/-- To log a record changes nothing else. -/
theorem keep (w : World) (r : Log.Record) : w.Since (w.keep r) := ⟨rfl, List.prefix_rfl, Log.Journal.write_policy _ _⟩

end World.Since

/-- A program changes nothing, and comes to the same as long as only the page changes. -/
def Prog.Standing (caller : Caller) (rounds : Nat) (w₀ : World) {α : Type} (p : Prog α) : Prop :=
  ∃ r, ∀ w, w₀.Since w → p.run caller rounds w = (r, w)

section Standing

variable {caller : Caller} {rounds : Nat} {w₀ w : World} {v f : Value}

/-- What is data counts as true or not all the time. -/
theorem standing_truth (h : instanceOf? v = none) (hv : v.MadeIn w₀.scene) :
    (truth v).Standing caller rounds w₀ :=
  ⟨.ok (w₀.scene.truthy v), fun w hw => by rw [run_truth h, hw.truthy hv]⟩

theorem standing_truth_text (t : String) : (truth (.text t)).Standing caller rounds w₀ :=
  standing_truth rfl fun _ h => nomatch h

theorem standing_truth_none : (truth .none).Standing caller rounds w₀ := standing_truth rfl fun _ h => nomatch h

theorem standing_truth_bool (b : Bool) : (truth (.bool b)).Standing caller rounds w₀ := ⟨.ok b, fun _ _ => rfl⟩

/-- Words are shown the same all the time. -/
theorem standing_word (h : v.word?.isSome = true) :
    (shown v).Standing caller rounds w₀ ∧ (inspected v).Standing caller rounds w₀ := by
  have hdepth : Cells.depthLimit = 959 + 1 := rfl
  cases v with
  | text t | toggle t | bindingKind k =>
    refine ⟨⟨_, fun _ _ => rfl⟩, ?_⟩
    rw [inspected, Asking.inspected, Showing.inspect, hdepth]
    unfold Showing.inspectAt
    exact ⟨_, fun _ _ => rfl⟩
  | _ => cases h

variable {ctx : Log.Context}

/-- If lines show their contexts, the values of a context give their texts all the time. -/
def Log.Context.Standing (caller : Caller) (rounds : Nat) (w₀ : World) (ctx : Log.Context) : Prop :=
  w₀.journal.policy.includeContext = true → ∀ e ∈ ctx, (Prog.formatted e.2).Standing caller rounds w₀

/-- What is plain is shown the same all the time. -/
theorem Log.Context.Plain.standing (h : ctx.Plain) : ctx.Standing caller rounds w₀ := by
  intro _ e he
  rw [formatted, Asking.formatted_of_plain (h e he)]
  exact ⟨_, fun _ _ => rfl⟩

/-- The texts of such values are found, or not, in the same way all the time. -/
theorem standing_fields (h : ∀ e ∈ ctx, (Prog.formatted e.2).Standing caller rounds w₀) :
    ∃ r, ∀ w, w₀.Since w → (Asking.fields ctx).run caller w = (r, w) := by
  induction ctx with
  | nil => exact ⟨.ok [], fun _ _ => rfl⟩
  | cons e es ih =>
    obtain ⟨name, v⟩ := e
    obtain ⟨first, hfirst⟩ := h (name, v) List.mem_cons_self
    obtain ⟨others, hothers⟩ := ih fun e he => h e (List.mem_cons_of_mem _ he)
    simp only [formatted, run_prog] at hfirst
    cases first with
    | error r =>
      refine ⟨.error r, fun w hw => ?_⟩
      rw [Asking.fields, Asking.bind_eq, Asking.run_bind, hfirst w hw, andThen_error]
    | ok t =>
      refine ⟨others.map fun ts => Log.Context.field name t :: ts, fun w hw => ?_⟩
      rw [Asking.fields, Asking.bind_eq, Asking.run_bind, hfirst w hw, andThen_ok, Asking.bind_eq, Asking.run_bind,
        hothers w hw]
      cases others <;> rfl

/-- The text of such a context comes to the same all the time. -/
theorem standing_tail {e : Log.Entry} (h : e.context.Standing caller rounds w₀) :
    ∃ r, ∀ w, w₀.Since w → e.tail caller w = (r, w) := by
  by_cases hincluded : w₀.journal.policy.includeContext = true
  · obtain ⟨r, hr⟩ := standing_fields fun entry hentry => h hincluded entry (Log.Context.mem_of_mem_shown hentry)
    refine ⟨r.map Log.Context.joined, fun w hw => ?_⟩
    rw [Log.Entry.tail, hw.policy, if_pos hincluded, Asking.context, Asking.bind_eq, Asking.run_bind, hr w hw]
    cases r <;> rfl
  · exact ⟨.ok "", fun w hw => by rw [Log.Entry.tail, hw.policy, if_neg hincluded]⟩

/-- A line with such values comes to the same all the time, and changes nothing but the log. -/
theorem tell_standing {e : Log.Entry} (h : e.context.Standing caller rounds w₀) :
    ∃ r, ∀ w, w₀.Since w → ∃ w', tell caller e none w = (r, w') ∧ w'.scene = w.scene ∧ w.Since w' := by
  obtain ⟨tail, htail⟩ := standing_tail h
  by_cases hopens : e.gate.opens w₀.journal.policy.mode = true
  · refine ⟨tail.map fun _ => (), fun w hw => ?_⟩
    rw [tell, hw.policy, if_pos hopens, htail w hw]
    cases tail with
    | error r => exact ⟨w, rfl, rfl, .refl w⟩
    | ok t => exact ⟨_, rfl, rfl, .keep w _⟩
  · refine ⟨.ok (), fun w hw => ⟨w, ?_, rfl, .refl w⟩⟩
    rw [tell, hw.policy, if_neg hopens]

end Standing

/-! ## Worlds beside each other -/

/-- Nothing has changed but some elements, their trace and what has been logged. -/
structure World.Confined (names : List String) (w w' : World) : Prop extends w.Since w' where
  others : ∀ n, n ∉ names → w'.scene.elements.lookup n = w.scene.elements.lookup n

namespace World.Confined

variable {names : List String} {w w' w'' : World}

theorem refl (names : List String) (w : World) : w.Confined names w := ⟨.refl w, fun _ _ => rfl⟩

theorem trans (h : w.Confined names w') (h' : w'.Confined names w'') : w.Confined names w'' :=
  ⟨h.toSince.trans h'.toSince, fun n hn => (h'.others n hn).trans (h.others n hn)⟩

/-- Where the elements stay as they are, nothing has changed on the page. -/
theorem of_since (h : w.Since w') (helements : w'.scene.elements = w.scene.elements) : w.Confined names w' :=
  ⟨h, fun _ _ => by rw [helements]⟩

end World.Confined

/-- A world after the use of an element. -/
def World.afterUse (w : World) (m : String) (u : ElementUse) (e : Element) : World :=
  { w with scene := { w.scene.note (.element m u) with elements := Assoc.put m e w.scene.elements } }

namespace World

variable {w : World} {n m : String} {u : ElementUse} {e : Element}

theorem lookup_afterUse_self (w : World) (m : String) (u : ElementUse) (e : Element) :
    (w.afterUse m u e).scene.elements.lookup m = some e := by
  simp [afterUse, Assoc.lookup_put]

theorem lookup_afterUse (w : World) (h : n ≠ m) :
    (w.afterUse m u e).scene.elements.lookup n = w.scene.elements.lookup n := by
  have hne : (n == m) = false := by simpa using h
  simp [afterUse, Assoc.lookup_put, hne]

/-- The use of an element changes no other one. -/
theorem confined_afterUse {names : List String} (hm : m ∈ names) (w : World) (u : ElementUse) (e : Element) :
    w.Confined names (w.afterUse m u e) :=
  ⟨⟨rfl, List.prefix_rfl, rfl⟩, fun _ hn => w.lookup_afterUse fun heq => hn (heq ▸ hm)⟩

end World

/-- What an element answers about itself counts as true or not all the time. -/
structure Element.Answers (caller : Caller) (rounds : Nat) (w₀ : World) (e : Element) : Prop where
  tag : (truth e.tag).Standing caller rounds w₀
  type : ∀ v, e.getAttribute w₀.scene.cells (.text "type") = .ok v → (truth v).Standing caller rounds w₀
  enabled : (truth e.enabled).Standing caller rounds w₀
  selected : (truth e.selected).Standing caller rounds w₀

/-- What a value gives one by one stays as it is, and the variables that it names hold elements
of some names. -/
structure Value.Lists (w₀ : World) (names : List String) (v : Value) : Prop where
  members : ∀ w, w₀.Since w → w.scene.members? v = w₀.scene.members? v
  elements : ∀ vs, w₀.scene.members? v = some vs →
    ∀ v ∈ vs, ∀ held, w₀.scene.readNamed v = .ok held → ∃ m ∈ names, held = .element m

/-- What an element names as its options stands for elements of some names. -/
def Element.Offers (w₀ : World) (names : List String) (e : Element) : Prop :=
  ∀ v, e.field? "options" = some v → v.Lists w₀ names

namespace Element

variable {caller : Caller} {rounds : Nat} {w₀ : World} {names : List String} {e : Element}

/-- What a use may change of an element. -/
theorem use_eq (cells : Cells) (e : Element) (u : ElementUse) :
    ∃ value selected displayedAfter stale,
      (e.use cells u).2 = { e with value, selected, displayedAfter, stale } ∧
        (selected = e.selected ∨ ∃ b, selected = .bool b) := by
  cases u with
  | clear => exact ⟨.text "", _, _, _, rfl, .inl rfl⟩
  | sendKeys keys =>
    simp only [use]
    split <;> exact ⟨_, _, _, _, rfl, .inl rfl⟩
  | click =>
    simp only [use, clicking]
    split
    · exact ⟨_, _, _, _, rfl, .inl rfl⟩
    · split
      · exact ⟨_, _, _, _, rfl, .inr ⟨_, rfl⟩⟩
      · exact ⟨_, _, _, _, rfl, .inl rfl⟩
  | isDisplayed =>
    simp only [use, showing]
    split <;> exact ⟨_, _, _, _, rfl, .inl rfl⟩
  | getAttribute name =>
    simp only [use]
    split <;> exact ⟨_, _, _, _, rfl, .inl rfl⟩
  | _ => exact ⟨_, _, _, _, rfl, .inl rfl⟩

/-- A use leaves an element with what it answers. -/
theorem Answers.use (h : e.Answers caller rounds w₀) (cells : Cells) (u : ElementUse) :
    (e.use cells u).2.Answers caller rounds w₀ := by
  obtain ⟨value, selected, displayedAfter, stale, heq, hselected⟩ := use_eq cells e u
  rw [heq]
  refine ⟨h.tag, h.type, h.enabled, ?_⟩
  rcases hselected with rfl | ⟨b, rfl⟩
  · exact h.selected
  · exact standing_truth_bool b

/-- A use leaves an element with its options. -/
theorem Offers.use (h : e.Offers w₀ names) (cells : Cells) (u : ElementUse) : (e.use cells u).2.Offers w₀ names := by
  obtain ⟨value, selected, displayedAfter, stale, heq, -⟩ := use_eq cells e u
  rw [heq]
  exact h

end Element

/-- Two worlds beside each other, each since a world of its own: an element and others, which are
all of the given names, are the same in both, and nothing else has changed on the pages. -/
structure World.Beside (caller : Caller) (rounds : Nat) (w₀ : World) (n : String) (names : List String)
    (a b w w' : World) : Prop where
  since : w₀.Since w
  since' : w₀.Since w'
  left : a.Confined names w
  right : b.Confined names w'
  same : ∀ m ∈ names, w'.scene.elements.lookup m = w.scene.elements.lookup m
  answers : ∀ m ∈ names, ∀ e, w.scene.elements.lookup m = some e → e.Answers caller rounds w₀
  offers : ∀ e, w.scene.elements.lookup n = some e → e.Offers w₀ names

namespace World.Beside

variable {caller : Caller} {rounds : Nat} {w₀ a b w w' v v' : World} {n m : String} {names : List String}

/-- The worlds that have been reached can be started from. -/
theorem here (h : World.Beside caller rounds w₀ n names a b w w') : World.Beside caller rounds w₀ n names w w' w w' :=
  { h with left := .refl names w, right := .refl names w' }

theorem trans (h : World.Beside caller rounds w₀ n names a b w w')
    (h' : World.Beside caller rounds w₀ n names w w' v v') : World.Beside caller rounds w₀ n names a b v v' :=
  { h' with left := h.left.trans h'.left, right := h.right.trans h'.right }

/-- What leaves the elements as they are leaves the worlds beside each other. -/
theorem aside (h : World.Beside caller rounds w₀ n names a b w w') (hv : w.Since v) (hv' : w'.Since v')
    (helements : v.scene.elements = w.scene.elements) (helements' : v'.scene.elements = w'.scene.elements) :
    World.Beside caller rounds w₀ n names a b v v' where
  since := h.since.trans hv
  since' := h.since'.trans hv'
  left := h.left.trans (.of_since hv helements)
  right := h.right.trans (.of_since hv' helements')
  same m hm := by rw [helements, helements', h.same m hm]
  answers m hm e he := h.answers m hm e (helements ▸ he)
  offers e he := h.offers e (helements ▸ he)

/-- Both worlds use one of the elements alike. -/
theorem use (h : World.Beside caller rounds w₀ n names a b w w') (hm : m ∈ names) {e : Element}
    (he : w.scene.elements.lookup m = some e) (u : ElementUse) :
    World.Beside caller rounds w₀ n names a b (w.afterUse m u (e.use w₀.scene.cells u).2)
      (w'.afterUse m u (e.use w₀.scene.cells u).2) where
  since := h.since.trans (confined_afterUse hm w u _).toSince
  since' := h.since'.trans (confined_afterUse hm w' u _).toSince
  left := h.left.trans (confined_afterUse hm w u _)
  right := h.right.trans (confined_afterUse hm w' u _)
  same x hx := by
    by_cases hxm : x = m
    · rw [hxm, World.lookup_afterUse_self, World.lookup_afterUse_self]
    · rw [World.lookup_afterUse _ hxm, World.lookup_afterUse _ hxm, h.same x hx]
  answers x hx e' he' := by
    by_cases hxm : x = m
    · rw [hxm, World.lookup_afterUse_self] at he'
      obtain rfl := Option.some.inj he'
      exact (h.answers m hm e he).use _ u
    · rw [World.lookup_afterUse _ hxm] at he'
      exact h.answers x hx e' he'
  offers e' he' := by
    by_cases hnm : n = m
    · rw [hnm, World.lookup_afterUse_self] at he'
      obtain rfl := Option.some.inj he'
      exact (h.offers e (hnm ▸ he)).use _ u
    · rw [World.lookup_afterUse _ hnm] at he'
      exact h.offers e' he'

end World.Beside

/-! ## Programs beside each other -/

namespace Prog

variable {α β : Type}

/-- Two programs come to the same, and keep a relation of the worlds that they run in; answers
are such that `P` holds for them. -/
def Twins (caller : Caller) (rounds : Nat) (I : World → World → Prop) (p q : Prog α) (P : α → Prop) : Prop :=
  ∀ w w', I w w' → ∃ r v v', p.run caller rounds w = (r, v) ∧ q.run caller rounds w' = (r, v') ∧ I v v' ∧
    ∀ a, r = .ok a → P a

section Twins

variable {caller : Caller} {rounds : Nat} {I : World → World → Prop} {p q p' q' : Prog α} {k l : α → Prog β}
  {P : α → Prop} {Q : β → Prop}

/-- Programs that go on with the same answer. -/
theorem Twins.bind (h : Twins caller rounds I p q P) (hk : ∀ a, P a → Twins caller rounds I (k a) (l a) Q) :
    Twins caller rounds I (p.bind k) (q.bind l) Q := by
  intro w w' hI
  obtain ⟨r, v, v', hp, hq, hI', hP⟩ := h w w' hI
  rw [run_bind, run_bind, hp, hq]
  cases r with
  | error fault => exact ⟨.error fault, v, v', rfl, rfl, hI', nofun⟩
  | ok a => exact hk a (hP a rfl) v v' hI'

theorem Twins.ite {c : Prop} [Decidable c] (h : Twins caller rounds I p q P) (h' : Twins caller rounds I p' q' P) :
    Twins caller rounds I (if c then p else p') (if c then q else q') P := by
  by_cases hc : c
  · rwa [if_pos hc, if_pos hc]
  · rwa [if_neg hc, if_neg hc]

theorem twins_done {a : α} (h : P a) : Twins caller rounds I (done a) (done a) P := by
  intro w w' hI
  refine ⟨.ok a, w, w', rfl, rfl, hI, fun b hb => ?_⟩
  cases hb
  exact h

theorem twins_fail (r : Raised) : Twins caller rounds I (fail r) (fail r) P :=
  fun w w' hI => ⟨.error r, w, w', rfl, rfl, hI, nofun⟩

/-- Both programs see the same of the scene. -/
theorem twins_view {f g : Scene → α} (h : ∀ w w', I w w' → g w'.scene = f w.scene ∧ P (f w.scene)) :
    Twins caller rounds I (view f) (view g) P := by
  intro w w' hI
  obtain ⟨hsame, hP⟩ := h w w' hI
  refine ⟨.ok (f w.scene), w, w', rfl, by rw [run_view, hsame], hI, fun a ha => ?_⟩
  cases ha
  exact hP

theorem twins_ofOption (fault : Fault) {o : Option α} (h : ∀ a, o = some a → P a) :
    Twins caller rounds I (ofOption fault o) (ofOption fault o) P := by
  cases o with
  | none => exact twins_fail _
  | some a => exact twins_done (h a rfl)

theorem twins_ofFault (e : Except Fault α) : Twins caller rounds I (ofFault e) (ofFault e) fun _ => True := by
  cases e with
  | error fault => exact twins_fail _
  | ok a => exact twins_done trivial

end Twins

/-! ## What is done beside each other -/

section Beside

variable {caller : Caller} {rounds : Nat} {w₀ a b : World} {n m : String} {names : List String}

/-- What is done anywhere with the same outcome and without a change. -/
theorem Standing.twins {p : Prog α} (h : p.Standing caller rounds w₀) :
    Twins caller rounds (World.Beside caller rounds w₀ n names a b) p p fun _ => True := by
  obtain ⟨r, hr⟩ := h
  exact fun w w' hw => ⟨r, w, w', hr w hw.since, hr w' hw.since', hw, fun _ _ => trivial⟩

/-- Both programs use one of the elements. -/
theorem twins_use (hm : m ∈ names) (u : ElementUse) {P : Value → Prop}
    (hP : ∀ e : Element, e.Answers caller rounds w₀ → ∀ v, (e.use w₀.scene.cells u).1 = .ok v → P v) :
    Twins caller rounds (World.Beside caller rounds w₀ n names a b) (performing (.useElement m u))
      (performing (.useElement m u)) P := by
  intro w w' hw
  cases he : w.scene.elements.lookup m with
  | none =>
    exact ⟨_, w, w', run_useElement_unset he u, run_useElement_unset ((hw.same m hm).trans he) u, hw, nofun⟩
  | some e =>
    refine ⟨(e.use w₀.scene.cells u).1, _, _, ?_, ?_, hw.use hm he u, hP e (hw.answers m hm e he)⟩
    · rw [run_useElement he, hw.since.cells]
      rfl
    · rw [run_useElement ((hw.same m hm).trans he), hw.since'.cells]
      rfl

/-- Both programs call a member of one of the elements. -/
theorem twins_callMember {name : String} {args : List Value} {u : ElementUse} (hm : m ∈ names)
    (hname : name ≠ "tag_name" ∧ name ≠ "text") (hmember : ElementUse.memberNames.contains name = true)
    (hu : ElementUse.ofCall? name args [] = some u) {P : Value → Prop}
    (hP : ∀ e : Element, e.Answers caller rounds w₀ → ∀ v, (e.use w₀.scene.cells u).1 = .ok v → P v) :
    Twins caller rounds (World.Beside caller rounds w₀ n names a b) (callMember (.element m) name args)
      (callMember (.element m) name args) P := by
  rw [callMember_element m hname hmember hu]
  exact twins_use hm u hP

/-- Both programs log a line whose values give their texts all the time. -/
theorem twins_log {e : Log.Entry} (h : e.context.Standing caller rounds w₀) :
    Twins caller rounds (World.Beside caller rounds w₀ n names a b) (log e) (log e) fun _ => True := by
  obtain ⟨r, hr⟩ := tell_standing h
  intro w w' hw
  obtain ⟨v, htell, hscene, hv⟩ := hr w hw.since
  obtain ⟨v', htell', hscene', hv'⟩ := hr w' hw.since'
  refine ⟨r, v, v', ?_, ?_, hw.aside hv hv' (by rw [hscene]) (by rw [hscene']), fun _ _ => trivial⟩
  · show andThen (PageObjects.tell caller e none w) _ = _
    rw [htell]
    cases r <;> rfl
  · show andThen (PageObjects.tell caller e none w') _ = _
    rw [htell']
    cases r <;> rfl

end Beside

end Prog

end PageObjects
