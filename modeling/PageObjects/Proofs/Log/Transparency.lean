import PageObjects.Proofs.Catalog.Overriding
import PageObjects.Proofs.Log.Formatting

/-!
# Transparent phases

A phase logs its start, runs its body, and logs its end; then it ends as its body does.  The
lines show the context of the phase, which is handed over beside what they set themselves:
their category, message and weight, and at the end of a phase that fails also that it failed.
A context that repeats one of these names is refused.  So is a limit that is no number, and a
line ends with a fault if the text of something that it shows is not found.

Main definitions:

- `World.Told`: what a line leaves.
- `Phase.Names`: whether the context of a phase has a name.
- `Phase.closing?`: the line that closes a phase, unless it cannot be put together.
- `Phase.Closes`, `Phase.Refuses`: what a phase needs in order to be ended, and what keeps it from that.

Main results:

- Theorem `tell_told` and `tell_untold`: a line that is always logged leaves one record, or ends
  with the fault that keeps its text from being found.
- Theorem `Phase.finish_closing`: the end of a phase.
- Theorem `phase_transparent`: a phase is transparent if nothing keeps it from being started or
  ended, and else it ends with the fault of what does.
-/

namespace PageObjects

open Prog (andThen andThen_ok andThen_error)

/-! ## Lines that are always logged -/

/-- What a line leaves: the text of its context is found, and then it is recorded. -/
def World.Told (caller : Caller) (e : Log.Entry) (mark : Log.Mark) (w w' : World) : Prop :=
  ∃ t w₀, e.tail caller w = (.ok t, w₀) ∧ w'.scene = w₀.scene ∧
    w'.journal.records = e.recordWith (some mark) t :: w₀.journal.records

section Lines

variable {caller : Caller} {e : Log.Entry} {mark : Log.Mark} {w : World}

/-- A line that is always logged is recorded once the text of its context has been found. -/
theorem tell_of_fits (hfits : mark.Fits e) (w : World) : tell caller e (some mark) w =
    andThen (e.tail caller w) fun t w' => (.ok (), w'.keep (e.recordWith (some mark) t)) := by
  have hopens : e.gate.opens w.journal.policy.mode = true := by
    rw [hfits.1]
    rfl
  rw [tell, if_pos hopens]

/-- If that text is found, the line leaves one record. -/
theorem tell_told (hfits : mark.Fits e) (htail : (e.tail caller w).1.isOk = true) :
    ∃ w', tell caller e (some mark) w = (.ok (), w') ∧ w.Told caller e mark w' := by
  rw [tell_of_fits hfits]
  unfold World.Told
  generalize e.tail caller w = found at htail ⊢
  rcases found with ⟨r | t, w₀⟩
  · cases htail
  · refine ⟨_, rfl, t, w₀, rfl, rfl, ?_⟩
    show (w₀.journal.write _).records = _
    rw [Log.Journal.write_records]
    exact if_pos hfits.2.1

/-- If it is not found, the line ends with the fault of that. -/
theorem tell_untold (hfits : mark.Fits e) {r : Raised} {w₀ : World} (htail : e.tail caller w = (.error r, w₀)) :
    tell caller e (some mark) w = (.error r, w₀) := by
  rw [tell_of_fits hfits, htail, andThen_error]

/-- The text of a plain context is always found. -/
theorem Log.Entry.tail_isOk (h : e.context.Plain) (w : World) : (e.tail caller w).1.isOk = true := by
  rw [tail_of_plain h]
  rfl

end Lines

/-! ## Phases -/

namespace Phase

/-- The context of a phase has one of some names. -/
def Names (p : Phase) (names : List String) : Prop := ∃ e ∈ p.context, e.1 ∈ names

instance (p : Phase) (names : List String) : Decidable (p.Names names) :=
  inferInstanceAs (Decidable (∃ e ∈ p.context, e.1 ∈ names))

theorem names_append {p : Phase} {names more : List String} :
    p.Names (names ++ more) ↔ p.Names names ∨ p.Names more := by
  simp only [Names, List.mem_append, and_or_left, exists_or]

/-- A context is refused if it has one of the names that are set already. -/
theorem admits_iff {p : Phase} {further : List String} (h : "a" ∉ fixedNames ++ further) :
    admits p.fullContext further = true ↔ ¬p.Names (fixedNames ++ further) := by
  have hnames : ∀ name, name ∈ p.fullContext.map (·.1) ↔ name = "a" ∨ name ∈ p.context.map (·.1) := by
    intro name
    rw [fullContext, Log.Context.merge, Assoc.mem_keys_merge]
    simp
  have hall : admits p.fullContext further = true ↔
      ∀ name ∈ p.fullContext.map (·.1), name ∉ fixedNames ++ further := by
    simp only [admits, List.all_eq_true, List.forall_mem_map, Bool.not_eq_true', List.contains_eq_mem,
      decide_eq_false_iff_not]
  rw [hall]
  constructor
  · rintro hnone ⟨e, he, hmem⟩
    exact hnone e.1 ((hnames e.1).mpr (.inr (List.mem_map_of_mem he))) hmem
  · intro hnone name hname hmem
    rcases (hnames name).mp hname with rfl | hname
    · exact h hmem
    · obtain ⟨e, he, rfl⟩ := List.mem_map.mp hname
      exact hnone ⟨e, he, hmem⟩

variable {α : Type} {p : Phase} {caller : Caller} {w : World}

/-- The line that closes a phase after some time, unless it cannot be put together. -/
def closing? (p : Phase) (limit : Value) (elapsed : Float) (r : Except Raised α) : Option Log.Entry :=
  match r with
  | .error _ => if admits p.fullContext ["failed"] then some (p.failure elapsed) else none
  | .ok _ => (reaches elapsed limit).toOption.map (p.success elapsed)

/-- A time cannot be compared with a limit that is no number. -/
theorem reaches_of_not_number (elapsed : Float) {limit : Value} (h : limit.isNumber = false) :
    reaches elapsed limit = .error .wrongType := by
  cases limit <;> first | rfl | cases h

/-- That is the only way in which a limit cannot be reached or not reached. -/
theorem reaches_error {elapsed : Float} {limit : Value} {fault : Fault} (h : reaches elapsed limit = .error fault) :
    fault = .wrongType := by
  cases limit <;> cases h <;> rfl

/-- The end of a phase: the line that closes it, and then that of its body. -/
theorem finish_closing (limit : Value) (start : Float) (r : Result α) :
    p.finish caller limit start r =
      match p.closing? limit (r.2.scene.clock - start) r.1 with
      | some e => andThen (tell caller e (some (p.closingMark (raised? r.1).isSome)) r.2) fun _ w => (r.1, w)
      | none => (.error { fault := .wrongType }, r.2) := by
  obtain ⟨_ | a, w⟩ := r
  · simp only [finish, closing?]
    split <;> rfl
  · simp only [finish, closing?]
    cases hreaches : reaches (w.scene.clock - start) limit with
    | ok slow => rfl
    | error fault =>
      rw [reaches_error hreaches]
      rfl

/-- The mark of the line that closes a phase fits it. -/
theorem closing?_fits {limit : Value} {elapsed : Float} {r : Except Raised α} {e : Log.Entry}
    (h : p.closing? limit elapsed r = some e) : (p.closingMark (raised? r).isSome).Fits e := by
  have hten : (10 : Int) ≤ 30 := by decide
  cases r with
  | error =>
    simp only [closing?, Option.ite_none_right_eq_some, Option.some.injEq] at h
    obtain ⟨-, rfl⟩ := h
    exact ⟨rfl, hten, rfl, _, rfl⟩
  | ok =>
    simp only [closing?, Option.map_eq_some_iff] at h
    obtain ⟨slow, -, rfl⟩ := h
    have hlevel : (10 : Int) ≤ if slow then 30 else 10 := by
      split
      · exact hten
      · exact Int.le_refl 10
    exact ⟨rfl, hlevel, slow, _, rfl, rfl⟩

/-- The context of the line that closes a phase is plain if that of the phase is. -/
theorem closing?_plain {limit : Value} {elapsed : Float} {r : Except Raised α} {e : Log.Entry}
    (h : p.closing? limit elapsed r = some e) (hplain : p.fullContext.Plain) : e.context.Plain := by
  have hclosing : (p.closingContext elapsed).Plain := hplain.put (by unfold Value.ofFloat; split <;> rfl) _
  cases r with
  | error =>
    simp only [closing?, Option.ite_none_right_eq_some, Option.some.injEq] at h
    obtain ⟨-, rfl⟩ := h
    exact hclosing.put rfl _
  | ok =>
    simp only [closing?, Option.map_eq_some_iff] at h
    obtain ⟨slow, -, rfl⟩ := h
    exact hclosing

/-- What a phase needs in order to be ended: if its body fails, its context must not say itself that
it did, and otherwise its limit has to be a number. -/
def Closes (p : Phase) (limit : Value) : Except Raised α → Prop
  | .error _ => ¬p.Names ["failed"]
  | .ok _ => limit.isNumber = true

/-- What keeps a phase from being ended; what things say to a comparison is left to them. -/
def Refuses (p : Phase) (limit : Value) : Except Raised α → Prop
  | .error _ => p.Names ["failed"]
  | .ok _ => limit.isNumber = false ∧ Prog.instanceOf? limit = none

theorem admits_start : admits p.fullContext [] = true ↔ ¬p.Names fixedNames := by
  have hiff : admits p.fullContext [] = true ↔ ¬p.Names (fixedNames ++ []) := admits_iff (by decide)
  rwa [List.append_nil] at hiff

theorem admits_failure : admits p.fullContext ["failed"] = true ↔ ¬p.Names fixedNames ∧ ¬p.Names ["failed"] := by
  rw [admits_iff (by decide), names_append, not_or]

/-- A phase that closes has a line that does so. -/
theorem Closes.closing {limit : Value} {r : Except Raised α} (h : p.Closes limit r) (hnames : ¬p.Names fixedNames)
    (elapsed : Float) : ∃ e, p.closing? limit elapsed r = some e := by
  cases r with
  | error => exact ⟨_, if_pos (admits_failure.mpr ⟨hnames, h⟩)⟩
  | ok =>
    obtain ⟨slow, hreaches⟩ := reaches_of_isNumber elapsed h
    exact ⟨p.success elapsed slow, by rw [closing?, hreaches]; rfl⟩

/-- A phase that is kept from it has none. -/
theorem Refuses.closing {limit : Value} {r : Except Raised α} (h : p.Refuses limit r) (elapsed : Float) :
    p.closing? limit elapsed r = none := by
  cases r with
  | error => exact if_neg fun hadmits => (admits_failure.mp hadmits).2 h
  | ok =>
    rw [closing?, reaches_of_not_number _ h.1]
    rfl

end Phase

/-- **Phases are transparent** unless names are repeated: a phase whose context has none of the
names that its lines set themselves logs that it starts, runs its body once from there on, logs that
it ends, and ends as its body does: with the same fault, or with the same answer.  It cannot be
ended like that if its body fails and the context says itself whether the phase failed, or if its
body does not fail and its limit is no number: then no end is logged, and a fault of its own takes
the place of what its body ends with.  A context that repeats the category, the message or the
weight of a line is refused at once: then nothing is logged, and the body is not run.  And if a line
cannot be logged, because the text of something that it shows is not found, the phase ends with the
fault of that: before its body is run, or after it.  Plain values are always shown. -/
theorem phase_transparent (p : Phase) (caller : Caller) (w : World) :
    (p.Names Phase.fixedNames →
      ∀ {α : Type} (body : World → Result α), p.around caller body w = (.error { fault := .wrongType }, w)) ∧
    (¬p.Names Phase.fixedNames →
      (∀ r w₀, p.opening.tail caller w = (.error r, w₀) →
        ∀ {α : Type} (body : World → Result α), p.around caller body w = (.error r, w₀)) ∧
      ((p.opening.tail caller w).1.isOk = true →
        ∃ w₁, w.Told caller p.opening p.openingMark w₁ ∧ ∀ {α : Type} (body : World → Result α),
          (p.Refuses (p.limit w.scene.settings) (body w₁).1 →
            p.around caller body w = (.error { fault := .wrongType }, (body w₁).2)) ∧
          (p.Closes (p.limit w.scene.settings) (body w₁).1 → ∃ e,
            p.closing? (p.limit w.scene.settings) ((body w₁).2.scene.clock - w.scene.clock) (body w₁).1 = some e ∧
            (p.closingMark (raised? (body w₁).1).isSome).Fits e ∧
            (∀ r w₂, e.tail caller (body w₁).2 = (.error r, w₂) → p.around caller body w = (.error r, w₂)) ∧
            ((e.tail caller (body w₁).2).1.isOk = true → ∃ w₂,
              (body w₁).2.Told caller e (p.closingMark (raised? (body w₁).1).isSome) w₂ ∧
              p.around caller body w = ((body w₁).1, w₂))))) ∧
    (p.fullContext.Plain → (p.opening.tail caller w).1.isOk = true ∧
      ∀ {α : Type} limit elapsed (r : Except Raised α) e w', p.closing? limit elapsed r = some e →
        (e.tail caller w').1.isOk = true) := by
  refine ⟨fun hnames α body => ?_, fun hnames => ⟨fun r w₀ htail α body => ?_, fun hok => ?_⟩,
    fun hplain => ⟨Log.Entry.tail_isOk hplain w, fun limit elapsed r e w' he => ?_⟩⟩
  · rw [Phase.around, if_neg fun h => Phase.admits_start.mp h hnames]
  · rw [Phase.around, if_pos (Phase.admits_start.mpr hnames), tell_untold p.opening_fits htail, andThen_error]
  · obtain ⟨w₁, htell, htold⟩ := tell_told p.opening_fits hok
    have hstarts : ∀ {α : Type} (body : World → Result α), p.around caller body w =
        p.finish caller (p.limit w.scene.settings) w.scene.clock (body w₁) := by
      intro α body
      rw [Phase.around, if_pos (Phase.admits_start.mpr hnames), htell, andThen_ok]
    refine ⟨w₁, htold, fun body => ⟨fun hrefuses => ?_, fun hcloses => ?_⟩⟩
    · rw [hstarts, Phase.finish_closing, hrefuses.closing]
    · obtain ⟨e, he⟩ := hcloses.closing hnames ((body w₁).2.scene.clock - w.scene.clock)
      have hfits := Phase.closing?_fits he
      refine ⟨e, he, hfits, fun r w₂ htail => ?_, fun hok => ?_⟩
      · rw [hstarts, Phase.finish_closing, he]
        show andThen (tell caller e _ (body w₁).2) _ = _
        rw [tell_untold hfits htail, andThen_error]
      · obtain ⟨w₂, htell', htold'⟩ := tell_told hfits hok
        refine ⟨w₂, htold', ?_⟩
        rw [hstarts, Phase.finish_closing, he]
        show andThen (tell caller e _ (body w₁).2) _ = _
        rw [htell', andThen_ok]
  · exact Log.Entry.tail_isOk (Phase.closing?_plain he hplain) w'

/-- A phase that names a page. -/
def loadPhase : Phase := .stated (.ofText "load") .lifecycle [("page", .text "Home")] .none

/-- A phase that names a weight. -/
def goldPhase : Phase := .stated (.ofText "load") .lifecycle [("level", .text "gold")] .none

/-- A phase that says itself whether it failed. -/
def failedPhase : Phase := .stated (.ofText "load") .lifecycle [("failed", .text "no")] .none

/-- A phase is transparent to a fault of its body, unless its context repeats a name of its lines; whether it
failed may be said by the context of a phase that does not. -/
theorem loadPhase_transparent :
    loadPhase.fullContext.Plain ∧ ¬loadPhase.Names Phase.fixedNames ∧ goldPhase.Names Phase.fixedNames ∧
    failedPhase.fullContext.Plain ∧ ¬failedPhase.Names Phase.fixedNames ∧ failedPhase.Names ["failed"] ∧
    ∀ caller,
      (∀ r, raised? (loadPhase.around caller (fun w => ((.error r : Except Raised Unit), w)) (flagWorld {})).1 =
        some r) ∧
      (goldPhase.around caller (fun w => ((.ok ()), w)) (flagWorld {})).1 = .error { fault := .wrongType } ∧
      (failedPhase.around caller (fun w => ((.ok ()), w)) (flagWorld {})).1 = .ok () ∧
      ∀ r, (failedPhase.around caller (fun w => ((.error r : Except Raised Unit), w)) (flagWorld {})).1 =
        .error { fault := .wrongType } := by
  have hload : loadPhase.fullContext.Plain := by
    show ∀ e ∈ [("a", Value.text "load"), ("page", .text "Home")], e.2.isPlain = true
    simp [Value.isPlain]
  have hfailed : failedPhase.fullContext.Plain := by
    show ∀ e ∈ [("a", Value.text "load"), ("failed", .text "no")], e.2.isPlain = true
    simp [Value.isPlain]
  have hgold : goldPhase.Names Phase.fixedNames := by decide
  have hloadNames : ¬loadPhase.Names Phase.fixedNames := by decide
  have hfailedNames : ¬failedPhase.Names Phase.fixedNames := by decide
  refine ⟨hload, hloadNames, hgold, hfailed, hfailedNames, by decide, fun caller => ?_⟩
  obtain ⟨-, hruns, htexts⟩ := phase_transparent loadPhase caller (flagWorld {})
  obtain ⟨w₁, -, hbody⟩ := (hruns hloadNames).2 (htexts hload).1
  obtain ⟨-, hruns', htexts'⟩ := phase_transparent failedPhase caller (flagWorld {})
  obtain ⟨w₁', -, hbody'⟩ := (hruns' hfailedNames).2 (htexts' hfailed).1
  refine ⟨fun r => ?_, ?_, ?_, fun r => ?_⟩
  · have hcloses : loadPhase.Closes (loadPhase.limit (flagWorld {}).scene.settings)
        (.error r : Except Raised Unit) := by
      show ¬loadPhase.Names ["failed"]
      decide
    obtain ⟨e, he, -, -, hends⟩ := (hbody fun w => ((.error r : Except Raised Unit), w)).2 hcloses
    obtain ⟨w₂, -, haround⟩ := hends ((htexts hload).2 _ _ _ e _ he)
    rw [haround]
    rfl
  · rw [(phase_transparent goldPhase caller (flagWorld {})).1 hgold]
  · obtain ⟨e, he, -, -, hends⟩ := (hbody' fun w => ((.ok () : Except Raised Unit), w)).2 rfl
    obtain ⟨w₂, -, haround⟩ := hends ((htexts' hfailed).2 _ _ _ e _ he)
    rw [haround]
  · have hrefuses : failedPhase.Refuses (failedPhase.limit (flagWorld {}).scene.settings)
        (.error r : Except Raised Unit) := by
      show failedPhase.Names ["failed"]
      decide
    rw [(hbody' fun w => ((.error r : Except Raised Unit), w)).1 hrefuses]

end PageObjects
