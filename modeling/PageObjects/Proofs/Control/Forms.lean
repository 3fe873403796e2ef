import Mathlib.Data.List.Nodup
import PageObjects.Proofs.Control.Locality

/-!
# Filling a form

To fill a form is to fit some elements, each to a value of its own.  Fits that have nothing to
do with each other do not disturb each other: each comes to what it comes to alone, so the
order makes no difference.  Absent values leave no trace at all.

Main definitions:

- `Filling`: elements with the values that they are to be fitted to.
- `Prog.fillEach`: to fill a form, whatever fails on the way.
- `Prog.fillAll`: to fill a form until a fit fails.
- `World.Filled`: every element is as its own fit alone leaves it.

Main results:

- Theorem `Prog.run_fillAll_iff`: a form is filled without a failure if no fit fails.
- Theorem `Prog.run_fillEach`: what is left of fits that have nothing to do with each other.
- Theorem `fill_orderless`: the order of the fits makes no difference.
-/

namespace PageObjects

open Prog

/-- Elements, or controls of elements, with the values that they are to be fitted to. -/
abbrev Filling := List (Value × Value)

/-- Those that are to be fitted to values that are not absent. -/
def Filling.given (form : Filling) : Filling := form.filter fun p => !p.2.isNone

theorem Filling.given_cons_none (c : Value) (form : Filling) :
    Filling.given ((c, .none) :: form) = Filling.given form := rfl

theorem Filling.given_cons {v : Value} (h : v.isNone = false) (c : Value) (form : Filling) :
    Filling.given ((c, v) :: form) = (c, v) :: Filling.given form :=
  List.filter_cons_of_pos (by simp [h])

/-- The fits have nothing to do with each other. -/
def Filling.Apart (s : Scene) (form : Filling) : Prop :=
  form.Pairwise fun p q => (s.reach p.1).Disjoint (s.reach q.1)

namespace Prog

/-- Fit one element after the other, whatever the fits come to. -/
def fillEach : Filling → Prog (List (Except Raised Unit))
  | [] => .done []
  | p :: form => (outcome (fit p.1 p.2)).bind fun came => (fillEach form).bind fun others => .done (came :: others)

/-- Fit one element after the other, until a fit fails. -/
def fillAll : Filling → Prog Unit
  | [] => .done ()
  | p :: form => (fit p.1 p.2).bind fun _ => fillAll form

variable {caller : Caller} {rounds : Nat} {w₀ w w' : World} {form : Filling}

theorem run_fillEach_cons (p : Value × Value) (form : Filling) (w : World) :
    run caller rounds (fillEach (p :: form)) w =
      andThen (run caller rounds (fillEach form) (run caller rounds (fit p.1 p.2) w).2) fun others w' =>
        (.ok ((run caller rounds (fit p.1 p.2) w).1 :: others), w') := by
  rw [fillEach, run_bind, run_outcome, andThen_ok, run_bind]
  rfl

/-- A form is filled without a failure if no fit fails, whatever is done about failures. -/
theorem run_fillAll_iff :
    run caller rounds (fillAll form) w = (.ok (), w') ↔
      run caller rounds (fillEach form) w = (.ok (form.map fun _ => .ok ()), w') := by
  induction form generalizing w with
  | nil => simp [fillAll, fillEach]
  | cons p form ih =>
    rw [run_fillEach_cons, fillAll, run_bind]
    rcases run caller rounds (fit p.1 p.2) w with ⟨r | _, v⟩
    · simp only [andThen_error, List.map_cons]
      rcases run caller rounds (fillEach form) v with ⟨r' | others, v'⟩ <;> simp
    · rw [andThen_ok, ih]
      rcases run caller rounds (fillEach form) v with ⟨r' | others, v'⟩ <;> simp

/-- Absent values leave no trace. -/
theorem fillAll_given (form : Filling) : fillAll (Filling.given form) = fillAll form := by
  induction form with
  | nil => rfl
  | cons p form ih =>
    obtain ⟨c, v⟩ := p
    cases hv : v.isNone with
    | true =>
      obtain rfl := Value.isNone_iff.mp hv
      rw [Filling.given_cons_none, ih, fillAll, fit_none]
      rfl
    | false => rw [Filling.given_cons hv, fillAll, fillAll, ih]

/-- What is left of the fits to absent values is nothing. -/
theorem run_fillEach_given (form : Filling) (w : World) :
    (run caller rounds (fillEach (Filling.given form)) w).2 = (run caller rounds (fillEach form) w).2 := by
  induction form generalizing w with
  | nil => rfl
  | cons p form ih =>
    obtain ⟨c, v⟩ := p
    have hrest : ∀ (p : Value × Value) (form : Filling) (w : World),
        (run caller rounds (fillEach (p :: form)) w).2 =
          (run caller rounds (fillEach form) (run caller rounds (fit p.1 p.2) w).2).2 := by
      intro p form w
      rw [run_fillEach_cons]
      rcases run caller rounds (fillEach form) _ with ⟨_ | _, _⟩ <;> rfl
    rw [hrest]
    cases hv : v.isNone with
    | true =>
      obtain rfl := Value.isNone_iff.mp hv
      rw [Filling.given_cons_none, ih, fit_none]
      rfl
    | false => rw [Filling.given_cons hv, hrest, ih]

end Prog

/-! ## What is left of a form -/

/-- Every element that one of the fits has to do with is as this fit alone leaves it, and all others
are as they were. -/
structure World.Filled (caller : Caller) (rounds : Nat) (w₀ : World) (form : Filling) (w w' : World) : Prop where
  since : w₀.Since w'
  reached : ∀ p ∈ form, ∀ n ∈ w₀.scene.reach p.1,
    w'.scene.elements.lookup n = (run caller rounds (fit p.1 p.2) w₀).2.scene.elements.lookup n
  others : ∀ n, (∀ p ∈ form, n ∉ w₀.scene.reach p.1) → w'.scene.elements.lookup n = w.scene.elements.lookup n

section Filled

variable {caller : Caller} {rounds : Nat} {w₀ w : World} {form form' : Filling}

/-- Fits that have nothing to do with each other come to what each of them comes to alone. -/
theorem Prog.run_fillEach
    (hlocal : ∀ p ∈ form, (fit p.1 p.2).LocalTo caller rounds w₀ (w₀.scene.reach p.1)) (hapart : form.Apart w₀.scene)
    (hw : w₀.Since w)
    (hsame : ∀ p ∈ form, ∀ n ∈ w₀.scene.reach p.1, w.scene.elements.lookup n = w₀.scene.elements.lookup n) :
    ∃ w', run caller rounds (fillEach form) w =
        (.ok (form.map fun p => (run caller rounds (fit p.1 p.2) w₀).1), w') ∧
      World.Filled caller rounds w₀ form w w' := by
  induction form generalizing w with
  | nil => exact ⟨w, rfl, hw, fun _ hp => (nomatch hp), fun _ _ => rfl⟩
  | cons p form ih =>
    obtain ⟨hfirst, hrest⟩ := List.pairwise_cons.mp hapart
    obtain ⟨hanswer, hconfined, hreached⟩ := hlocal p List.mem_cons_self w hw (hsame p List.mem_cons_self)
    -- the other fits start where the elements are as they were that they have to do with
    obtain ⟨w', hrun, hfilled⟩ := ih (fun q hq => hlocal q (List.mem_cons_of_mem _ hq)) hrest
      (hw.trans hconfined.toSince) fun q hq n hn =>
        (hconfined.others n fun hp => hfirst q hq hp hn).trans (hsame q (List.mem_cons_of_mem _ hq) n hn)
    refine ⟨w', ?_, hfilled.since, List.forall_mem_cons.mpr ⟨fun n hn => ?_, hfilled.reached⟩, fun n hn => ?_⟩
    · rw [run_fillEach_cons, hrun, hanswer]
      rfl
    · rw [hfilled.others n fun q hq hn' => hfirst q hq hn hn', hreached n hn]
    · rw [hfilled.others n fun q hq => hn q (List.mem_cons_of_mem _ hq), hconfined.others n (hn p List.mem_cons_self)]

/-- Two forms with the same fits leave the same elements. -/
theorem World.Filled.unique {w₁ w₂ : World} (hmem : ∀ p, p ∈ form' ↔ p ∈ form)
    (h : World.Filled caller rounds w₀ form w w₁) (h' : World.Filled caller rounds w₀ form' w w₂) (n : String) :
    w₂.scene.elements.lookup n = w₁.scene.elements.lookup n := by
  by_cases hn : ∃ p ∈ form, n ∈ w₀.scene.reach p.1
  · obtain ⟨p, hp, hn⟩ := hn
    rw [h'.reached p ((hmem p).mpr hp) n hn, h.reached p hp n hn]
  · have hn : ∀ p ∈ form, n ∉ w₀.scene.reach p.1 := fun p hp hreach => hn ⟨p, hp, hreach⟩
    rw [h'.others n fun p hp => hn p ((hmem p).mp hp), h.others n hn]

end Filled

/-! ## The order of the fits -/

/-- **The order makes no difference**: the elements of a form, each with its options, are apart, and the values
are shown the same all the time, as what the elements answer counts as true or not.  Then every fit
comes to the same in any order, and leaves the same elements; and if no fit fails in one order,
none fails in any other.  Without the absent values a form is filled by the very same uses. -/
theorem fill_orderless {caller : Caller} {rounds : Nat} {w : World} {form form' : Filling} (hperm : form'.Perm form)
    (hapart : form.Apart w.scene)
    (hfillable : ∀ p ∈ form, p.2.isNone = false → w.Fillable caller rounds p.1 p.2) :
    let each (form : Filling) := run caller rounds (fillEach form) w
    let all (form : Filling) := run caller rounds (fillAll form) w
    (∃ came : Value × Value → Except Raised Unit,
      (each form).1 = .ok (form.map came) ∧ (each form').1 = .ok (form'.map came)) ∧
    (∀ n, (each form').2.scene.elements.lookup n = (each form).2.scene.elements.lookup n) ∧
    ((all form).1 = .ok () → (all form').1 = .ok () ∧
      ∀ n, (all form').2.scene.elements.lookup n = (all form).2.scene.elements.lookup n) ∧
    (each (Filling.given form)).2 = (each form).2 ∧ all (Filling.given form) = all form := by
  intro each all
  have hlocal : ∀ p ∈ form, (fit p.1 p.2).LocalTo caller rounds w (w.scene.reach p.1) :=
    fun p hp => localTo_fit (hfillable p hp)
  have hapart' : form'.Apart w.scene := hapart.perm hperm.symm fun hpq _ hn hn' => hpq hn' hn
  obtain ⟨v, hrun, hfilled⟩ := run_fillEach hlocal hapart (.refl w) fun _ _ _ _ => rfl
  obtain ⟨v', hrun', hfilled'⟩ := run_fillEach (fun p hp => hlocal p (hperm.mem_iff.mp hp)) hapart' (.refl w)
    fun _ _ _ _ => rfl
  have hsame : ∀ n, v'.scene.elements.lookup n = v.scene.elements.lookup n :=
    hfilled.unique (fun p => hperm.mem_iff) hfilled'
  have heach : each form = (_, v) := hrun
  have heach' : each form' = (_, v') := hrun'
  refine ⟨⟨_, congrArg Prod.fst heach, congrArg Prod.fst heach'⟩, ?_, fun hall => ?_, run_fillEach_given form w, ?_⟩
  · rw [heach, heach']
    exact hsame
  · have hdone : run caller rounds (fillAll form) w = (.ok (), (all form).2) := Prod.ext hall rfl
    rw [run_fillAll_iff, hrun] at hdone
    obtain ⟨hanswers, hworld⟩ := Prod.mk.inj hdone
    have hnone : ∀ p ∈ form, (run caller rounds (fit p.1 p.2) w).1 = .ok () :=
      List.map_inj_left.mp (Except.ok.inj hanswers)
    have hdone' : run caller rounds (fillAll form') w = (.ok (), v') := by
      rw [run_fillAll_iff, hrun']
      exact Prod.ext (congrArg Except.ok (List.map_inj_left.mpr fun p hp => hnone p (hperm.mem_iff.mp hp))) rfl
    have hall' : all form' = _ := hdone'
    rw [hall']
    exact ⟨rfl, fun n => (hsame n).trans (congrArg (fun w : World => w.scene.elements.lookup n) hworld)⟩
  · show run caller rounds (fillAll (Filling.given form)) w = _
    rw [fillAll_given]

/-! ## A form -/

/-- Two text fields, a check box, and a list of choices with its options. -/
def formSetting : Setting where
  elements := [("name", { tag := .text "textarea", attributes := .map 1 }),
    ("spare", { tag := .text "textarea", attributes := .map 1 }), ("box", { attributes := .map 3 }),
    ("list", { tag := .text "select", attributes := .map 1, options := .list 4 }),
    ("one", { tag := .text "option", text := .text "One", attributes := .map 1 }),
    ("two", { tag := .text "option", text := .text "Two", attributes := .map 1 })]
  cells := ⟨firstCells.all ++ #[.map [(.text "type", .text "checkbox")], .list [.text "one", .text "two"]]⟩

/-- A filling of that form, in which one field is left alone. -/
def formFilling : Filling :=
  [(.element "name", .text "Ada"), (.element "spare", .none), (.element "box", .toggle .set),
    (.element "list", .text "Two")]

/-- What comes of filling the form. -/
def formFilled (form : Filling) : Result Unit := run (callAt 1 1) 1 (fillAll form) formSetting.world

theorem formFilling_apart : formFilling.Apart formSetting.world.scene := by
  have hreach : formFilling.map (fun p => formSetting.world.scene.reach p.1) =
      [["name"], ["spare"], ["box"], ["list", "one", "two"]] := by decide +kernel
  have happart : (formFilling.map fun p => formSetting.world.scene.reach p.1).Pairwise List.Disjoint := by
    rw [hreach]
    simp
  exact List.pairwise_map.mp happart

/-- What the elements of the form answer about themselves is data. -/
theorem formSetting_answers {m : String} {e : Element} (h : formSetting.world.scene.elements.lookup m = some e) :
    e.Answers (callAt 1 1) 1 formSetting.world := by
  obtain ⟨before, after, helements, -⟩ := List.lookup_eq_some_iff.mp h
  have hmem : (m, e) ∈ formSetting.elements := by
    rw [show formSetting.elements = _ from helements]
    simp
  have hdata : ∀ p ∈ formSetting.elements, (∃ t, p.2.tag = .text t) ∧ p.2.enabled = .bool true ∧
      p.2.selected = .bool false ∧ ∃ type, p.2.getAttribute formSetting.cells (.text "type") = .ok type ∧
        (type = .none ∨ ∃ t, type = .text t) := by
    intro p hp
    simp only [formSetting, List.mem_cons, List.not_mem_nil, or_false] at hp
    rcases hp with rfl | rfl | rfl | rfl | rfl | rfl <;> refine ⟨⟨_, rfl⟩, rfl, rfl, _, rfl, ?_⟩
    all_goals first | exact .inl rfl | exact .inr ⟨_, rfl⟩
  obtain ⟨⟨t, htag⟩, henabled, hselected, type, htype, hword⟩ := hdata _ hmem
  refine ⟨htag ▸ standing_truth_text t, fun v hv => ?_, henabled ▸ standing_truth_bool true,
    hselected ▸ standing_truth_bool false⟩
  obtain rfl : type = v := Except.ok.inj (htype.symm.trans hv)
  rcases hword with rfl | ⟨t, rfl⟩
  · exact standing_truth_none
  · exact standing_truth_text t

/-- The options of the list are elements, and the other elements have none. -/
theorem formSetting_offersElements {n : String} (hn : n ∈ ["name", "box", "list"]) :
    formSetting.world.scene.OffersElements n := by
  have hoptions : ∀ e, formSetting.world.scene.elements.lookup n = some e →
      e.field? "options" = some .none ∨ e.field? "options" = some (.list 4) := by
    intro e he
    simp only [List.mem_cons, List.not_mem_nil, or_false] at hn
    rcases hn with rfl | rfl | rfl <;> obtain rfl := Option.some.inj he
    · exact .inl rfl
    · exact .inl rfl
    · exact .inr rfl
  refine ⟨fun e i he hfield => ?_, fun e named names he hnamed hnames v hv held hheld => ?_⟩
  · rcases hoptions e he with h | h <;> cases h.symm.trans hfield
  · rcases hoptions e he with h | h
    · obtain rfl := Option.some.inj (h.symm.trans hnamed)
      cases hnames
    · obtain rfl := Option.some.inj (h.symm.trans hnamed)
      obtain rfl : [.text "one", .text "two"] = names := Option.some.inj hnames
      simp only [List.mem_cons, List.not_mem_nil, or_false] at hv
      rcases hv with rfl | rfl <;> exact ⟨_, (Except.ok.inj hheld).symm⟩

theorem formFilling_fillable :
    ∀ p ∈ formFilling, p.2.isNone = false → formSetting.world.Fillable (callAt 1 1) 1 p.1 p.2 := by
  have hone : ∀ {n : String} {v : Value}, n ∈ ["name", "box", "list"] → v.word?.isSome = true →
      formSetting.world.Fillable (callAt 1 1) 1 (.element n) v := fun hn hv =>
    ⟨⟨_, .element, formSetting_offersElements hn⟩, nofun, fun _ _ _ he => formSetting_answers he,
      (standing_word hv).1, (standing_word hv).2,
      Log.Context.Plain.standing (List.forall_mem_singleton.mpr (Value.isPlain_of_word hv))⟩
  simp only [formFilling, List.forall_mem_cons]
  exact ⟨fun _ => hone (by decide) rfl, fun h => (nomatch h), fun _ => hone (by decide) rfl,
    fun _ => hone (by decide) rfl, fun _ h => nomatch h⟩

/-- What is left of filling the form is the same in the opposite order, and without the field that is left alone. -/
theorem formFilling_orderless :
    (formFilled formFilling.reverse).1 = .ok () ∧
    (∀ n, (formFilled formFilling.reverse).2.scene.elements.lookup n =
      (formFilled formFilling).2.scene.elements.lookup n) ∧
    formFilled (Filling.given formFilling) = formFilled formFilling ∧
    ((formFilled formFilling).2.scene.elements.lookup "name").bind (·.value.word?) = some "Ada" := by
  have hall : (formFilled formFilling).1 = .ok () := by
    have hok : (formFilled formFilling).1.isOk = true := by decide +kernel
    cases hanswer : (formFilled formFilling).1 with
    | error fault =>
      rw [hanswer] at hok
      cases hok
    | ok _ => rfl
  obtain ⟨-, -, hsame, -, hgiven⟩ := @fill_orderless (callAt 1 1) 1 formSetting.world formFilling formFilling.reverse
    formFilling.reverse_perm formFilling_apart formFilling_fillable
  exact ⟨(hsame hall).1, (hsame hall).2, hgiven, by decide +kernel⟩

/-- The record that shows how often it has been shown. -/
def talliedValue : Value := .object 0 (some ⟨0, "Shown"⟩)

/-- The form, with that record. -/
def talliedWorld : World :=
  formSetting.world.after
    [.op (.addFunction (.inspect (.request (.count "shown")))),
     .op (.addRecordType { name := "Shown", plain := false, members := [(textMember, .method textMember 0)] }),
     .op (.addInstance {})]

/-- The text of the first field after the form has been filled, if this succeeds. -/
def nameAfter (form : Filling) : Option String :=
  match run (callAt 1 10) 1 (fillAll form) talliedWorld with
  | (.ok (), w) => (w.scene.elements.lookup "name").bind (·.value.word?)
  | _ => none

/-- Where its text does not stay the same, the order in which fields are fitted to a record tells in what
they show. -/
theorem talliedWorld_ordered :
    nameAfter [(.element "name", talliedValue), (.element "spare", talliedValue)] = some "2" ∧
      nameAfter [(.element "spare", talliedValue), (.element "name", talliedValue)] = some "4" := by
  decide +kernel

end PageObjects
