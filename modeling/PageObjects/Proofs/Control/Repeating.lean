import PageObjects.Proofs.Control.Handling
import PageObjects.Proofs.Control.Suiting

/-!
# Fitting again and again

What an element is fitted to last is what it stays at, whatever it was fitted to before: a
text field keeps the text of the last value, a check box its state, and a radio button stays
chosen.  Absent values do not count.  A check box is clicked as often as the wanted state
changes, a radio button at most once.  It makes no difference whether the element or a
control of it is fitted.

Main definitions:

- `Element.fitAll?`: what comes of fitting an element to a row of values.
- `Prog.fitEach`: to fit a control or an element to one value after the other.
- `World.LastWins`: what a row of fits leaves.

Main results:

- Theorem `Element.fitAll?_settled` and `Element.fitAll?_clicks`: what a row of values leaves.
- Theorem `Prog.run_fitEach`: a control, or an element, is fitted as its element tells.
- Theorem `fitEach_lastWins`: the last value counts.
-/

namespace PageObjects

open Prog

/-! ## One value after the other -/

/-- What is fitted: an element of a kind, which is read every time, or a control that wraps it. -/
inductive World.Presents (w : World) (n : String) (e : Element) (kind : ControlKind) :
    Value → List ElementUse → Prop where
  | element {uses : List ElementUse} : e.Suits w.scene.cells kind uses → Presents w n e kind (.element n) uses
  | control {i : Nat} : w.scene.fieldsOf i = [(wrappedField, .element n)] → Presents w n e kind (.control i kind) []

/-- Values that are not absent. -/
def Value.given (values : List Value) : List Value := values.filter fun v => !v.isNone

theorem Value.isNone_of_mem_given {values : List Value} : ∀ v ∈ Value.given values, v.isNone = false := by
  intro v hv
  simpa using (List.mem_filter.mp hv).2

/-- Whether a use is a click. -/
def ElementUse.isClick : ElementUse → Bool
  | .click => true
  | _ => false

/-- How often the states change that are wanted one after the other. -/
def flipsAmong : Bool → List Bool → Nat
  | _, [] => 0
  | b, c :: wanted => (if b = c then 0 else 1) + flipsAmong c wanted

/-- To choose what is to stay chosen takes one change at most. -/
theorem flipsAmong_true {b : Bool} {wanted : List Bool} (h : ∀ c ∈ wanted, c = true) :
    flipsAmong b wanted = if b = true ∨ wanted = [] then 0 else 1 := by
  induction wanted generalizing b with
  | nil => simp [flipsAmong]
  | cons c wanted ih =>
    obtain rfl := h c List.mem_cons_self
    rw [flipsAmong, ih fun c hc => h c (List.mem_cons_of_mem _ hc)]
    cases b <;> simp

namespace Element

/-- To fit an element to one value after the other; every time it is read as given before. -/
def fitAll? (cells : Cells) (kind : ControlKind) (text : Value → Except Raised String) (reads : List ElementUse) :
    Element → List Value → Option (List ElementUse × Element)
  | e, [] => some ([], e)
  | e, v :: values =>
    if v.isNone then fitAll? cells kind text reads e values
    else (e.fit? cells kind text v).bind fun one =>
      (fitAll? cells kind text reads one.2 values).map fun more => (more.1 ++ (one.1 ++ reads), more.2)

variable {cells : Cells} {kind : ControlKind} {text : Value → Except Raised String} {e e' : Element} {v v' : Value}
  {uses reads : List ElementUse} {values : List Value}

/-- An element that has been fitted to a value. -/
def settled (kind : ControlKind) (text : Value → Except Raised String) (e : Element) (v : Value) : Element :=
  match kind with
  | .textField => e.typed ((text v).toOption.getD "")
  | .checkBox | .radioButton => e.turned v.wantsSet
  | _ => e

/-- What it was fitted to before does not count. -/
theorem settled_settled : (e.settled kind text v).settled kind text v' = e.settled kind text v' := by
  cases kind <;> rfl

/-- An element that has been fitted is of the same kind. -/
theorem Obeys.settled (h : e.Obeys cells kind) (v : Value) : (e.settled kind text v).Obeys cells kind := by
  cases h with
  | textField henabled => exact .textField henabled
  | checkBox hselected hflips => exact .checkBox rfl hflips
  | radioButton hselected hflips => exact .radioButton rfl hflips

theorem Suits.settled (h : e.Suits cells kind reads) (v : Value) : (e.settled kind text v).Suits cells kind reads := by
  have hkeeps : (e.settled kind text v).tag = e.tag ∧ (e.settled kind text v).attributes = e.attributes := by
    cases kind <;> exact ⟨rfl, rfl⟩
  have hattribute : ∀ name, (e.settled kind text v).getAttribute cells name = e.getAttribute cells name := by
    intro name
    rw [getAttribute, hkeeps.2]
    rfl
  cases h with
  | choices htag => exact .choices (hkeeps.1 ▸ htag)
  | input htag htype hword => exact .input (hkeeps.1 ▸ htag) ((hattribute _).trans htype) hword
  | other htag hselect hinput => exact .other (hkeeps.1 ▸ htag) hselect hinput

/-- To bring an element into the state that a value stands for. -/
theorem fit?_state (h : v.StandsFor kind) : e.fit? cells kind text v = e.fitState? cells v.wantsSet := by
  rcases h with ⟨rfl, hsome⟩ | ⟨rfl, hset⟩
  · obtain ⟨t, ht⟩ := Option.isSome_iff_exists.mp hsome
    rw [fit?, ht, Option.bind_some, Value.wantsSet, ht]
    rfl
  · rw [hset]
    exact if_pos hset

/-- What a fit that succeeds is: a text is typed, or the element is in the wanted state already, or it is
clicked. -/
inductive Fits (cells : Cells) (text : Value → Except Raised String) (e : Element) (v : Value) :
    ControlKind → List ElementUse → Element → Prop where
  | typed {t : String} : text v = .ok t → e.writable cells = true →
      Fits cells text e v .textField [.sendKeys [.text t], .clear, .getAttribute (.text "readonly"), .isEnabled]
        (e.typed t)
  | stays {kind : ControlKind} : v.StandsFor kind → e.chosen = v.wantsSet → Fits cells text e v kind [.isSelected] e
  | turns {kind : ControlKind} : v.StandsFor kind → e.chosen ≠ v.wantsSet →
      Fits cells text e v kind [.click, .isSelected] (e.turned v.wantsSet)

theorem fits_of_fitState? (hkind : v.StandsFor kind) (hfit : e.fitState? cells v.wantsSet = some (uses, e')) :
    e.Fits cells text v kind uses e' := by
  unfold fitState? at hfit
  split at hfit
  · rename_i hchosen
    cases hfit
    exact .stays hkind hchosen
  · rename_i hchosen
    split at hfit
    · cases hfit
      exact .turns hkind hchosen
    · cases hfit

theorem fits_of_fit? (h : e.Obeys cells kind) (hfit : e.fit? cells kind text v = some (uses, e')) :
    e.Fits cells text v kind uses e' := by
  cases h with
  | textField henabled =>
    obtain ⟨t, ht, hfit⟩ := Option.bind_eq_some_iff.mp hfit
    have htext : text v = .ok t := by
      cases htext : text v with
      | error fault =>
        rw [htext] at ht
        cases ht
      | ok t' =>
        rw [htext] at ht
        exact congrArg Except.ok (Option.some.inj ht)
    unfold fitText? at hfit
    split at hfit
    · rename_i hwritable
      cases hfit
      exact .typed htext hwritable
    · cases hfit
  | checkBox hselected hflips =>
    obtain ⟨t, ht, -⟩ := Option.bind_eq_some_iff.mp hfit
    have hkind : v.StandsFor .checkBox := .inl ⟨rfl, Option.isSome_iff_exists.mpr ⟨t, ht⟩⟩
    exact fits_of_fitState? hkind ((fit?_state hkind).symm.trans hfit)
  | radioButton hselected hflips =>
    by_cases hset : v.wantsSet = true
    · have hkind : v.StandsFor .radioButton := .inr ⟨rfl, hset⟩
      exact fits_of_fitState? hkind ((fit?_state hkind).symm.trans hfit)
    · exact absurd ((if_neg hset).symm.trans hfit) (by simp)

/-- A fit that succeeds settles the element. -/
theorem Fits.settled (h : e.Fits cells text v kind uses e') (hobeys : e.Obeys cells kind) :
    e' = e.settled kind text v := by
  cases h with
  | typed htext hwritable =>
    rw [Element.settled, htext]
    rfl
  | stays hkind hchosen =>
    have hturned : e = e.turned v.wantsSet := by
      rw [← hchosen]
      cases hobeys with
      | textField => rcases hkind with ⟨hkind, -⟩ | ⟨hkind, -⟩ <;> cases hkind
      | checkBox hselected | radioButton hselected => rw [turned, chosen, hselected, ← hselected]
    rcases hkind with ⟨rfl, -⟩ | ⟨rfl, -⟩ <;> exact hturned
  | turns hkind hchosen => rcases hkind with ⟨rfl, -⟩ | ⟨rfl, -⟩ <;> rfl

/-- How often a row of values has an element clicked. -/
def clicks (e : Element) (kind : ControlKind) (values : List Value) : Nat :=
  match kind with
  | .checkBox | .radioButton => flipsAmong e.chosen (values.map Value.wantsSet)
  | _ => 0

/-- An element is clicked once if the fit changes its state. -/
theorem Fits.clicks (h : e.Fits cells text v kind uses e') :
    uses.countP ElementUse.isClick = e.clicks kind [v] := by
  cases h with
  | typed => rfl
  | stays hkind hchosen =>
    have hnone : flipsAmong e.chosen [v.wantsSet] = 0 := by simp [flipsAmong, hchosen]
    rcases hkind with ⟨rfl, -⟩ | ⟨rfl, -⟩ <;> exact hnone.symm
  | turns hkind hchosen =>
    have hone : flipsAmong e.chosen [v.wantsSet] = 1 := by simp [flipsAmong, hchosen]
    rcases hkind with ⟨rfl, -⟩ | ⟨rfl, -⟩ <;> exact hone.symm

/-- An element that has been fitted to a value can be fitted to it again: no state has to be changed
for that, and a text is only replaced by itself. -/
theorem Fits.again (h : e.Fits cells text v kind uses e') :
    ∃ uses', e'.fit? cells kind text v = some (uses', e') ∧
      (kind ≠ .textField → uses'.countP ElementUse.isClick = 0) := by
  cases h with
  | @typed t htext hwritable =>
    have hagain : (e.typed t).writable cells = true := hwritable
    refine ⟨[.sendKeys [.text t], .clear, .getAttribute (.text "readonly"), .isEnabled], ?_, fun _ => rfl⟩
    rw [fit?, htext]
    exact if_pos hagain
  | stays hkind hchosen => exact ⟨_, (fit?_state hkind).trans (if_pos hchosen), fun _ => rfl⟩
  | turns hkind hchosen =>
    have hchosen' : (e.turned v.wantsSet).chosen = v.wantsSet := rfl
    exact ⟨_, (fit?_state hkind).trans (if_pos hchosen'), fun _ => rfl⟩

/-- A text is only typed if there is one. -/
theorem Fits.exists_text (h : e.Fits cells text v .textField uses e') : ∃ t, text v = .ok t := by
  generalize hkind : ControlKind.textField = kind at h
  cases h with
  | @typed t htext => exact ⟨t, htext⟩
  | stays hstands | turns hstands =>
    subst hkind
    rcases hstands with ⟨hkind, -⟩ | ⟨hkind, -⟩ <;> cases hkind

/-- What comes of a row of values does not depend on how often the element is read in between. -/
theorem fitAll?_reads (reads : List ElementUse) (e : Element) (values : List Value) :
    (fitAll? cells kind text reads e values).map (·.2) = (fitAll? cells kind text [] e values).map (·.2) := by
  induction values generalizing e with
  | nil => rfl
  | cons v values ih =>
    unfold fitAll?
    split
    · exact ih e
    · cases e.fit? cells kind text v with
      | none => rfl
      | some one => simpa [Function.comp_def] using ih one.2

/-- The first value of a row that is not absent is fitted first. -/
theorem fitAll?_cons (hv : v.isNone = false) {o : List ElementUse × Element}
    (h : fitAll? cells kind text reads e (v :: values) = some o) :
    ∃ uses e' more, e.fit? cells kind text v = some (uses, e') ∧
      fitAll? cells kind text reads e' values = some (more, o.2) ∧ o.1 = more ++ (uses ++ reads) := by
  rw [fitAll?, if_neg (by simp [hv])] at h
  obtain ⟨⟨uses, e'⟩, hfit, hmore⟩ := Option.bind_eq_some_iff.mp h
  obtain ⟨⟨more, e''⟩, hrest, rfl⟩ := Option.map_eq_some_iff.mp hmore
  exact ⟨uses, e', more, hfit, hrest, rfl⟩

/-- Absent values change nothing. -/
theorem fitAll?_given (e : Element) (values : List Value) :
    fitAll? cells kind text reads e (Value.given values) = fitAll? cells kind text reads e values := by
  induction values generalizing e with
  | nil => rfl
  | cons v values ih =>
    by_cases hv : v.isNone = true
    · have hskip : Value.given (v :: values) = Value.given values := by simp [Value.given, hv]
      rw [hskip, fitAll?, if_pos hv]
      exact ih e
    · have htake : Value.given (v :: values) = v :: Value.given values := by simp [Value.given, hv]
      rw [htake, fitAll?, fitAll?, if_neg hv, if_neg hv]
      simp only [ih]

/-- What a row of values leaves: the element settled at the last of them. -/
theorem fitAll?_settled (hobeys : e.Obeys cells kind) (hgiven : ∀ v ∈ values, v.isNone = false)
    {o : List ElementUse × Element} (h : fitAll? cells kind text reads e values = some o) :
    o.2 = (values.getLast?.map (e.settled kind text)).getD e := by
  induction values generalizing e o with
  | nil =>
    obtain rfl := Option.some.inj h
    rfl
  | cons v values ih =>
    obtain ⟨uses, e', more, hfit, hrest, -⟩ := fitAll?_cons (hgiven v List.mem_cons_self) h
    obtain rfl := (fits_of_fit? hobeys hfit).settled hobeys
    rw [ih (hobeys.settled v) (fun v hv => hgiven v (List.mem_cons_of_mem _ hv)) hrest]
    cases values with
    | nil => rfl
    | cons v' values =>
      rw [List.getLast?_cons_cons]
      obtain ⟨last, hlast⟩ : ∃ last, (v' :: values).getLast? = some last :=
        ⟨_, List.getLast?_eq_some_getLast (List.cons_ne_nil _ _)⟩
      rw [hlast, Option.map_some, Option.map_some, Option.getD_some, Option.getD_some, settled_settled]

/-- How often a row of values has the element clicked. -/
theorem fitAll?_clicks (hobeys : e.Obeys cells kind) (hgiven : ∀ v ∈ values, v.isNone = false)
    (hreads : reads.countP ElementUse.isClick = 0) {o : List ElementUse × Element}
    (h : fitAll? cells kind text reads e values = some o) :
    o.1.countP ElementUse.isClick = e.clicks kind values := by
  induction values generalizing e o with
  | nil =>
    obtain rfl := Option.some.inj h
    cases hobeys <;> rfl
  | cons v values ih =>
    obtain ⟨uses, e', more, hfit, hrest, huses⟩ := fitAll?_cons (hgiven v List.mem_cons_self) h
    have hfits := fits_of_fit? hobeys hfit
    obtain rfl := hfits.settled hobeys
    have hmore : more.countP ElementUse.isClick = (e.settled kind text v).clicks kind values :=
      ih (hobeys.settled v) (fun v hv => hgiven v (List.mem_cons_of_mem _ hv)) hrest
    rw [huses, List.countP_append, List.countP_append, hreads, hfits.clicks, hmore]
    have hone : ∀ b, flipsAmong b (v.wantsSet :: values.map Value.wantsSet) =
        flipsAmong b [v.wantsSet] + flipsAmong v.wantsSet (values.map Value.wantsSet) := by
      intro b
      simp [flipsAmong]
    cases hobeys with
    | textField => rfl
    | checkBox | radioButton =>
      have hboth := hone e.chosen
      simp only [Element.clicks, List.map_cons, List.map_nil, Element.settled] at hboth ⊢
      rw [hboth]
      exact Nat.add_comm _ _

/-- The last value of a row is one that the element can be fitted to again. -/
theorem fitAll?_again (hobeys : e.Obeys cells kind) (hgiven : ∀ v ∈ values, v.isNone = false)
    {o : List ElementUse × Element} (h : fitAll? cells kind text reads e values = some o) {v : Value}
    (hlast : values.getLast? = some v) :
    ∃ (e₀ : Element) (uses : List ElementUse), e₀.Fits cells text v kind uses o.2 := by
  induction values generalizing e o with
  | nil => cases hlast
  | cons v' values ih =>
    obtain ⟨uses, e', more, hfit, hrest, -⟩ := fitAll?_cons (hgiven v' List.mem_cons_self) h
    have hfits := fits_of_fit? hobeys hfit
    cases values with
    | nil =>
      obtain rfl : v' = v := Option.some.inj hlast
      obtain ⟨-, rfl⟩ := Prod.mk.inj (Option.some.inj hrest)
      exact ⟨e, uses, hfits⟩
    | cons v'' values =>
      have hobeys' : e'.Obeys cells kind := hfits.settled hobeys ▸ hobeys.settled v'
      exact ih (o := (more, o.2)) hobeys' (fun v hv => hgiven v (List.mem_cons_of_mem _ hv)) hrest
        (List.getLast?_cons_cons ▸ hlast)

end Element

/-- What is fitted is fitted as before after the element has been handled. -/
theorem World.Presents.handled {w w' : World} {n : String} {e : Element} {kind : ControlKind} {c v : Value}
    {text : Value → Except Raised String} {uses reads : List ElementUse} (h : w.Presents n e kind c reads)
    (he : w.scene.elements.lookup n = some e) (hw' : w.Handled n uses (e.settled kind text v) w') :
    w'.Presents n (e.settled kind text v) kind c reads := by
  cases h with
  | element hsuits => exact .element (hw'.cells ▸ hsuits.settled v)
  | control hcontrol => exact .control (World.Holds.handled ⟨he, hcontrol⟩ hw').control

namespace Prog

variable {caller : Caller} {rounds : Nat} {w : World} {n : String} {id : Nat} {e : Element} {v c : Value}
  {kind : ControlKind} {text : Value → Except Raised String} {reads : List ElementUse} {values : List Value}

/-- A control, or an element, is fitted as the element says, after the reads that tell its kind. -/
theorem run_fit (he : w.scene.elements.lookup n = some e) (hc : w.Presents n e kind c reads)
    (hobeys : e.Obeys w.scene.cells kind) (hv : v.isNone = false)
    (hsteady : kind = .textField → Steady caller rounds id w v (text v)) :
    w.ComesTo n (run caller rounds (fit c v) w)
      ((e.fit? w.scene.cells kind text v).map fun one => (one.1 ++ reads, one.2)) := by
  rw [fit, if_neg (by simp [hv]), bind_eq, run_bind]
  cases hc with
  | element hsuits =>
    obtain ⟨w₁, hrun, hw₁, hcontrol⟩ := run_editable caller rounds he hsuits
    have hholds : w₁.Holds n w.scene.instances.length e := ⟨hw₁.element, hcontrol⟩
    rw [hrun, andThen_ok]
    change w.ComesTo n (run caller rounds (fitByMember _ kind v) w₁) _
    rw [run_fitByMember hholds, ← hw₁.cells]
    exact (run_fitControl hholds (hw₁.cells ▸ hobeys) hv fun hkind => (hsteady hkind).near (hw₁.near id)).after hw₁
  | @control i hcontrol =>
    have hholds : w.Holds n i e := ⟨he, hcontrol⟩
    have hplain : (e.fit? w.scene.cells kind text v).map (fun one => (one.1 ++ [], one.2)) =
        e.fit? w.scene.cells kind text v := by
      simp
    rw [hplain]
    change w.ComesTo n (run caller rounds (fitByMember i kind v) w) _
    rw [run_fitByMember hholds]
    exact run_fitControl hholds hobeys hv hsteady

/-- To fit a control, or an element, to one value after the other. -/
def fitEach (c : Value) : List Value → Prog Unit
  | [] => .done ()
  | v :: values => (fit c v).bind fun _ => fitEach c values

/-- Absent values leave everything alone. -/
theorem fitEach_absent (c : Value) (h : Value.given values = []) : fitEach c values = .done () := by
  induction values with
  | nil => rfl
  | cons v values ih =>
    obtain ⟨hv, hrest⟩ : v = .none ∧ Value.given values = [] := by
      cases v <;> simp_all [Value.given, Value.isNone]
    rw [fitEach, hv, fit_none]
    exact ih hrest

/-- A control, or an element, is fitted to a row of values as the element says. -/
theorem run_fitEach (he : w.scene.elements.lookup n = some e) (hc : w.Presents n e kind c reads)
    (hobeys : e.Obeys w.scene.cells kind)
    (hsteady : kind = .textField → ∀ v ∈ Value.given values, Steady caller rounds id w v (text v)) :
    w.ComesTo n (run caller rounds (fitEach c values) w) (e.fitAll? w.scene.cells kind text reads values) := by
  induction values generalizing w e with
  | nil => exact ⟨w, rfl, .refl he⟩
  | cons v values ih =>
    by_cases hv : v.isNone = true
    · have hnone : v = .none := by
        cases v <;> first | rfl | cases hv
      subst hnone
      rw [fitEach, fit_none, Element.fitAll?, if_pos hv]
      exact ih he hc hobeys hsteady
    · have hgiven : Value.given (v :: values) = v :: Value.given values := by simp [Value.given, hv]
      rw [hgiven] at hsteady
      have hone := run_fit he hc hobeys (by simpa using hv) fun hkind => hsteady hkind v List.mem_cons_self
      have hboth := hone.bind (k := fitEach c values)
        (f := fun e => e.fitAll? w.scene.cells kind text reads values) ?_
      · rw [fitEach, Element.fitAll?, if_neg hv]
        cases hfit : e.fit? w.scene.cells kind text v <;> rw [hfit] at hboth <;> exact hboth
      · intro uses e' w' heq hw'
        obtain ⟨⟨uses', e''⟩, hfit, hpair⟩ := Option.map_eq_some_iff.mp heq
        obtain ⟨-, rfl⟩ := Prod.mk.inj hpair
        obtain rfl := (Element.fits_of_fit? hobeys hfit).settled hobeys
        rw [← hw'.cells]
        refine ih hw'.element (hc.handled he hw') ?_ fun hkind v' hv' =>
          (hsteady hkind v' (List.mem_cons_of_mem _ hv')).near (hw'.near id)
        rw [hw'.cells]
        exact hobeys.settled v

end Prog

/-! ## The last value counts -/

/-- Whether an event is a click of an element. -/
def Event.clicks (n : String) : Event → Bool
  | .element m u => m == n && u.isClick
  | _ => false

/-- How often an element has been clicked. -/
def World.clicks (w : World) (n : String) : Nat := w.scene.events.countP (Event.clicks n)

theorem World.Handled.clicks {w w' : World} {n : String} {uses : List ElementUse} {e : Element}
    (h : w.Handled n uses e w') : w'.clicks n = w.clicks n + uses.countP ElementUse.isClick := by
  have hsame : Event.clicks n ∘ Event.element n = ElementUse.isClick := by
    funext u
    simp [Event.clicks]
  rw [World.clicks, h.events, List.countP_append, List.countP_map, hsame, Nat.add_comm]
  rfl

/-- What a row of fits leaves of an element of a kind.  Nothing else on the page has changed or
has been used, and absent values do not count: without another one, everything is as it was.
Else the element stays at the last of the values; a check box has been clicked as often as the
wanted state changes, and a radio button once at most. -/
structure World.LastWins (w : World) (n : String) (e : Element) (kind : ControlKind)
    (text : Value → Except Raised String) (values : List Value) (w' : World) : Prop where
  untouched : Value.given values = [] → w' = w
  others : ∀ m, m ≠ n → w'.scene.elements.lookup m = w.scene.elements.lookup m
  uses : ∃ uses : List ElementUse, w'.scene.events = uses.map (Event.element n) ++ w.scene.events
  textField : kind = .textField → w'.clicks n = w.clicks n ∧
    ∀ v, (Value.given values).getLast? = some v →
      ∃ t, text v = .ok t ∧ w'.scene.elements.lookup n = some { e with value := .text t }
  checkBox : kind = .checkBox →
    w'.clicks n = w.clicks n + flipsAmong e.chosen ((Value.given values).map Value.wantsSet) ∧
    ∀ v, (Value.given values).getLast? = some v →
      w'.scene.elements.lookup n = some { e with selected := .bool v.wantsSet }
  radioButton : kind = .radioButton →
    w'.clicks n = w.clicks n + (if e.chosen = true ∨ Value.given values = [] then 0 else 1) ∧
    ∀ v, (Value.given values).getLast? = some v →
      w'.scene.elements.lookup n = some { e with selected := .bool true }

/-- To fit a control, or an element, to a value leaves the element as it is, and clicks no check box and no
radio button. -/
def World.StaysAt (caller : Caller) (rounds : Nat) (n : String) (kind : ControlKind) (c v : Value) (w : World) :
    Prop :=
  ∃ w', run caller rounds (fit c v) w = (.ok (), w') ∧
    w'.scene.elements.lookup n = w.scene.elements.lookup n ∧ (kind ≠ .textField → w'.clicks n = w.clicks n)

section LastWins

variable {caller : Caller} {rounds : Nat} {w w' : World} {n : String} {id : Nat} {e : Element} {c : Value}
  {kind : ControlKind} {text : Value → Except Raised String} {reads : List ElementUse} {values : List Value}

/-- The uses that tell the kind of an element are no clicks. -/
theorem Element.Suits.countP_isClick (h : e.Suits w.scene.cells kind reads) :
    reads.countP ElementUse.isClick = 0 := by
  cases h <;> rfl

theorem World.Presents.countP_isClick (h : w.Presents n e kind c reads) : reads.countP ElementUse.isClick = 0 := by
  cases h with
  | element hsuits => exact hsuits.countP_isClick
  | control => rfl

/-- A radio button is only ever fitted to be chosen. -/
theorem Element.fitAll?_wantsSet (hgiven : ∀ v ∈ values, v.isNone = false) {cells : Cells}
    {o : List ElementUse × Element} (h : fitAll? cells .radioButton text reads e values = some o) :
    ∀ v ∈ values, v.wantsSet = true := by
  induction values generalizing e o with
  | nil => exact fun _ hv => nomatch hv
  | cons v values ih =>
    obtain ⟨uses, e', more, hfit, hrest, -⟩ := fitAll?_cons (hgiven v List.mem_cons_self) h
    intro v' hv'
    rcases List.mem_cons.mp hv' with rfl | hv'
    · by_cases hset : v'.wantsSet = true
      · exact hset
      · exact absurd ((if_neg hset).symm.trans hfit) (by simp)
    · exact ih (o := (more, o.2)) (fun v hv => hgiven v (List.mem_cons_of_mem _ hv)) hrest v' hv'

/-- A row of fits that succeed, and what it leaves. -/
theorem handled_of_run (he : w.scene.elements.lookup n = some e) (hc : w.Presents n e kind c reads)
    (hobeys : e.Obeys w.scene.cells kind)
    (hsteady : kind = .textField → ∀ v ∈ Value.given values, Steady caller rounds id w v (text v))
    (hrun : run caller rounds (fitEach c values) w = (.ok (), w')) :
    ∃ o, e.fitAll? w.scene.cells kind text reads (Value.given values) = some o ∧ w.Handled n o.1 o.2 w' := by
  have hcomes := run_fitEach he hc hobeys hsteady
  rw [hrun] at hcomes
  rw [Element.fitAll?_given]
  cases hall : e.fitAll? w.scene.cells kind text reads values with
  | none =>
    rw [hall] at hcomes
    obtain ⟨fault, w'', heq⟩ := hcomes
    cases heq
  | some o =>
    rw [hall] at hcomes
    obtain ⟨w'', heq, hw'⟩ := hcomes
    cases heq
    exact ⟨o, rfl, hw'⟩

/-- A row of fits that succeed leaves the element at the last value. -/
theorem lastWins_of_run (he : w.scene.elements.lookup n = some e) (hc : w.Presents n e kind c reads)
    (hobeys : e.Obeys w.scene.cells kind)
    (hsteady : kind = .textField → ∀ v ∈ Value.given values, Steady caller rounds id w v (text v))
    (hrun : run caller rounds (fitEach c values) w = (.ok (), w')) : w.LastWins n e kind text values w' := by
  obtain ⟨o, hall, hw'⟩ := handled_of_run he hc hobeys hsteady hrun
  have hgiven : ∀ v ∈ Value.given values, v.isNone = false := Value.isNone_of_mem_given
  have hclicks : w'.clicks n = w.clicks n + e.clicks kind (Value.given values) := by
    rw [hw'.clicks, Element.fitAll?_clicks hobeys hgiven hc.countP_isClick hall]
  have hlast : ∀ v, (Value.given values).getLast? = some v →
      w'.scene.elements.lookup n = some (e.settled kind text v) := by
    intro v hv
    have hsettled := Element.fitAll?_settled hobeys hgiven hall
    rw [hv, Option.map_some, Option.getD_some] at hsettled
    rw [← hsettled]
    exact hw'.element
  refine ⟨fun habsent => ?_, hw'.others, ⟨_, hw'.events⟩, ?_, ?_, ?_⟩
  · rw [fitEach_absent c habsent] at hrun
    exact (congrArg Prod.snd hrun).symm
  · rintro rfl
    refine ⟨hclicks, fun v hv => ?_⟩
    obtain ⟨e₀, uses, hfits⟩ := Element.fitAll?_again hobeys hgiven hall hv
    obtain ⟨t, ht⟩ := hfits.exists_text
    refine ⟨t, ht, (hlast v hv).trans ?_⟩
    rw [Element.settled, ht]
    rfl
  · rintro rfl
    exact ⟨hclicks, hlast⟩
  · rintro rfl
    have hset := Element.fitAll?_wantsSet hgiven hall
    constructor
    · have hwanted : ∀ b ∈ (Value.given values).map Value.wantsSet, b = true := by
        intro b hb
        obtain ⟨v, hv, rfl⟩ := List.mem_map.mp hb
        exact hset v hv
      rw [hclicks, Element.clicks, flipsAmong_true hwanted]
      simp only [List.map_eq_nil_iff]
    · intro v hv
      refine (hlast v hv).trans ?_
      rw [Element.settled, hset v (List.mem_of_getLast? hv)]
      rfl

/-- The element stays at the last value of a row of fits that succeed. -/
theorem staysAt_of_run (he : w.scene.elements.lookup n = some e) (hc : w.Presents n e kind c reads)
    (hobeys : e.Obeys w.scene.cells kind)
    (hsteady : kind = .textField → ∀ v ∈ Value.given values, Steady caller rounds id w v (text v))
    (hrun : run caller rounds (fitEach c values) w = (.ok (), w')) {v : Value}
    (hv : (Value.given values).getLast? = some v) : w'.StaysAt caller rounds n kind c v := by
  obtain ⟨o, hall, hw'⟩ := handled_of_run he hc hobeys hsteady hrun
  have hgiven : ∀ v ∈ Value.given values, v.isNone = false := Value.isNone_of_mem_given
  have hmem := List.mem_of_getLast? hv
  obtain ⟨e₀, uses, hfits⟩ := Element.fitAll?_again hobeys hgiven hall hv
  obtain ⟨uses', hagain, hnone⟩ := hfits.again
  have hsettled := Element.fitAll?_settled hobeys hgiven hall
  rw [hv, Option.map_some, Option.getD_some] at hsettled
  rw [hsettled] at hw' hagain
  have hobeys' : (e.settled kind text v).Obeys w'.scene.cells kind := by
    rw [hw'.cells]
    exact hobeys.settled v
  have hone := run_fit hw'.element (hc.handled he hw') hobeys' (hgiven v hmem) fun hkind =>
    (hsteady hkind v hmem).near (hw'.near id)
  rw [hw'.cells, hagain] at hone
  obtain ⟨w'', hrun', hw''⟩ := hone
  refine ⟨w'', hrun', hw''.element.trans hw'.element.symm, fun hkind => ?_⟩
  rw [hw''.clicks, List.countP_append, hnone hkind, hc.countP_isClick, Nat.add_zero]

end LastWins

/-- **The last value counts**: an element of which the control is a text field, a check box or
a radio button is fitted to one value after the other; the texts of the values, where the
element is a text field, are found without anything else being done, and are the same as long
as nothing changes but the page and one instance.  If all fits succeed, the element stays at
the last value that is not absent, whatever came before, and a further fit to that value
leaves it there.  The same holds for the control that is made of the element, and the fits of
the one succeed if and only if those of the other do. -/
theorem fitEach_lastWins {caller : Caller} {rounds : Nat} {w : World} {n : String} {e : Element}
    (he : w.scene.elements.lookup n = some e) {kind : ControlKind} {reads : List ElementUse}
    (hsuits : e.Suits w.scene.cells kind reads) (hobeys : e.Obeys w.scene.cells kind) {id : Nat}
    {text : Value → Except Raised String} {values : List Value}
    (hsteady : kind = .textField → ∀ v ∈ Value.given values, Steady caller rounds id w v (text v)) :
    let fits (c : Value) := run caller rounds (fitEach c values)
    ∃ i w₁, run caller rounds (editable (.element n)) w = (.ok (.control i kind), w₁) ∧
      w₁.scene.elements.lookup n = some e ∧ w₁.clicks n = w.clicks n ∧
      (∀ w', fits (.element n) w = (.ok (), w') → w.LastWins n e kind text values w' ∧
        ∀ v, (Value.given values).getLast? = some v → w'.StaysAt caller rounds n kind (.element n) v) ∧
      (∀ w', fits (.control i kind) w₁ = (.ok (), w') → w₁.LastWins n e kind text values w' ∧
        ∀ v, (Value.given values).getLast? = some v → w'.StaysAt caller rounds n kind (.control i kind) v) ∧
      ((fits (.element n) w).1 = .ok () ↔ (fits (.control i kind) w₁).1 = .ok ()) := by
  intro fits
  obtain ⟨w₁, hrun, hw₁, hcontrol⟩ := run_editable caller rounds he hsuits
  have hraw : w.Presents n e kind (.element n) reads := .element hsuits
  have hmade : w₁.Presents n e kind (.control w.scene.instances.length kind) [] := .control hcontrol
  have hobeys₁ : e.Obeys w₁.scene.cells kind := hw₁.cells ▸ hobeys
  have hsteady₁ : kind = .textField → ∀ v ∈ Value.given values, Steady caller rounds id w₁ v (text v) :=
    fun hkind v hv => (hsteady hkind v hv).near (hw₁.near id)
  refine ⟨w.scene.instances.length, w₁, hrun, hw₁.element, ?_, fun w' hfits => ?_, fun w' hfits => ?_, ?_⟩
  · rw [hw₁.clicks, hsuits.countP_isClick, Nat.add_zero]
  · exact ⟨lastWins_of_run he hraw hobeys hsteady hfits, fun v hv => staysAt_of_run he hraw hobeys hsteady hfits hv⟩
  · exact ⟨lastWins_of_run hw₁.element hmade hobeys₁ hsteady₁ hfits,
      fun v hv => staysAt_of_run hw₁.element hmade hobeys₁ hsteady₁ hfits hv⟩
  · have hone := (run_fitEach he hraw hobeys hsteady).ok_iff
    have htwo := (run_fitEach hw₁.element hmade hobeys₁ hsteady₁).ok_iff
    have hsame : ((e.fitAll? w.scene.cells kind text reads values).map (·.2)).isSome =
        ((e.fitAll? w.scene.cells kind text [] values).map (·.2)).isSome :=
      congrArg Option.isSome (Element.fitAll?_reads reads e values)
    rw [Option.isSome_map, Option.isSome_map] at hsame
    rw [hw₁.cells] at htwo
    rw [hone, htwo, hsame]

/-! ## A page that is fitted again and again -/

/-- A text field, a check box and a radio button. -/
def repeatedSetting : Setting where
  elements := [("name", { tag := .text "textarea", value := .text "Ada", attributes := .map 1 }),
    ("box", { attributes := .map 3 }), ("radio", { attributes := .map 4 })]
  cells := ⟨firstCells.all ++ #[.map [(.text "type", .text "checkbox")], .map [(.text "type", .text "radio")]]⟩

/-- Values for the text field, for the check box and for the radio button. -/
def nameValues : List Value := [.text "Grace", .none, .text "Alan", .none]

def boxValues : List Value := [.toggle .set, .none, .text "set", .toggle .clear, .toggle .set]

def radioValues : List Value := [.none, .toggle .set, .text "set"]

/-- The world after one of these has been fitted to a row of values. -/
def repeatedWorld (n : String) (values : List Value) : World :=
  (run (callAt 1 1) 1 (fitEach (.element n) values) repeatedSetting.world).2

/-- A row of fits that has an answer leaves that world. -/
theorem run_repeated {n : String} {values : List Value}
    (h : (run (callAt 1 1) 1 (fitEach (.element n) values) repeatedSetting.world).1.isOk = true) :
    run (callAt 1 1) 1 (fitEach (.element n) values) repeatedSetting.world = (.ok (), repeatedWorld n values) := by
  refine Prod.ext ?_ rfl
  cases hanswer : (run (callAt 1 1) 1 (fitEach (.element n) values) repeatedSetting.world).1 with
  | error fault =>
    rw [hanswer] at h
    cases h
  | ok _ => rfl

/-- How the word for a kind of element is read. -/
theorem readsAs_of_lowercase {instead t : String} (hne : t ≠ "") (h : Text.lowercaseString t = t) :
    (Value.text t).ReadsAs instead t := by
  have hreads : (Value.text t).ReadsAs instead (Text.lowercaseString t) := .text hne
  rwa [h] at hreads

/-- A text field shows the last text, a check box is clicked three times for the four states
that are wanted of it, and a radio button once. -/
theorem repeatedWorld_lastWins :
    (∃ e, (repeatedWorld "name" nameValues).scene.elements.lookup "name" = some e ∧ e.value = .text "Alan") ∧
    (∃ e, (repeatedWorld "box" boxValues).scene.elements.lookup "box" = some e ∧ e.selected = .bool true ∧
      (repeatedWorld "box" boxValues).clicks "box" = 3) ∧
    ∃ e, (repeatedWorld "radio" radioValues).scene.elements.lookup "radio" = some e ∧ e.selected = .bool true ∧
      (repeatedWorld "radio" radioValues).clicks "radio" = 1 := by
  have hinput : Value.ReadsAs "" (.text "input") "input" := readsAs_of_lowercase (by decide) (by decide +kernel)
  refine ⟨?_, ?_, ?_⟩
  · have hother : Value.ReadsAs "" (.text "textarea") "textarea" :=
      readsAs_of_lowercase (by decide) (by decide +kernel)
    have hsteady : ∀ v ∈ Value.given nameValues,
        Steady (callAt 1 1) 1 0 repeatedSetting.world v (.ok (v.plainText?.getD "")) := by
      intro v hv
      simp only [Value.given, nameValues, List.filter_cons, Value.isNone] at hv
      rcases List.mem_cons.mp hv with rfl | hv
      · exact steady_of_plainText rfl _ _ _ _
      · obtain rfl := List.mem_singleton.mp hv
        exact steady_of_plainText rfl _ _ _ _
    obtain ⟨i, w₁, -, -, -, hraw, -, -⟩ := @fitEach_lastWins (callAt 1 1) 1 repeatedSetting.world "name" _ rfl _ _
      (.other hother (by decide) (by decide)) (.textField rfl) 0 _ _ fun _ => hsteady
    obtain ⟨hwins, -⟩ := hraw _ (run_repeated (by decide +kernel))
    obtain ⟨t, ht, hshown⟩ := (hwins.textField rfl).2 (.text "Alan") rfl
    cases ht
    exact ⟨_, hshown, rfl⟩
  · have hbox : Value.ReadsAs "text" (.text "checkbox") "checkbox" :=
      readsAs_of_lowercase (by decide) (by decide +kernel)
    obtain ⟨i, w₁, -, -, -, hraw, -, -⟩ := @fitEach_lastWins (callAt 1 1) 1 repeatedSetting.world "box" _ rfl _ _
      (.input hinput rfl hbox) (.checkBox rfl rfl) 0 (fun _ => .ok "") boxValues (fun hkind => by cases hkind)
    obtain ⟨hwins, -⟩ := hraw _ (run_repeated (by decide +kernel))
    obtain ⟨hclicks, hshown⟩ := hwins.checkBox rfl
    exact ⟨_, hshown (.toggle .set) rfl, rfl, hclicks⟩
  · have hradio : Value.ReadsAs "text" (.text "radio") "radio" :=
      readsAs_of_lowercase (by decide) (by decide +kernel)
    obtain ⟨i, w₁, -, -, -, hraw, -, -⟩ := @fitEach_lastWins (callAt 1 1) 1 repeatedSetting.world "radio" _ rfl _ _
      (.input hinput rfl hradio) (.radioButton rfl rfl) 0 (fun _ => .ok "") radioValues (fun hkind => by cases hkind)
    obtain ⟨hwins, -⟩ := hraw _ (run_repeated (by decide +kernel))
    obtain ⟨hclicks, hshown⟩ := hwins.radioButton rfl
    exact ⟨_, hshown (.text "set") rfl, rfl, hclicks⟩

/-- The record that shows how often it has been shown. -/
def countingValue : Value := .object 0 (some ⟨0, "Shown"⟩)

/-- The world with that record. -/
def countingWorld : World :=
  repeatedSetting.world.after
    [.op (.addFunction (.inspect (.request (.count "shown")))),
     .op (.addRecordType { name := "Shown", plain := false, members := [(textMember, .method textMember 0)] }),
     .op (.addInstance {})]

/-- What the text field shows after it has been fitted to some values, if this succeeds. -/
def shownAfter (values : List Value) : Option String :=
  match run (callAt 1 10) 1 (fitEach (.element "name") values) countingWorld with
  | (.ok (), w) => (w.scene.elements.lookup "name").bind (·.value.word?)
  | _ => none

/-- Where its text does not stay the same, the last value does not tell what a text field shows, and to
fit the field to it once more changes what it shows. -/
theorem countingWorld_forgets :
    shownAfter [countingValue] = some "2" ∧ shownAfter [countingValue, countingValue] = some "4" := by
  decide +kernel

end PageObjects
