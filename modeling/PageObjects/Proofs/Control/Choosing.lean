import PageObjects.Proofs.Control.Using

/-!
# Choosing options by a pattern

To fit a list of choices to a pattern is to look for the first option whose text the pattern
is found in.  The texts are read in order and no further than that option, which is clicked
unless it is chosen already; no other option is asked or touched.  Without such an option
every text is read once, and nothing is clicked.

Main definitions:

- `Offer`: an option, with what it answers about itself.
- `Scene.Choices`: a control of a list of choices.
- `World.Chooses`, `World.Refuses`: what a search among the options leaves.

Main results:

- Theorem `Prog.run_chooseMatching_passes`: options that do not suit are read and passed.
- Theorem `Prog.run_fitChoice_chooses` and `Prog.run_fitChoice_refuses`: what comes of a
  pattern that suits an option, and of one that suits none.
- Theorem `fitChoice_firstMatching`: a pattern takes the first option it is found in.
-/

namespace PageObjects

/-! ## Options -/

/-- An option: the element, under its name, with what it answers about itself. -/
structure Offer where
  name : String
  element : Element
  text : String
  chosen : Bool

namespace Offer

/-- An option is on the page, answers as noted, and can be clicked. -/
structure Stands (s : Scene) (o : Offer) : Prop where
  there : s.elements.lookup o.name = some o.element
  text : o.element.text.word? = some o.text
  chosen : o.element.selected = .bool o.chosen
  noFault : Raised.ofValue? s.cells o.element.clickFault = none
  clickable : ∃ flips, o.element.flips s.cells = .ok flips

/-- The value that stands for an option. -/
def value (o : Offer) : Value := .element o.name

/-- An option after it has been chosen. -/
def picked (o : Offer) : Offer := { o with element := { o.element with selected := .bool true }, chosen := true }

/-- What is left when the texts of options have been read; the latest event comes first. -/
def reads (os : List Offer) : List Event := (os.map fun o => .element o.name .text).reverse

theorem reads_append (os os' : List Offer) : reads (os ++ os') = reads os' ++ reads os := by
  simp [reads]

@[simp] theorem reads_cons (o : Offer) (os : List Offer) : reads (o :: os) = reads os ++ [.element o.name .text] := by
  simp [reads]

/-- A click chooses an option that is not chosen. -/
theorem Stands.use_click {s : Scene} {o : Offer} (h : o.Stands s) (hfree : o.chosen = false) :
    o.element.use s.cells .click = (.ok .none, o.picked.element) := by
  obtain ⟨flips, hflips⟩ := h.clickable
  have hfalse : s.cells.truthy o.element.selected = false := by
    rw [h.chosen, hfree]
    rfl
  cases flips with
  | true =>
    rw [Element.use_click_checkbox h.noFault hflips, hfalse]
    rfl
  | false => exact Element.use_click_other h.noFault hflips

/-- An option that is chosen already is as it is after being chosen. -/
theorem Stands.picked_of_chosen {s : Scene} {o : Offer} (h : o.Stands s) (hchosen : o.chosen = true) :
    o.picked = o := by
  have hselected := h.chosen
  rw [hchosen] at hselected
  obtain ⟨name, element, text, chosen⟩ := o
  simp only at hchosen
  subst hchosen
  simp only [picked, ← hselected]

end Offer

/-- A control of a list of choices: the element that it wraps, whose options are on the page. -/
structure Scene.Choices (s : Scene) (i : Nat) (n : String) (options : List Offer) : Prop where
  wrapped : s.field? i Prog.wrappedField = some (.element n)
  kind : s.field? i "kind" = none
  isSelect : ∃ e tag, s.elements.lookup n = some e ∧ e.tag.word? = some tag ∧ Text.lowercaseString tag = "select" ∧
    ∃ named names, e.field? "options" = some named ∧ s.members? named = some names ∧
      names.map s.readNamed = options.map fun o => .ok o.value
  stand : ∀ o ∈ options, o.Stands s

/-! ## Searching -/

/-- A world in which an option has been asked whether it is chosen, and is chosen. -/
def World.picked (w : World) (o : Offer) : World :=
  { w with
    scene := { w.scene with
      events := (if o.chosen then [] else [.element o.name .click]) ++ .element o.name .isSelected :: w.scene.events
      elements := Assoc.put o.name o.picked.element w.scene.elements } }

/-- To ask elements leaves options as they are. -/
theorem Offer.Stands.asked {w : World} {o : Offer} (h : o.Stands w.scene) (events : List Event) :
    o.Stands (w.asked events).scene := ⟨h.there, h.text, h.chosen, h.noFault, h.clickable⟩

/-- An option has been chosen from a list of choices.  The tag of the list was read, then the
texts of the options before it and its own, in order; it was asked whether it is chosen, and
clicked unless it was.  It is chosen now, and nothing else has changed but the log. -/
structure World.Chooses (w : World) (n : String) (before : List Offer) (o : Offer) (chosen : Bool) (w' : World) :
    Prop where
  events : w'.scene.events = (if chosen then [] else [.element o.name .click]) ++
    .element o.name .isSelected :: (Offer.reads (before ++ [o]) ++ .element n .tagName :: w.scene.events)
  picked : w'.scene.elements.lookup o.name = some { o.element with selected := .bool true }
  others : ∀ m, m ≠ o.name → w'.scene.elements.lookup m = w.scene.elements.lookup m
  rest : w'.scene = { w.scene with events := w'.scene.events, elements := w'.scene.elements }

/-- No option of a list of choices has been chosen.  The tag of the list was read, then the text
of every option once, in order; nothing has changed but the log. -/
def World.Refuses (w : World) (n : String) (options : List Offer) (w' : World) : Prop :=
  w'.scene = (w.asked (Offer.reads options ++ [.element n .tagName])).scene

namespace Prog

variable {caller : Caller} {rounds : Nat} {w : World} {o : Offer}

/-- An option that is reached is chosen. -/
theorem run_pick (h : o.Stands w.scene) :
    run caller rounds ((callMember o.value "is_selected" []).bind fun selected => (truth selected).bind fun chosen =>
      if chosen = true then .done () else (callMember o.value "click" []).bind fun _ => .done ()) w =
        (.ok (), w.picked o) := by
  have hread : run caller rounds (performing (.useElement o.name .isSelected)) w =
      (.ok (.bool o.chosen), w.asked [.element o.name .isSelected]) :=
    run_reading h.there (Prod.ext (congrArg Except.ok h.chosen) rfl)
  have hselected : callMember o.value "is_selected" [] = performing (.useElement o.name .isSelected) :=
    callMember_element o.name (by decide) (by decide) rfl
  have hclick : callMember o.value "click" [] = performing (.useElement o.name .click) :=
    callMember_element o.name (by decide) (by decide) rfl
  rw [hselected, hclick, run_bind, hread, andThen_ok, run_bind, run_truth_bool, andThen_ok]
  cases hchosen : o.chosen with
  | true =>
    have hsame : Assoc.put o.name o.picked.element w.scene.elements = w.scene.elements := by
      rw [h.picked_of_chosen hchosen]
      exact Assoc.put_of_lookup h.there
    simp only [World.picked, hsame, hchosen]
    rfl
  | false =>
    rw [if_neg Bool.false_ne_true, run_bind, run_useElement (h.asked _).there, (h.asked _).use_click hchosen]
    simp only [World.picked, hchosen]
    rfl

variable {source : String} {pattern : Pattern.Compiled} {suits : String → Bool}

/-- An option that does not suit is read and passed. -/
theorem run_chooseMatching_pass (h : o.Stands w.scene) (hfound : pattern.foundIn o.text = .ok false)
    (rest : List Value) :
    run caller rounds (chooseMatching source pattern (o.value :: rest)) w =
      run caller rounds (chooseMatching source pattern rest) (w.asked [.element o.name .text]) := by
  have hread : run caller rounds (performing (.useElement o.name .text)) w =
      (.ok o.element.text, w.asked [.element o.name .text]) := run_reading h.there rfl
  change run caller rounds ((performing (.useElement o.name .text)).bind _) w = _
  rw [run_bind, hread, andThen_ok, h.text, bind_eq, run_ofOption_some_bind, hfound]
  rfl

/-- An option that suits is read and chosen. -/
theorem run_chooseMatching_take (h : o.Stands w.scene) (hfound : pattern.foundIn o.text = .ok true)
    (rest : List Value) :
    run caller rounds (chooseMatching source pattern (o.value :: rest)) w =
      (.ok (), (w.asked [.element o.name .text]).picked o) := by
  have hread : run caller rounds (performing (.useElement o.name .text)) w =
      (.ok o.element.text, w.asked [.element o.name .text]) := run_reading h.there rfl
  change run caller rounds ((performing (.useElement o.name .text)).bind _) w = _
  rw [run_bind, hread, andThen_ok, h.text, bind_eq, run_ofOption_some_bind, hfound]
  exact run_pick (h.asked _)

/-- Options that do not suit are read in order and passed. -/
theorem run_chooseMatching_passes {before : List Offer} (h : ∀ o ∈ before, o.Stands w.scene)
    (hfound : ∀ o ∈ before, pattern.foundIn o.text = .ok false) (rest : List Value) :
    run caller rounds (chooseMatching source pattern (before.map Offer.value ++ rest)) w =
      run caller rounds (chooseMatching source pattern rest) (w.asked (Offer.reads before)) := by
  induction before generalizing w with
  | nil => rfl
  | cons o before ih =>
    have hrest : ∀ x ∈ before, x.Stands (w.asked [.element o.name .text]).scene :=
      fun x hx => (h x (List.mem_cons_of_mem _ hx)).asked _
    rw [List.map_cons, List.cons_append,
      run_chooseMatching_pass (h o List.mem_cons_self) (hfound o List.mem_cons_self),
      ih hrest fun x hx => hfound x (List.mem_cons_of_mem _ hx), World.asked_asked, Offer.reads_cons]

/-- The options of a list of choices are what the variables hold that it names. -/
theorem run_namedValues {names : List Value} {options : List Offer}
    (h : names.map w.scene.readNamed = options.map fun o => .ok o.value) :
    run caller rounds (namedValues names) w = (.ok (options.map Offer.value), w) := by
  induction names generalizing options with
  | nil =>
    obtain rfl : options = [] := by simpa using h.symm
    rfl
  | cons v names ih =>
    obtain ⟨o, rest, rfl, hv, hrest⟩ := List.map_eq_cons_iff.mp h.symm
    have hothers : run caller rounds (namedValues names) w = (.ok (rest.map Offer.value), w) := ih hrest.symm
    simp only [namedValues, bind_eq, run_view_bind, ← hv]
    change run caller rounds ((namedValues names).bind _) w = _
    rw [run_bind, hothers]
    rfl

/-- The options of an element are found without a trace. -/
theorem run_optionsOf {n : String} {e : Element} {named : Value} {names : List Value} {options : List Offer}
    (he : w.scene.elements.lookup n = some e) (hnamed : e.field? "options" = some named)
    (hnames : w.scene.members? named = some names)
    (hvalues : names.map w.scene.readNamed = options.map fun o => .ok o.value) :
    run caller rounds (optionsOf (.element n)) w = (.ok (options.map Offer.value), w) := by
  have hfield : run caller rounds (attributeOf "options" (.element n)) w = (.ok named, w) := by
    change run caller rounds ((view fun s => (s.elements.lookup n).bind fun e => e.field? "options").bind _) w = _
    rw [run_view_bind, he, Option.bind_some, hnamed]
    rfl
  rw [optionsOf, bind_eq, run_bind, hfield, andThen_ok, bind_eq, run_view_bind, hnames, bind_eq,
    run_ofOption_some_bind]
  exact run_namedValues hvalues

/-! ## Fitting -/

variable {i : Nat} {n : String} {options : List Offer}

variable (caller rounds) in
/-- To fit a list of choices to a pattern is to ask it for its tag and to search among its options. -/
theorem run_fitChoice (h : w.scene.Choices i n options) (hpattern : Pattern.compile source = .ok pattern) :
    ∃ w₁, w₁.scene = (w.asked [.element n .tagName]).scene ∧
      run caller rounds (fitControl i .selectList (.pattern source)) w =
        run caller rounds (chooseMatching source pattern (options.map Offer.value)) w₁ := by
  obtain ⟨e, tag, he, htag, hselect, named, names, hnamed, hnames, hvalues⟩ := h.isSelect
  have hread : run caller rounds (performing (.useElement n .tagName)) w =
      (.ok e.tag, w.asked [.element n .tagName]) := run_reading he rfl
  have hplain : Log.Context.Plain [("pattern", .text source)] := List.forall_mem_singleton.mpr rfl
  refine ⟨(w.asked [.element n .tagName]).write (Log.diagnostic .fit "select by pattern"
    [("kind", .text ControlKind.selectList.word), ("pattern", .text source)]), rfl, ?_⟩
  change run caller rounds ((wrappedIn i).bind fun element => _) w = _
  rw [run_bind, run_wrappedIn h.wrapped, andThen_ok]
  change run caller rounds ((performing (.useElement n .tagName)).bind _) w = _
  rw [run_bind, hread, andThen_ok, htag]
  simp only [hselect, if_true]
  rw [bind_eq, run_bind, run_fitting (w := w.asked _) h.kind hplain, andThen_ok, hpattern]
  change run caller rounds ((optionsOf (.element n)).bind _) _ = _
  rw [run_bind, run_optionsOf (w := (w.asked _).write _) he hnamed hnames hvalues, andThen_ok]

/-- The first option that the pattern is found in is chosen. -/
theorem run_fitChoice_chooses {before after : List Offer} (h : w.scene.Choices i n (before ++ o :: after))
    (hpattern : Pattern.compile source = .ok pattern) (hpassed : ∀ x ∈ before, pattern.foundIn x.text = .ok false)
    (hfound : pattern.foundIn o.text = .ok true) :
    ∃ w', run caller rounds (fitControl i .selectList (.pattern source)) w = (.ok (), w') ∧
      w.Chooses n before o o.chosen w' := by
  obtain ⟨w₁, hscene, hrun⟩ := run_fitChoice caller rounds h hpattern
  have hstand : ∀ x ∈ before ++ o :: after, x.Stands w₁.scene := by
    intro x hx
    rw [hscene]
    exact (h.stand x hx).asked _
  have ho : o.Stands (w₁.asked (Offer.reads before)).scene := (hstand o (by simp)).asked _
  rw [List.map_append, List.map_cons, run_chooseMatching_passes (fun x hx => hstand x (by simp [hx])) hpassed,
    run_chooseMatching_take ho hfound] at hrun
  refine ⟨_, hrun, ?_, ?_, ?_, ?_⟩
  · simp [World.picked, World.asked, hscene, Offer.reads]
  · simp [World.picked, Assoc.lookup_put, Offer.picked]
  · intro m hm
    simp [World.picked, World.asked, hscene, Assoc.lookup_put, hm]
  · simp [World.picked, World.asked, hscene]

/-- Without an option that the pattern is found in nothing is chosen. -/
theorem run_fitChoice_refuses (h : w.scene.Choices i n options) (hpattern : Pattern.compile source = .ok pattern)
    (hpassed : ∀ x ∈ options, pattern.foundIn x.text = .ok false) :
    ∃ w', run caller rounds (fitControl i .selectList (.pattern source)) w =
        (.error { fault := .noOptionMatching source }, w') ∧ w.Refuses n options w' := by
  obtain ⟨w₁, hscene, hrun⟩ := run_fitChoice caller rounds h hpattern
  have hstand : ∀ x ∈ options, x.Stands w₁.scene := by
    intro x hx
    rw [hscene]
    exact (h.stand x hx).asked _
  rw [← List.append_nil (options.map Offer.value), run_chooseMatching_passes hstand hpassed] at hrun
  refine ⟨_, hrun, ?_⟩
  simp [World.Refuses, World.asked, hscene]

end Prog

/-! ## Fitting again -/

section Again

variable {w w' : World} {i : Nat} {n : String} {options before : List Offer} {o x : Offer} {chosen : Bool}

/-- An option after the option of a name has been chosen. -/
def Offer.after (x : Offer) (name : String) : Offer := if x.name = name then x.picked else x

theorem Offer.after_self (o : Offer) : o.after o.name = o.picked := if_pos rfl

@[simp] theorem Offer.after_name (x : Offer) (name : String) : (x.after name).name = x.name := by
  unfold after
  split <;> rfl

@[simp] theorem Offer.after_text (x : Offer) (name : String) : (x.after name).text = x.text := by
  unfold after
  split <;> rfl

@[simp] theorem Offer.after_value (x : Offer) (name : String) : (x.after name).value = x.value :=
  congrArg Value.element (x.after_name name)

@[simp] theorem Offer.reads_after (os : List Offer) (name : String) : reads (os.map (after · name)) = reads os := by
  simp [reads, Function.comp_def]

/-- The cells stay as they are. -/
theorem World.Chooses.cells (hw : w.Chooses n before o chosen w') : w'.scene.cells = w.scene.cells := by
  rw [hw.rest]

/-- The other options stand as before, and so does the one that was chosen. -/
theorem World.Chooses.stands (hw : w.Chooses n before o chosen w') (ho : o.Stands w.scene) (hx : x.Stands w.scene) :
    (x.after o.name).Stands w'.scene := by
  by_cases hname : x.name = o.name
  · have helement : x.element = o.element := by
      have hthere := hx.there
      rw [hname, ho.there] at hthere
      exact (Option.some.inj hthere).symm
    rw [Offer.after, if_pos hname]
    refine ⟨?_, hx.text, rfl, ?_, ?_⟩
    · change w'.scene.elements.lookup x.name = some { x.element with selected := .bool true }
      rw [hname, hw.picked, helement]
    · rw [hw.cells]
      exact hx.noFault
    · rw [hw.cells]
      exact hx.clickable
  · rw [Offer.after, if_neg hname]
    refine ⟨(hw.others _ hname).trans hx.there, hx.text, hx.chosen, ?_, ?_⟩
    · rw [hw.cells]
      exact hx.noFault
    · rw [hw.cells]
      exact hx.clickable

/-- The list of choices is one still, with one option chosen. -/
theorem World.Chooses.choices (hw : w.Chooses n before o chosen w') (ho : o ∈ options)
    (h : w.scene.Choices i n options) : w'.scene.Choices i n (options.map (Offer.after · o.name)) := by
  have hfields : w'.scene.fieldsOf i = w.scene.fieldsOf i := by
    rw [hw.rest]
    rfl
  have hmembers : ∀ v, w'.scene.members? v = w.scene.members? v := by
    intro v
    rw [hw.rest]
    rfl
  have hnamed : w'.scene.readNamed = w.scene.readNamed := by
    rw [hw.rest]
    rfl
  refine ⟨?_, ?_, ?_, ?_⟩
  · rw [Scene.field?, hfields]
    exact h.wrapped
  · rw [Scene.field?, hfields]
    exact h.kind
  · obtain ⟨e, tag, he, htag, hselect, named, names, hfield, hnames, hvalues⟩ := h.isSelect
    have hheld : names.map w'.scene.readNamed = (options.map (Offer.after · o.name)).map fun x => .ok x.value := by
      rw [hnamed, hvalues, List.map_map]
      simp [Function.comp_def]
    -- the list itself may be among its options
    by_cases hname : n = o.name
    · have hsame : e = o.element := Option.some.inj (he.symm.trans (hname ▸ (h.stand o ho).there))
      subst hsame
      refine ⟨{ o.element with selected := .bool true }, tag, ?_, htag, hselect, named, names, hfield,
        (hmembers named).trans hnames, hheld⟩
      rw [hname]
      exact hw.picked
    · exact ⟨e, tag, (hw.others n hname).trans he, htag, hselect, named, names, hfield,
        (hmembers named).trans hnames, hheld⟩
  · intro x hx
    obtain ⟨x', hx', rfl⟩ := List.mem_map.mp hx
    exact hw.stands (h.stand o ho) (h.stand x' hx')

/-- A list of choices of which no option was chosen is as it was. -/
theorem World.Refuses.choices (hw : w.Refuses n options w') (h : w.scene.Choices i n options) :
    w'.scene.Choices i n options := by
  rw [World.Refuses] at hw
  rw [hw]
  exact ⟨h.wrapped, h.kind, h.isSelect, fun o ho => (h.stand o ho).asked _⟩

end Again

/-! ## The first option that suits -/

/-- **The first option that suits**: a control of a list of choices is fitted to a pattern, which
says of the text of every option whether it is found in it.  If it is found in some, the first of
these is chosen: no other option is asked whether it is chosen, or clicked, and no text after its
own is read.  If it is found in none, the fit ends with a fault, every text was read once, and
nothing was clicked.  To fit the control to the same pattern again comes to the same, and clicks
nothing. -/
theorem fitChoice_firstMatching {caller : Caller} {rounds : Nat} {w : World} {i : Nat} {n : String}
    {options : List Offer} (h : w.scene.Choices i n options) {source : String} {pattern : Pattern.Compiled}
    (hpattern : Pattern.compile source = .ok pattern) {suits : String → Bool}
    (hsuits : ∀ o ∈ options, pattern.foundIn o.text = .ok (suits o.text)) :
    let fit := Prog.run caller rounds (Prog.fitControl i .selectList (.pattern source))
    let fault : Raised := { fault := .noOptionMatching source }
    (∀ before o after, options = before ++ o :: after → (∀ x ∈ before, suits x.text = false) → suits o.text = true →
      ∃ w' w'', fit w = (.ok (), w') ∧ w.Chooses n before o o.chosen w' ∧
        fit w' = (.ok (), w'') ∧ w'.Chooses n before o true w'') ∧
    ((∀ o ∈ options, suits o.text = false) →
      ∃ w' w'', fit w = (.error fault, w') ∧ w.Refuses n options w' ∧
        fit w' = (.error fault, w'') ∧ w'.Refuses n options w'') := by
  intro fit fault
  constructor
  · intro before o after heq hpassed hfound
    have ho : o ∈ options := by simp [heq]
    have hpassed' : ∀ x ∈ before, pattern.foundIn x.text = .ok false := by
      intro x hx
      rw [hsuits x (by simp [heq, hx]), hpassed x hx]
    have hfound' : pattern.foundIn o.text = .ok true := by rw [hsuits o ho, hfound]
    obtain ⟨w', hrun, hw'⟩ : ∃ w', fit w = (.ok (), w') ∧ w.Chooses n before o o.chosen w' :=
      Prog.run_fitChoice_chooses (heq ▸ h) hpattern hpassed' hfound'
    -- the same option is reached again, and is chosen now
    have hagain := hw'.choices ho h
    rw [heq, List.map_append, List.map_cons, Offer.after_self] at hagain
    have hpassed'' : ∀ x ∈ before.map (Offer.after · o.name), pattern.foundIn x.text = .ok false := by
      intro x hx
      obtain ⟨x', hx', rfl⟩ := List.mem_map.mp hx
      rw [Offer.after_text]
      exact hpassed' x' hx'
    obtain ⟨w'', hrun', hw''⟩ : ∃ w'', fit w' = (.ok (), w'') ∧
        w'.Chooses n (before.map (Offer.after · o.name)) o.picked true w'' :=
      Prog.run_fitChoice_chooses hagain hpattern hpassed'' hfound'
    refine ⟨w', w'', hrun, hw', hrun', ?_, hw''.picked, hw''.others, hw''.rest⟩
    have hreads : Offer.reads (before.map (Offer.after · o.name) ++ [o.picked]) = Offer.reads (before ++ [o]) := by
      rw [Offer.reads_append, Offer.reads_append, Offer.reads_after]
      rfl
    rw [← hreads]
    exact hw''.events
  · intro hnone
    have hpassed : ∀ x ∈ options, pattern.foundIn x.text = .ok false := by
      intro x hx
      rw [hsuits x hx, hnone x hx]
    obtain ⟨w', hrun, hw'⟩ : ∃ w', fit w = (.error fault, w') ∧ w.Refuses n options w' :=
      Prog.run_fitChoice_refuses h hpattern hpassed
    obtain ⟨w'', hrun', hw''⟩ : ∃ w'', fit w' = (.error fault, w'') ∧ w'.Refuses n options w'' :=
      Prog.run_fitChoice_refuses (hw'.choices h) hpattern hpassed
    exact ⟨w', w'', hrun, hw', hrun', hw''⟩

/-- An option with a text. -/
def choosingOffer (name text : String) (chosen : Bool) : Offer :=
  ⟨name, { text := .text text, selected := .bool chosen, attributes := .map 1 }, text, chosen⟩

/-- Three options, of which the last two have the same text. -/
def choosingOffers (chosen : Bool) : List Offer :=
  [choosingOffer "first" "One" true, choosingOffer "second" "Two" chosen, choosingOffer "third" "Two" false]

/-- A list of choices with these options. -/
def choosingSetting (chosen : Bool) : Setting where
  elements := ("list", { tag := .text "SELECT", attributes := .map 1, options := .list 3 }) ::
    (choosingOffers chosen).map fun o => (o.name, o.element)
  cells := (firstCells.make (.list ((choosingOffers chosen).map fun o => .text o.name))).2

/-- The world with a control of that list. -/
def choosingWorld (chosen : Bool) : World :=
  (choosingSetting chosen).world.after [.op (.addInstance { fields := [(Prog.wrappedField, .element "list")] })]

theorem choosingWorld_choices (chosen : Bool) :
    (choosingWorld chosen).scene.Choices 0 "list" (choosingOffers chosen) := by
  refine ⟨rfl, rfl, ⟨_, "SELECT", rfl, rfl, by decide +kernel, .list 3, _, rfl, rfl, rfl⟩, fun o ho => ?_⟩
  simp only [choosingOffers, List.mem_cons, List.not_mem_nil, or_false] at ho
  rcases ho with rfl | rfl | rfl <;> exact ⟨rfl, rfl, rfl, rfl, false, rfl⟩

/-- What a pattern says of the texts of the three options. -/
theorem choosingOffers_suits (source : String) (suits : String → Bool) (chosen : Bool)
    (h : ∀ t ∈ ["One", "Two"],
      (Pattern.compile source).toOption.bind (fun pattern => (pattern.foundIn t).toOption) = some (suits t)) :
    ∃ pattern, Pattern.compile source = .ok pattern ∧
      ∀ o ∈ choosingOffers chosen, pattern.foundIn o.text = .ok (suits o.text) := by
  cases hpattern : Pattern.compile source with
  | error fault =>
    have hone := h "One" (by simp)
    rw [hpattern] at hone
    cases hone
  | ok pattern =>
    have hfound : ∀ t ∈ ["One", "Two"], pattern.foundIn t = .ok (suits t) := by
      intro t ht
      have ht := h t ht
      rw [hpattern] at ht
      cases hanswer : pattern.foundIn t with
      | error fault =>
        rw [Except.toOption, Option.bind_some, hanswer] at ht
        cases ht
      | ok found =>
        rw [Except.toOption, Option.bind_some, hanswer] at ht
        exact congrArg Except.ok (Option.some.inj ht)
    refine ⟨pattern, rfl, fun o ho => hfound _ ?_⟩
    simp only [choosingOffers, List.mem_cons, List.not_mem_nil, or_false] at ho
    rcases ho with rfl | rfl | rfl <;> simp [choosingOffer]

/-- The second option is taken: it is clicked unless it is chosen, and the third one, which has the same
text, is not asked; where no option suits, the list is as it was. -/
theorem choosingWorld_firstMatching :
    (∀ chosen, ∃ w' w'',
      Prog.run (callAt 1 1) 1 (Prog.fitControl 0 .selectList (.pattern "^Tw")) (choosingWorld chosen) = (.ok (), w') ∧
      (choosingWorld chosen).Chooses "list" [choosingOffer "first" "One" true] (choosingOffer "second" "Two" chosen)
        chosen w' ∧
      Prog.run (callAt 1 1) 1 (Prog.fitControl 0 .selectList (.pattern "^Tw")) w' = (.ok (), w'') ∧
      w'.Chooses "list" [choosingOffer "first" "One" true] (choosingOffer "second" "Two" chosen) true w'') ∧
    ∃ w', Prog.run (callAt 1 1) 1 (Prog.fitControl 0 .selectList (.pattern "^w")) (choosingWorld false) =
        (.error { fault := .noOptionMatching "^w" }, w') ∧
      (choosingWorld false).Refuses "list" (choosingOffers false) w' := by
  constructor
  · intro chosen
    obtain ⟨pattern, hpattern, hsuits⟩ := choosingOffers_suits "^Tw" (· == "Two") chosen
      (by decide +kernel)
    have hfits := @fitChoice_firstMatching (callAt 1 1) 1 _ _ _ _ (choosingWorld_choices chosen) _ _ hpattern
      (· == "Two") hsuits
    exact hfits.1 [choosingOffer "first" "One" true] (choosingOffer "second" "Two" chosen)
      [choosingOffer "third" "Two" false] rfl (by simp [choosingOffer]) (by simp [choosingOffer])
  · obtain ⟨pattern, hpattern, hsuits⟩ := choosingOffers_suits "^w" (fun _ => false) false
      (by decide +kernel)
    have hfits := @fitChoice_firstMatching (callAt 1 1) 1 _ _ _ _ (choosingWorld_choices false) _ _ hpattern
      (fun _ => false) hsuits
    obtain ⟨w', -, hrun, hw', -⟩ := hfits.2 fun o _ => rfl
    exact ⟨w', hrun, hw'⟩

end PageObjects
