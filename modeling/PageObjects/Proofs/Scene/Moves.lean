import PageObjects.Proofs.Definition.Table
import PageObjects.Proofs.Program.Deeds
import PageObjects.Proofs.Scene.Parts

/-!
# What becomes of types and definitions

Whatever is done in a scene, types stay as they were made, settings stay, and a
definition only comes to be as an empty one or as an open copy, and only changes by
entries and by being locked, unless its table is written to from outside.  So a
locked definition stays as it is, and all definitions stay well formed.

Main definitions:

- `Definition.Alters`: how a definition may be changed.
- `Scene.Keeps`: types, definitions and settings are left as they are.
- `Scene.Moves`: what a deed does to types and definitions.

Main results:

- Theorem `Definition.declare_closed`: what all entries keep is kept by declarations.
- Theorem `Deed.moves`: every deed is a move.
- Theorem `World.after_locked`: a locked definition stays as it is.
- Theorem `World.after_pageType`: a type stays as it was made.
- Theorem `World.after_wellFormed`: definitions stay well formed.
-/

namespace PageObjects

/-! ## How a definition is changed -/

namespace Definition

variable {d : Definition} {P : Definition → Prop}

/-- What all entries keep is kept by a declaration of a name. -/
theorem declareNamed_closed (h : ∀ d e, P d → P (d.declareEntry e).definition) (hd : P d) (facts : TypeFacts)
    (what : String) (name : GivenName) (entry : Label → Entry) :
    P (d.declareNamed facts what name entry).definition := by
  unfold declareNamed
  split
  · exact h d _ hd
  · exact hd

/-- What all entries keep is kept by both declarations of a link or a button. -/
theorem declarePair_closed (h : ∀ d e, P d → P (d.declareEntry e).definition) (hd : P d) (facts : TypeFacts)
    (p : Pair) : P (d.declarePair facts p).definition := by
  have helement : P (d.declareElement facts (.ofText p.element) p.locator).definition :=
    declareNamed_closed h hd _ _ _ _
  simp only [declarePair, Declared.andThen]
  split
  · exact helement
  · exact declareNamed_closed h helement _ _ _ _

/-- What all entries keep is kept by declarations. -/
theorem declare_closed (h : ∀ d e, P d → P (d.declareEntry e).definition) (hd : P d) (facts : TypeFacts)
    (x : Declaration) : P (d.declare facts x).definition := by
  cases x with
  | address url => exact h d _ hd
  | expectElement name timeout => exact h d _ hd
  | expectTitle title => exact h d _ hd
  | element name locator => exact declareNamed_closed h hd _ _ _ _
  | action name body => exact declareNamed_closed h hd _ _ _ _
  | link label =>
    simp only [declare]
    split
    · exact declarePair_closed h hd _ _
    · exact hd
  | button label =>
    simp only [declare]
    split
    · exact declarePair_closed h hd _ _
    · exact hd

/-- How a definition may be changed: by entries, and by being locked. -/
inductive Alters : Definition → Definition → Prop where
  | same (d : Definition) : Alters d d
  | declare (d : Definition) (facts : TypeFacts) (x : Declaration) : Alters d (d.declare facts x).definition
  | enter (d : Definition) (e : Entry) : Alters d (d.declareEntry e).definition
  | lock (d : Definition) : Alters d d.lock

/-- What entries and locking keep is kept by every change. -/
theorem Alters.closed {d' : Definition} (h : d.Alters d') (hentry : ∀ d e, P d → P (d.declareEntry e).definition)
    (hlock : ∀ d, P d → P d.lock) (hd : P d) : P d' := by
  cases h with
  | same => exact hd
  | declare facts x => exact declare_closed hentry hd facts x
  | enter e => exact hentry d e hd
  | lock => exact hlock d hd

/-- A locked definition is not changed by an entry. -/
theorem declareEntry_locked (h : d.locked = true) (e : Entry) : (d.declareEntry e).definition = d := by
  simp [declareEntry, enter_locked h]

/-- A locked definition is not changed. -/
theorem Alters.of_locked {d' : Definition} (h : d.Alters d') (hd : d.locked = true) : d' = d := by
  refine h.closed (P := fun x => x = d) ?_ ?_ rfl
  · rintro _ e rfl
    exact declareEntry_locked hd e
  · rintro _ rfl
    rw [Definition.lock, ← hd]

/-- What is changed stays well formed. -/
theorem WellFormed.alters {d' : Definition} (h : d.WellFormed) (ha : d.Alters d') : d'.WellFormed :=
  ha.closed (fun _ e hd => hd.enter e) (fun _ hd => hd.lock) h

end Definition

/-! ## What is left as it is -/

namespace Scene

/-- Types, definitions and settings are left as they are. -/
structure Keeps (s s' : Scene) : Prop where
  definitions : s'.definitions = s.definitions
  pageTypes : s'.pageTypes = s.pageTypes
  settings : s'.settings = s.settings

namespace Keeps

variable {s s' s'' : Scene}

theorem refl (s : Scene) : s.Keeps s := ⟨rfl, rfl, rfl⟩

/-- To touch nothing but the browser leaves them as they are. -/
theorem of_browses (h : s.Browses s') : s.Keeps s' := by
  cases h
  exact ⟨rfl, rfl, rfl⟩

theorem adjust (s : Scene) (target : Value) (field : String) (v : Value) : s.Keeps (s.adjust target field v) := by
  unfold Scene.adjust
  split <;> try split
  all_goals exact ⟨rfl, rfl, rfl⟩

theorem register (s : Scene) (catalog : Nat) (key value : Value) : s.Keeps (s.register catalog key value) := by
  unfold Scene.register
  split <;> exact ⟨rfl, rfl, rfl⟩

end Keeps

/-! ## Moves -/

/-- What a deed does to types and definitions.  The table of a definition may be
written to from outside; all else leaves types as they are, and changes definitions
by entries and locking only. -/
inductive Moves (written : Option Nat) (s : Scene) : Scene → Prop where
  | keep {s' : Scene} : s.Keeps s' → Moves written s s'
  | make (name : Label) : Moves written s (s.addDefinition { pageName := name }).2
  | derive (origin : Definition) (name : Label) : origin ∈ s.definitions →
      Moves written s (s.addDefinition (origin.derive name)).2
  | alter (n : Nat) (d d' : Definition) : s.definitions[n]? = some d → d.Alters d' →
      Moves written s (s.setDefinition n d')
  | write (n : Nat) (d : Definition) : written = some n → Moves written s (s.setDefinition n d)
  | addType (t : PageType) : Moves written s (s.addPageType t)

end Scene

/-- A definition that is told something is changed by entries, if it is there. -/
theorem World.change_moves (w : World) (n : Nat) (f : Definition → Declared)
    (h : ∀ d : Definition, d.Alters (f d).definition) : w.scene.Moves none (w.change n f).2.scene := by
  unfold World.change
  split
  · exact .keep (.refl _)
  · rename_i d hd
    exact .alter n d _ hd (h d)

/-- A definition that is changed otherwise is changed by a move, if it is there. -/
theorem World.update_moves (w : World) (n : Nat) (f : Definition → Definition) {written : Option Nat}
    (h : ∀ d, w.scene.definitions[n]? = some d → w.scene.Moves written (w.scene.setDefinition n (f d))) :
    w.scene.Moves written (w.update n f).2.scene := by
  unfold World.update
  split
  · rename_i d hd
    exact h d hd
  · exact .keep (.refl _)

/-- Every deed is a move. -/
theorem Deed.moves (d : Deed) (w : World) : w.scene.Moves d.tableWritten? (d.perform w).scene := by
  have hkeep : ∀ s' : Scene, w.scene.Keeps s' → w.scene.Moves none s' := fun _ h => .keep h
  cases d with
  | renew => exact hkeep _ ⟨rfl, rfl, rfl⟩
  | record r => exact hkeep _ (.refl _)
  | op o =>
    cases o with
    | view f => exact hkeep _ (.refl _)
    | useElement name u => exact hkeep _ (.of_browses (w.scene.useElement_browses name u))
    | readTitle driver => exact hkeep _ (.of_browses (w.scene.readTitle_browses driver))
    | search driver strategy target => exact hkeep _ (.of_browses (Scene.search_browses _ w.scene driver strategy target))
    | visit driver address => exact hkeep _ (.of_browses (w.scene.visit_browses driver address))
    | sleep seconds => exact hkeep _ (.of_browses (w.scene.sleep_browses seconds))
    | adjust target field v => exact hkeep _ (.adjust _ _ _ _)
    | register catalog key value => exact hkeep _ (.register _ _ _ _)
    | addDefinition name => exact .make name
    | derive parent name =>
      show w.scene.Moves none
        (w.scene.addDefinition (((w.scene.definitions[parent]?).getD { pageName := name }).derive name)).2
      cases hd : w.scene.definitions[parent]? with
      | none => exact .make name
      | some origin => exact .derive origin name (List.mem_of_getElem? hd)
    | declare n facts x => exact w.change_moves n _ fun d => .declare d facts x
    | enter n e => exact w.change_moves n _ fun d => .enter d e
    | lock n => exact w.update_moves n _ fun d hd => .alter n d _ hd (.lock d)
    | writeTable n name value => exact w.update_moves n _ fun d _ => .write n _ rfl
    | addPageType t => exact .addType t
    | _ => exact hkeep _ ⟨rfl, rfl, rfl⟩

namespace Scene.Moves

variable {written : Option Nat} {s s' : Scene} {n : Nat} {d : Definition}

/-- Settings stay. -/
theorem settings (h : s.Moves written s') : s'.settings = s.settings := by
  cases h with
  | keep hk => exact hk.settings
  | _ => rfl

/-- Types stay as they were made. -/
theorem pageTypes (h : s.Moves written s') : s.pageTypes <+: s'.pageTypes := by
  cases h with
  | keep hk => exact hk.pageTypes ▸ List.prefix_rfl
  | addType t => exact List.prefix_append _ _
  | _ => exact List.prefix_rfl

/-- A definition is only changed by entries and locking, unless it is written to. -/
theorem definition (h : s.Moves written s') (hn : s.definitions[n]? = some d) (hw : written ≠ some n) :
    ∃ d', s'.definitions[n]? = some d' ∧ d.Alters d' := by
  have hlt : n < s.definitions.length := (List.getElem?_eq_some_iff.mp hn).1
  have happend : ∀ more, (s.definitions ++ more)[n]? = some d := fun more => by
    rw [List.getElem?_append_left hlt, hn]
  cases h with
  | keep hk => exact ⟨d, by rw [hk.definitions, hn], .same d⟩
  | make name => exact ⟨d, happend _, .same d⟩
  | derive origin name _ => exact ⟨d, happend _, .same d⟩
  | alter m x d' hx ha =>
    by_cases hm : m = n
    · subst hm
      obtain rfl : x = d := Option.some.inj (hx.symm.trans hn)
      exact ⟨d', by simp [setDefinition, hlt], ha⟩
    · exact ⟨d, by simp [setDefinition, hm, hn], .same d⟩
  | write m x hm =>
    have hne : m ≠ n := fun heq => hw (heq ▸ hm)
    exact ⟨d, by simp [setDefinition, hne, hn], .same d⟩
  | addType t => exact ⟨d, hn, .same d⟩

/-- Definitions stay well formed, unless one is written to. -/
theorem wellFormed (h : s.Moves none s') (hs : ∀ d ∈ s.definitions, d.WellFormed) :
    ∀ d ∈ s'.definitions, d.WellFormed := by
  intro d hd
  cases h with
  | keep hk => exact hs d (hk.definitions ▸ hd)
  | make name =>
    rcases List.mem_append.mp hd with hd | hd
    · exact hs d hd
    · obtain rfl := List.mem_singleton.mp hd
      exact .fresh name
  | derive origin name horigin =>
    rcases List.mem_append.mp hd with hd | hd
    · exact hs d hd
    · obtain rfl := List.mem_singleton.mp hd
      exact (hs origin horigin).derive name
  | alter n x d' hx ha =>
    rcases List.mem_or_eq_of_mem_set hd with hd | rfl
    · exact hs d hd
    · exact (hs x (List.mem_of_getElem? hx)).alters ha
  | write _ _ hn => cases hn
  | addType t => exact hs d hd

end Scene.Moves

/-! ## Runs -/

namespace World

variable {w : World} {n : Nat} {d : Definition}

/-- Settings stay. -/
theorem after_settings (w : World) (deeds : List Deed) : (w.after deeds).scene.settings = w.scene.settings := by
  induction deeds generalizing w with
  | nil => rfl
  | cons x rest ih =>
    rw [after_cons, ih]
    exact (x.moves w).settings

/-- Types stay as they were made. -/
theorem after_pageTypes (w : World) (deeds : List Deed) :
    w.scene.pageTypes <+: (w.after deeds).scene.pageTypes := by
  induction deeds generalizing w with
  | nil => exact List.prefix_rfl
  | cons x rest ih => exact (x.moves w).pageTypes.trans (ih _)

/-- A type stays as it was made. -/
theorem after_pageType {cls : ClassRef} {t : PageType} (h : w.scene.pageType? cls = some t) (deeds : List Deed) :
    (w.after deeds).scene.pageType? cls = some t := by
  obtain ⟨more, hmore⟩ := w.after_pageTypes deeds
  have hlt : cls.id < w.scene.pageTypes.length := (List.getElem?_eq_some_iff.mp h).1
  rw [Scene.pageType?, ← hmore, List.getElem?_append_left hlt]
  exact h

/-- A locked definition stays as it is, unless its table is written to from outside. -/
theorem after_locked (hn : w.scene.definitions[n]? = some d) (hd : d.locked = true) {deeds : List Deed}
    (h : Spares n deeds) : (w.after deeds).scene.definitions[n]? = some d := by
  induction deeds generalizing w with
  | nil => exact hn
  | cons x rest ih =>
    obtain ⟨d', hd', ha⟩ := (x.moves w).definition hn (h x List.mem_cons_self)
    rw [ha.of_locked hd] at hd'
    exact ih hd' fun y hy => h y (List.mem_cons_of_mem _ hy)

/-- Definitions stay well formed, unless tables are written to from outside. -/
theorem after_wellFormed (hw : ∀ d ∈ w.scene.definitions, d.WellFormed) {deeds : List Deed}
    (h : ∀ n, Spares n deeds) : ∀ d ∈ (w.after deeds).scene.definitions, d.WellFormed := by
  induction deeds generalizing w with
  | nil => exact hw
  | cons x rest ih =>
    have hx : x.tableWritten? = none := by
      cases hwritten : x.tableWritten? with
      | none => rfl
      | some n => exact absurd hwritten (h n x List.mem_cons_self)
    have hmoves := x.moves w
    rw [hx] at hmoves
    exact ih (hmoves.wellFormed hw) fun n y hy => h n y (List.mem_cons_of_mem _ hy)

end World

/-- The definitions that a script starts with are well formed. -/
theorem Setting.wellFormed (setting : Setting) : ∀ d ∈ setting.world.scene.definitions, d.WellFormed := by
  intro d hd
  obtain rfl := List.mem_singleton.mp hd
  exact (Definition.WellFormed.fresh _).lock

end PageObjects
