import PageObjects.Program.Op

/-!
# Which parts of a scene operations touch

A scene has many parts, and an operation touches few of them.  Elements, drivers, the clock and
the events belong to the browser: to use an element, to read a title, to search, to go to an
address and to let time pass touches nothing else.  Every other operation touches one
part.  That an operation leaves a part alone is read off this, whatever the operation does
to the part that it touches.

Main definitions:

- `Scene.Browses`: nothing but the browser is touched, and no event is lost.
- `Scene.Redefines`: nothing but definitions is touched.
- `Scene.Touches`: what an operation touches.

Main results:

- Theorem `Scene.visit_browses`: to go to an address touches nothing but the browser.
- Theorem `Op.run_touches`: every operation touches the browser, or one other part.
-/

namespace PageObjects

namespace Scene

/-! ## The browser -/

/-- Nothing but the browser is touched: elements, drivers and the clock may be others, and events
have been added. -/
inductive Browses (s : Scene) : Scene → Prop where
  | touch (elements : List (String × Element)) (drivers : List (String × Driver)) (clock : Float)
      (events : List Event) : s.events <:+ events → Browses s { s with elements, drivers, clock, events }

variable {s s' s'' : Scene}

theorem Browses.refl (s : Scene) : s.Browses s := .touch _ _ _ _ List.suffix_rfl

theorem Browses.trans (h : s.Browses s') (h' : s'.Browses s'') : s.Browses s'' := by
  obtain ⟨_, _, _, _, hevents⟩ := h
  obtain ⟨_, _, _, _, hevents'⟩ := h'
  exact .touch _ _ _ _ (hevents.trans hevents')

theorem note_browses (s : Scene) (e : Event) : s.Browses (s.note e) := .touch _ _ _ _ (List.suffix_cons _ _)

/-- Other elements are on the page. -/
theorem browses_elements (s : Scene) (elements : List (String × Element)) : s.Browses { s with elements } :=
  .touch _ _ _ _ List.suffix_rfl

/-- There are other drivers. -/
theorem browses_drivers (s : Scene) (drivers : List (String × Driver)) : s.Browses { s with drivers } :=
  .touch _ _ _ _ List.suffix_rfl

theorem useElement_browses (s : Scene) (name : String) (u : ElementUse) : s.Browses (s.useElement name u).2 := by
  unfold useElement
  split
  · exact .refl s
  · exact (s.note_browses _).trans (browses_elements _ _)

theorem readTitle_browses (s : Scene) (driver : String) : s.Browses (s.readTitle driver).2 := by
  unfold readTitle
  split
  · exact .refl s
  · exact s.note_browses _

theorem search_browses (missing : Fault) (s : Scene) (driver : String) (strategy target : Value) :
    s.Browses (s.search missing driver strategy target).2 := by
  simp only [search]
  split
  · exact .refl s
  · split <;> exact (s.note_browses _).trans (browses_drivers _ _)

theorem sleep_browses (s : Scene) (seconds : Value) : s.Browses (s.sleep seconds).2 := by
  simp only [sleep]
  split
  · exact (s.note_browses _).trans (.touch _ _ _ _ List.suffix_rfl)
  · exact s.note_browses _

/-- To go to an address touches nothing but the browser, also if time passes until the page is loaded. -/
theorem visit_browses (s : Scene) (driver : String) (address : Value) : s.Browses (s.visit driver address).2 := by
  simp only [visit]
  split
  · exact .refl s
  · rename_i d _
    have hnote : s.Browses (s.note (.visit driver address)) := s.note_browses _
    have hwait : s.Browses (if (s.note (.visit driver address)).truthy d.loading = true
        then (s.note (.visit driver address)).sleep d.loading
        else (.ok .none, s.note (.visit driver address))).2 := by
      split
      · exact hnote.trans (sleep_browses _ _)
      · exact hnote
    split
    · exact hwait
    · exact hwait
    · exact hwait.trans (browses_drivers _ _)

/-! ## Definitions -/

/-- Nothing but definitions is touched. -/
inductive Redefines (s : Scene) : Scene → Prop where
  | set (definitions : List Definition) : Redefines s { s with definitions }

/-! ## Any part -/

/-- What an operation touches: the browser, or one other part.  Record types and instances
are never lost. -/
inductive Touches (s : Scene) : Scene → Prop where
  | browser {s' : Scene} : s.Browses s' → Touches s s'
  | files (files : FileTree) : Touches s { s with files }
  | cells (cells : Cells) : Touches s { s with cells }
  | held (held : List (String × Value)) : Touches s { s with held }
  | counters (counters : List (String × Nat)) : Touches s { s with counters }
  | functions (body : Expr) : Touches s { s with functions := s.functions ++ [body] }
  | definitions {s' : Scene} : s.Redefines s' → Touches s s'
  | pageTypes (pageTypes : List PageType) : Touches s { s with pageTypes }
  | recordTypes (t : RecordType) : Touches s { s with recordTypes := s.recordTypes ++ [t] }
  | instances (instances : List Instance) : s.instances.length ≤ instances.length → Touches s { s with instances }
  | catalogs (catalogs : List Catalog) : Touches s { s with catalogs }

/-- An instance that is given other fields is still one of as many. -/
theorem setFields_touches (s : Scene) (id : Nat) (fields : List (String × Value)) : s.Touches (s.setFields id fields) :=
  .instances _ (Nat.le_of_eq List.length_set.symm)

theorem adjust_touches (s : Scene) (target : Value) (field : String) (v : Value) :
    s.Touches (s.adjust target field v) := by
  unfold adjust
  split
  · split
    · exact .browser (s.browses_elements _)
    · exact .browser (.refl s)
  · split
    · exact .browser (s.browses_drivers _)
    · exact .browser (.refl s)
  · exact s.setFields_touches _ _
  · exact s.setFields_touches _ _
  · exact s.setFields_touches _ _
  · exact .browser (.refl s)

theorem register_touches (s : Scene) (catalog : Nat) (key value : Value) :
    s.Touches (s.register catalog key value) := by
  unfold register
  split
  · exact .catalogs _
  · exact .browser (.refl s)

namespace Touches

/-- No event is lost. -/
theorem events (h : s.Touches s') : s.events <:+ s'.events := by
  cases h with
  | browser h =>
    cases h
    assumption
  | definitions h =>
    cases h
    exact List.suffix_rfl
  | _ => exact List.suffix_rfl

/-- No record type is lost. -/
theorem recordTypes_kept (h : s.Touches s') : s.recordTypes <+: s'.recordTypes := by
  cases h with
  | browser h | definitions h =>
    cases h
    exact List.prefix_rfl
  | recordTypes t => exact List.prefix_append _ _
  | _ => exact List.prefix_rfl

/-- No instance is lost. -/
theorem instances_le (h : s.Touches s') : s.instances.length ≤ s'.instances.length := by
  cases h with
  | browser h | definitions h =>
    cases h
    exact Nat.le_refl _
  | instances _ hle => exact hle
  | _ => exact Nat.le_refl _

end Touches

end Scene

/-! ## Operations -/

namespace World

variable (w : World) (n : Nat)

/-- To change a definition touches nothing but definitions. -/
theorem change_redefines (f : Definition → Declared) : w.scene.Redefines (w.change n f).2.scene := by
  unfold change
  split
  · exact .set _
  · exact .set _

theorem update_redefines (f : Definition → Definition) : w.scene.Redefines (w.update n f).2.scene := by
  unfold update
  split
  · exact .set _
  · exact .set _

/-- To change a definition logs nothing. -/
theorem change_journal (f : Definition → Declared) : (w.change n f).2.journal = w.journal := by
  unfold change
  split <;> rfl

theorem update_journal (f : Definition → Definition) : (w.update n f).2.journal = w.journal := by
  unfold update
  split <;> rfl

end World

/-- Every operation touches the browser, or one other part. -/
theorem Op.run_touches {β : Type} (o : Op β) (w : World) : w.scene.Touches (o.run w).2.scene := by
  cases o with
  | useElement name u => exact .browser (w.scene.useElement_browses name u)
  | readTitle driver => exact .browser (w.scene.readTitle_browses driver)
  | search driver strategy target => exact .browser (Scene.search_browses _ w.scene driver strategy target)
  | visit driver address => exact .browser (w.scene.visit_browses driver address)
  | sleep seconds => exact .browser (w.scene.sleep_browses seconds)
  | note e => exact .browser (w.scene.note_browses e)
  | count key => exact .counters _
  | adjust target field v => exact w.scene.adjust_touches target field v
  | assign name v => exact .held _
  | makeCell c | putCell i c | setCells cells => exact .cells _
  | addDefinition name | derive parent name => exact .definitions (.set _)
  | declare n facts d => exact .definitions (w.change_redefines n _)
  | enter n e => exact .definitions (w.change_redefines n _)
  | lock n => exact .definitions (w.update_redefines n _)
  | writeTable n name value => exact .definitions (w.update_redefines n _)
  | addPageType t => exact .pageTypes _
  | addRecordType t => exact .recordTypes t
  | addInstance i => exact .instances _ (by simp)
  | setField id field v => exact w.scene.setFields_touches id _
  | setFields id fields => exact w.scene.setFields_touches id fields
  | addCatalog c => exact .catalogs _
  | register catalog key value => exact w.scene.register_touches catalog key value
  | addFunction body => exact .functions body
  | openLogFile place => exact .files _
  | view | setPolicy | openConsole | consoleText | fileText => exact .browser (.refl _)

end PageObjects
