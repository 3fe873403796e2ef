import PageObjects.Proofs.Catalog.Data
import PageObjects.Proofs.PageType.Faults

/-!
# Building a page type from an entry

An entry whose keys are known and whose base is there is built by the statement that
defines a type on that base, with a hook that makes the statements of the entry.  If
the base can be built on, what the entry comes to can be read off what its statements
make of the definition of the base.  The page type is then kept under the name of the
entry, so that later entries can build on it; otherwise the reading ends.

Main definitions:

- `Catalog.BaseIs`: the base of an entry.
- `Draft.comesTo`: what a type on an extensible base comes to.
- `Prog.ComesTo`: the reading of a file comes to an entry.

Main results:

- Theorem `Prog.run_buildPage`: an entry is built by the statement that defines a type.
- Theorem `Scene.Extensible.define_makes`: what an entry on an extensible base comes to.
- Theorem `Prog.ComesTo.run_ok` and `Prog.ComesTo.run_error`: how the reading of a file
  goes on.
-/

namespace PageObjects

/-- The base of an entry: the root, or the type that is kept under the name that the
entry gives. -/
def Catalog.BaseIs (s : Scene) (catalog : Nat) (entries : Value.Entries) (base : ClassRef) : Prop :=
  let name := Value.field "base" entries
  (name.isNone = true ∧ base = rootType) ∨
    name.isNone = false ∧ name.hashable = true ∧
      Value.lookup? name (s.entriesAt (.pages catalog)) = some (.pageType base)

namespace Prog

variable {caller : Caller} {rounds : Nat} {w w' : World} {catalog : Nat} {name raw : Value}
  {entries : Value.Entries} {base : ClassRef}

/-! ## The statement that defines a type -/

/-- A program goes on in the same way if it does so after every answer that it may have. -/
theorem run_bind_congr {α β : Type} {p : Prog α} {k l : α → Prog β}
    (h : ∀ a w₁, run caller rounds p w = (.ok a, w₁) → run caller rounds (k a) w₁ = run caller rounds (l a) w₁) :
    run caller rounds (p.bind k) w = run caller rounds (p.bind l) w := by
  rw [run_bind, run_bind]
  rcases hp : run caller rounds p w with ⟨_ | a, w₁⟩
  · rfl
  · exact h a w₁ hp

/-- Types are defined in the same way by hooks that run in the same way, as long as the
collections are as they were. -/
theorem definePageType_congr {draft : Draft} {f g : ClassRef → Prog (List Raised)}
    (h : ∀ cls w', w'.scene.cells = w.scene.cells → run caller rounds (f cls) w' = run caller rounds (g cls) w') :
    run caller rounds (definePageType draft f) w = run caller rounds (definePageType draft g) w := by
  have hhook : ∀ cls members w', w'.scene.cells = w.scene.cells →
      run caller rounds (runOwnHook cls members f) w' = run caller rounds (runOwnHook cls members g) w' := by
    intro cls members w' hcells
    unfold runOwnHook
    split
    · rfl
    · rfl
    · split
      · exact h cls w' hcells
      · rfl
  have hsetUp : ∀ t cls, run caller rounds (setUpType t cls f) w = run caller rounds (setUpType t cls g) w := by
    intro t cls
    unfold setUpType
    simp only [bind_eq]
    refine run_bind_congr fun parent w₁ hparent => ?_
    obtain rfl := parentOf_ok hparent
    rw [run_op_bind, run_op_bind, run_op_bind, run_op_bind, run_bind, run_bind, hhook]
    rfl
  unfold definePageType
  simp only [bind_eq]
  refine run_bind_congr fun page w₁ hname => ?_
  obtain ⟨-, rfl⟩ := run_ofFault_ok' hname
  rw [run_view_bind, run_view_bind]
  refine run_bind_congr fun full w₁ hfull => ?_
  obtain ⟨-, rfl⟩ := run_ofFault_ok' hfull
  rw [run_view_bind, run_view_bind]
  refine run_bind_congr fun lineage w₁ hlineage => ?_
  obtain ⟨-, rfl⟩ := run_ofOption_ok hlineage
  rw [run_view_bind, run_view_bind]
  cases w.scene.inherited? lineage settingUpMember with
  | some setter => rfl
  | none =>
    rw [run_bind, run_bind, hsetUp]

/-! ## Entries -/

/-- The hook of an entry makes the statements that the entry is read as: it does not
matter whether it is read before or after the type is opened. -/
theorem run_stateEntry (hraw : w.scene.cells.Data raw) (hentries : w.scene.entries? raw = some entries)
    (hcells : w'.scene.cells = w.scene.cells) (cls : ClassRef) :
    run caller rounds (stateEntry cls raw) w' =
      run caller rounds (stateAll cls (Catalog.Entry.steps w.scene entries)) w' := by
  have hsame : w.scene.cells.Agree w'.scene.cells := .of_eq hcells
  rw [stateEntry, bind_eq, run_view_bind, Scene.entries?_data hsame hraw, hentries, bind_eq, run_ofOption_some_bind,
    bind_eq, run_view_bind, Catalog.Entry.steps_data hsame (Scene.dataEntries hraw hentries)]

/-- The base of an entry is found. -/
theorem run_entryBase (hbase : Catalog.BaseIs w.scene catalog entries base) :
    run caller rounds (entryBase catalog name entries) w = (.ok base, w) := by
  unfold entryBase
  rcases hbase with ⟨hnone, rfl⟩ | ⟨hsome, hhash, hlookup⟩
  · rw [if_pos hnone]
    rfl
  · rw [if_neg (by rw [hsome]; exact Bool.false_ne_true), registered, if_pos hhash, bind_eq, run_view_bind, hlookup]
    rfl

/-- An entry whose keys are known and whose base is there is built by the statement that
defines a type on that base, with a hook that makes the statements of the entry. -/
theorem run_buildPage (hraw : w.scene.cells.Data raw) (hentries : w.scene.entries? raw = some entries)
    (hknown : Catalog.Entry.unknownKeys entries = .ok []) (hbase : Catalog.BaseIs w.scene catalog entries base) :
    run caller rounds (buildPage catalog name raw) w =
      run caller rounds
        ((definePageType (Draft.onBase name base (.entry raw) catalogHome) fun cls =>
          (stateAll cls (Catalog.Entry.steps w.scene entries)).bind fun _ => .done []).bind fun r => .done r.1) w := by
  have hhook : ∀ cls w', w'.scene.cells = w.scene.cells →
      run caller rounds ((stateEntry cls raw).bind fun _ => .done ([] : List Raised)) w' =
        run caller rounds ((stateAll cls (Catalog.Entry.steps w.scene entries)).bind fun _ => .done []) w' := by
    intro cls w' hcells
    rw [run_bind, run_bind, run_stateEntry hraw hentries hcells]
  rw [buildPage, bind_eq, run_view_bind, hentries]
  simp only [hknown, bind_eq]
  rw [run_ofFault_ok_bind, if_pos List.isEmpty_nil, run_bind, run_entryBase hbase, andThen_ok, run_bind, run_bind]
  exact congrArg (andThen · _) (definePageType_congr hhook)

end Prog

/-! ## Entries on an extensible base -/

/-- What a type on an extensible base comes to, if its hook makes the statements of a
list: its definition, and the fault that ends the statement that defines it, if there
is one. -/
def Draft.comesTo (w : World) (page : String) (base : ClassRef) (d : Definition) (reading : Reading)
    (steps : List Catalog.Entry.Step) (hook : Hook) (home : String) : Definition × Option Raised :=
  let o := Draft.openingOn w.scene page base d hook home
  Definition.close page ((w.opened o).scene.hasAttribute o.cls)
    (Statement.allMade reading w.scene.settings.elementTimeout ((w.opened o).scene.facts o.cls)
      (d.derive (.ofText page)) steps)

section

variable {caller : Caller} {rounds : Nat} {w : World} {name : Value} {page : String} {base : ClassRef} {d : Definition}
  {reading : Reading} {steps : List Catalog.Entry.Step}

variable (caller rounds) in
/-- A type on an extensible base either gets the definition that its statements come to,
or ends with the fault that they end with. -/
theorem Scene.Extensible.define_makes (hbase : w.scene.Extensible base d) (hname : Prog.typeName name = .ok page)
    (hsteps : ∀ st, .ok st ∈ steps → st.Known ∧ st.Worded ∧ ∀ v ∈ st.names, Prog.Given reading v)
    (hook : Hook) (home : String) :
    let o := Draft.openingOn w.scene page base d hook home
    let made := Draft.comesTo w page base d reading steps hook home
    ∃ answer j,
      Prog.run caller rounds (Prog.definePageType (Draft.onBase name base hook home) fun cls =>
          (Prog.stateAll cls steps).bind fun _ => .done []) w =
        (answer, { scene := (w.opened o).scene.setDefinition w.scene.definitions.length made.1, journal := j }) ∧
      answer.map (·.1) = (Prog.ended made.2).map fun _ => o.cls := by
  intro o made
  have hopening := hbase.opening? page hook home hname
  have hset : w.scene.inherited? o.type.lineage Prog.settingUpMember = none := hbase.setUp
  have hmakes : Prog.Makes caller rounds ((Prog.stateAll o.cls steps).bind fun _ => .done ([] : List Raised))
      (w.opened o) w.scene.definitions.length
      (Statement.allMade reading w.scene.settings.elementTimeout ((w.opened o).scene.facts o.cls)
        (d.derive (.ofText page)) steps) :=
    (Prog.stateAll_makes (w := w.opened o) (Opening.owns hopening).definitionOf? (Opening.definition w o)
      (hbase.opened_overrides page hook home) fun st hst => ⟨(hsteps st hst).1, (hsteps st hst).2.2⟩).thenDone
        fun _ => []
  have horderly : (Statement.allMade reading w.scene.settings.elementTimeout ((w.opened o).scene.facts o.cls)
      (d.derive (.ofText page)) steps).1.Orderly :=
    (hbase.orderly.derive (.ofText page)).allMade fun st hst => (hsteps st hst).2.1
  exact Prog.definePageType_leaves _ hopening rfl hset rfl hmakes.leaves horderly

end

/-- What a type on an extensible base comes to does not depend on its hook, as long as
that makes the same statements, nor on the module that it belongs to. -/
theorem Scene.Extensible.comesTo_eq {w : World} {base : ClassRef} {d : Definition} (h : w.scene.Extensible base d)
    (page : String) (reading : Reading) (steps : List Catalog.Entry.Step) (hook hook' : Hook) (home home' : String) :
    Draft.comesTo w page base d reading steps hook home = Draft.comesTo w page base d reading steps hook' home' := by
  have hfacts := h.opened_facts page hook home hook' home'
  have hattributes := h.opened_hasAttribute page hook home hook' home'
  simp only [Draft.comesTo]
  exact congrArg₂ (fun has facts => Definition.close page has
    (Statement.allMade reading w.scene.settings.elementTimeout facts (d.derive (.ofText page)) steps)) hattributes hfacts

/-- What ends the statement that defines a type on an extensible base: one of the
library's own faults, a statement that cannot be made out, or a name that cannot be shown. -/
theorem Draft.comesTo_fault {w : World} {page : String} {base : ClassRef} {d : Definition} {reading : Reading}
    {steps : List Catalog.Entry.Step} {hook : Hook} {home : String} {r : Raised} (hd : d.Orderly)
    (hsteps : ∀ st, .ok st ∈ steps → st.Worded)
    (hr : (Draft.comesTo w page base d reading steps hook home).2 = some r) :
    r.kind.isOwn = true ∨ (∃ fault, .error fault ∈ steps ∧ r = { fault }) ∨
      ∃ st, .ok st ∈ steps ∧ ∃ v ∈ st.names, reading v = .error r := by
  rcases Definition.close_fault hr with hown | hmade
  · exact .inl hown
  · exact (hd.derive (.ofText page)).allMade_fault hsteps hmade

/-- A name that no type can have ends the statement that defines it. -/
theorem Prog.run_definePageType_unnamed {caller : Caller} {rounds : Nat} {draft : Draft} {fault : Fault}
    (h : Prog.typeName draft.name = .error fault) (declare : ClassRef → Prog (List Raised)) (w : World) :
    Prog.run caller rounds (Prog.definePageType draft declare) w = (.error { fault }, w) := by
  rw [Prog.definePageType, Prog.bind_eq, h]
  rfl

/-- That is no fault of the library's own. -/
theorem Prog.typeName_foreign {name : Value} {fault : Fault} (h : Prog.typeName name = .error fault) :
    ({ fault } : Raised).kind.isOwn = false := by
  unfold Prog.typeName at h
  split at h
  · cases h
    rfl
  · split at h
    · cases h
      rfl
    · split at h <;> cases h
      rfl

/-- A name that a type can have is shown in messages. -/
theorem Scene.text_of_typeName (s : Scene) {name : Value} {page : String} (h : Prog.typeName name = .ok page) :
    ∃ title, s.text name = .ok title := by
  cases name with
  | text | toggle | bindingKind => exact ⟨_, rfl⟩
  | _ => cases h

/-! ## Files -/

namespace Value

/-- What has been put under a key is found there. -/
theorem lookup?_insertKey (key value : Value) (entries : Entries) :
    lookup? key (insertKey key value entries) = some value := by
  induction entries with
  | nil => simp [insertKey, lookup?]
  | cons e rest ih =>
    obtain ⟨k, v⟩ := e
    unfold insertKey
    by_cases hk : (k.identity == key.identity) = true
    · rw [if_pos hk]
      simp only [lookup?, List.find?_cons, hk, Option.map_some]
    · rw [if_neg hk]
      simp only [lookup?, List.find?_cons, hk] at ih ⊢
      exact ih

end Value

namespace Scene

variable {s : Scene} {catalog : Nat}

/-- What has been put under a key of a catalog is found there. -/
theorem register_lookup? (h : (s.catalogs[catalog]?).isSome) (key value : Value) :
    Value.lookup? key ((s.register catalog key value).entriesAt (.pages catalog)) = some value := by
  obtain ⟨c, hc⟩ := Option.isSome_iff_exists.mp h
  have hlt : catalog < s.catalogs.length := (List.getElem?_eq_some_iff.mp hc).1
  simp only [register, hc, entriesAt, List.getElem?_set_self hlt, Option.map_some, Option.getD_some]
  exact Value.lookup?_insertKey key value c.pages

/-- To put something into a catalog leaves all else as it is. -/
theorem register_same (s : Scene) (catalog : Nat) (key value : Value) :
    s.register catalog key value = { s with catalogs := (s.register catalog key value).catalogs } := by
  unfold register
  split <;> rfl

end Scene

namespace Prog

variable {caller : Caller} {rounds : Nat} {w w₀ w' : World} {catalog : Nat} {file : String} {name raw raw₀ : Value}
  {built : Built} {earlier later : Value.Entries} {cls : ClassRef} {r : Raised}

/-- An entry that has been built is kept under its name, and the file is read on. -/
theorem run_readEntries_ok (hraw : run caller rounds (described raw₀) w₀ = (.ok raw, w))
    (h : run caller rounds (buildPage catalog name raw) w = (.ok cls, w')) :
    run caller rounds (readEntries catalog file built ((name, raw₀) :: later)) w₀ =
      run caller rounds (readEntries catalog file (Assoc.put cls.name cls built) later)
        { w' with scene := w'.scene.register catalog name (.pageType cls) } := by
  have hentry : run caller rounds (readEntry catalog file name raw₀) w₀ =
      (.ok cls, { w' with scene := w'.scene.register catalog name (.pageType cls) }) := by
    rw [readEntry, bind_eq, run_bind, hraw, andThen_ok, bind_eq, run_bind, run_outcome, h]
    rfl
  rw [readEntries, bind_eq, run_bind, hentry, andThen_ok]

/-- What an entry ends with that ends with a fault: one of the library's own becomes one of the catalog,
as long as the name of the page can be shown. -/
def entryFailure (file : String) (title : Except Fault String) (r : Raised) : Raised :=
  if r.kind.isOwn then
    match title with
    | .ok title => entryFault file title r
    | .error fault => { fault }
  else r

/-- An entry that cannot be built ends the reading of its file. -/
theorem run_readEntries_error (hraw : run caller rounds (described raw₀) w₀ = (.ok raw, w))
    (h : run caller rounds (buildPage catalog name raw) w = (.error r, w')) :
    run caller rounds (readEntries catalog file built ((name, raw₀) :: later)) w₀ =
      (.error (entryFailure file (w'.scene.text name) r), w') := by
  have hentry : run caller rounds (readEntry catalog file name raw₀) w₀ =
      (.error (entryFailure file (w'.scene.text name) r), w') := by
    rw [readEntry, bind_eq, run_bind, hraw, andThen_ok, bind_eq, run_bind, run_outcome, h, andThen_ok]
    by_cases hown : r.kind.isOwn = true
    · simp only [entryFailure, hown, if_true, textOf, bind_eq, bind_assoc, run_view_bind]
      cases w'.scene.text name <;> rfl
    · simp only [entryFailure, hown, Bool.false_eq_true, if_false]
      rfl
  rw [readEntries, bind_eq, run_bind, hentry, andThen_error]

/-- A file is read entry by entry. -/
theorem run_readEntries_append (built : Built) (w : World) :
    run caller rounds (readEntries catalog file built (earlier ++ later)) w =
      andThen (run caller rounds (readEntries catalog file built earlier) w) fun built =>
        run caller rounds (readEntries catalog file built later) := by
  induction earlier generalizing built w with
  | nil => rfl
  | cons e rest ih =>
    obtain ⟨name, raw⟩ := e
    rw [List.cons_append, readEntries, readEntries, bind_eq, run_bind, bind_eq, run_bind]
    rcases run caller rounds (readEntry catalog file name raw) w with ⟨_ | cls, w₁⟩
    · rfl
    · exact ih _ w₁

/-- The note that a file has been read shows a text only. -/
theorem fileRead_plain (file : String) (count : Nat) : (fileRead file count).context.Plain :=
  List.forall_mem_singleton.mpr rfl

/-- What is done when the entries of a file have been read. -/
def readOn (catalog : Nat) (path : Path) (built : Built) (entries : Value.Entries) : Prog Built := do
  let built ← readEntries catalog path.text built entries
  log (fileRead path.text built.length)
  pure built

/-- The reading of a file comes to an entry: those before it have been built, those
after it are still to be read, and it is about to be built itself. -/
def ComesTo (caller : Caller) (rounds : Nat) (catalog : Nat) (path : Path) (w₀ : World) (built : Built)
    (name raw : Value) (later : Value.Entries) (w : World) : Prop :=
  ∃ v w₁ earlier raw₀ w₂, run caller rounds (valueOf path) w₀ = (.ok v, w₁) ∧
    entriesIn? w₁.scene.cells v = some (earlier ++ (name, raw₀) :: later) ∧
    run caller rounds (readEntries catalog path.text [] earlier) w₁ = (.ok built, w₂) ∧
    run caller rounds (described raw₀) w₂ = (.ok raw, w)

section

variable {path : Path}

/-- To read a file is to read on from the entry that the reading has come to. -/
theorem ComesTo.run_readFile (h : ComesTo caller rounds catalog path w₀ built name raw later w) :
    ∃ raw₀ w₂, run caller rounds (described raw₀) w₂ = (.ok raw, w) ∧
      run caller rounds (readFile catalog path) w₀ =
        run caller rounds (readOn catalog path built ((name, raw₀) :: later)) w₂ := by
  obtain ⟨v, w₁, earlier, raw₀, w₂, hvalue, hentries, hearlier, hraw⟩ := h
  refine ⟨raw₀, w₂, hraw, ?_⟩
  rw [readFile, bind_eq, run_bind, hvalue, andThen_ok, bind_eq, run_view_bind, bind_eq, hentries,
    run_ofOption_some_bind, bind_eq, run_bind, run_readEntries_append, hearlier, andThen_ok, readOn, bind_eq, run_bind]

/-- An entry that has been built is kept under its name, and the file is read on. -/
theorem ComesTo.run_ok (h : ComesTo caller rounds catalog path w₀ built name raw later w)
    (hbuilt : run caller rounds (buildPage catalog name raw) w = (.ok cls, w')) :
    run caller rounds (readFile catalog path) w₀ =
      run caller rounds (readOn catalog path (Assoc.put cls.name cls built) later)
        { w' with scene := w'.scene.register catalog name (.pageType cls) } := by
  obtain ⟨raw₀, w₂, hraw, hfile⟩ := h.run_readFile
  rw [hfile, readOn, readOn, bind_eq, run_bind, bind_eq, run_bind, run_readEntries_ok hraw hbuilt]

/-- An entry that cannot be built ends the reading of its file. -/
theorem ComesTo.run_error (h : ComesTo caller rounds catalog path w₀ built name raw later w)
    (hbuilt : run caller rounds (buildPage catalog name raw) w = (.error r, w')) :
    run caller rounds (readFile catalog path) w₀ =
      (.error (entryFailure path.text (w'.scene.text name) r), w') := by
  obtain ⟨raw₀, w₂, hraw, hfile⟩ := h.run_readFile
  rw [hfile, readOn, bind_eq, run_bind, run_readEntries_error hraw hbuilt, andThen_error]

end

/-- A fault of the library's own that ends an entry is the cause of a fault of the catalog. -/
theorem entryFailure_own {title : String} (h : r.kind.isOwn = true) :
    (entryFailure file (.ok title) r).kind = .catalog ∧ (entryFailure file (.ok title) r).cause = some r.fault ∧
      (entryFailure file (.ok title) r).fault = .inPage file title r.fault := by
  rw [entryFailure, if_pos h]
  exact ⟨rfl, rfl, rfl⟩

end Prog

end PageObjects
