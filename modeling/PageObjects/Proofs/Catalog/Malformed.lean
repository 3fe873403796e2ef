import PageObjects.Proofs.Catalog.Escapes
import PageObjects.Proofs.Catalog.Parsed
import PageObjects.Proofs.Catalog.Registry

/-!
# What malformed catalogs end with

A file that has been read as data is gone through entry by entry.  Each entry is built,
or ends with one of the library's own faults, which becomes a fault of the catalog, or
ends with a fault that escapes: one of a value that is used without having been checked.
Nothing else can happen, as long as all page types that the catalog keeps can be built on.

Main definitions:

- `Reading.shown`: how data is given as a name.

Main results:

- Theorem `Prog.buildPage_faults`: what an entry ends with.
- Theorem `Prog.readEntries_faults`: what the entries of a file end with.
- Theorem `readPath_faults`: what a file ends with.
-/

namespace PageObjects

open Catalog Catalog.Entry

/-! ## Names that are data -/

/-- How data is given as a name: with its texts, if it can be shown. -/
def Reading.shown (s : Scene) : Reading := fun v =>
  match s.text v with
  | .error fault => .error { fault }
  | .ok t =>
    if v.word?.isSome then .ok ⟨⟨v, t⟩, Text.quoted t⟩
    else
      match s.inspect v with
      | .error fault => .error { fault }
      | .ok shown => .ok ⟨⟨v, t⟩, shown⟩

/-- What consists of nothing else has its text whatever the scene is. -/
theorem Scene.text_of_isAtom {v : Value} (h : v.isAtom = true) (s s' : Scene) : s.text v = s'.text v := by
  cases v <;> first | (cases h; done) | rfl

/-- What consists of nothing else is given as a name without looking at anything else. -/
theorem Reading.shown_given (s : Scene) {v : Value} (h : v.isAtom = true) : Prog.Given (Reading.shown s) v := by
  intro caller rounds w
  cases v with
  | int n =>
    have hshown : (Asking.showing.inspect (.int n)).prog =
        if Decimal.tooLongToShow n then Prog.raise .tooLongToShow else .done (toString n) := by
      have hasked : Asking.showing.inspect (.int n) =
          if Decimal.tooLongToShow n then .fail .tooLongToShow else .done (toString n) := rfl
      rw [hasked]
      split <;> rfl
    have hinspect : s.inspect (.int n) =
        if Decimal.tooLongToShow n then .error .tooLongToShow else .ok (toString n) := rfl
    have htext : s.text (.int n) = s.inspect (.int n) := rfl
    have hlabelled : Prog.formatted (.int n) = (Asking.showing.inspect (.int n)).prog := rfl
    have hinspected : Prog.inspected (.int n) = (Asking.showing.inspect (.int n)).prog := rfl
    rw [Reading.shown, htext, hinspect, Prog.givenName, Prog.labelled, hlabelled, hinspected, hshown]
    by_cases hlong : Decimal.tooLongToShow n = true
    · simp only [hlong, if_true]
      rfl
    · simp only [hlong]
      rfl
  | _ => first | (cases h; done) | rfl

/-- A name that cannot be given cannot be shown. -/
theorem Reading.shown_error {s : Scene} {v : Value} {r : Raised} (h : Reading.shown s v = .error r) :
    ∃ fault, r = { fault } ∧ (s.text v = .error fault ∨ s.inspect v = .error fault) := by
  unfold Reading.shown at h
  split at h
  · rename_i fault htext
    cases h
    exact ⟨fault, rfl, .inl htext⟩
  · split at h
    · cases h
    · split at h
      · rename_i fault hinspect
        cases h
        exact ⟨fault, rfl, .inr hinspect⟩
      · cases h

/-! ## Keys and bases -/

/-- If not all items have an answer, some item has none. -/
theorem Option.exists_of_mapM_none {α β : Type} {f : α → Option β} {l : List α} (h : l.mapM f = none) :
    ∃ a ∈ l, f a = none := by
  induction l with
  | nil => cases h
  | cons a rest ih =>
    cases ha : f a with
    | none => exact ⟨a, List.mem_cons_self, ha⟩
    | some b =>
      cases hrest : rest.mapM f with
      | none =>
        obtain ⟨a', ha', hnone⟩ := ih hrest
        exact ⟨a', List.mem_cons_of_mem _ ha', hnone⟩
      | some bs =>
        rw [List.mapM_cons, ha, hrest] at h
        cases h

/-- Unknown keys that cannot be listed. -/
theorem Catalog.unknownKeys_failsBy (s : Scene) (name : Value) (entries : Value.Entries) :
    FailsBy (Allowed s name entries) (unknownKeys entries) := by
  unfold unknownKeys
  simp only
  split
  · exact .ok _
  · rename_i hnone
    obtain ⟨e, he, hkey⟩ := Option.exists_of_mapM_none hnone
    exact .error (.inr (.key (List.mem_filter.mp he).1 hkey))

namespace Prog

variable {caller : Caller} {rounds : Nat} {w : World} {s : Scene} {catalog : Nat} {name raw : Value}
  {entries : Value.Entries}

/-- A program that needs a text ends with a fault if the text cannot be made, and goes on
if it can. -/
theorem run_textOf_bind {α : Type} (hs : s.cells.Agree w.scene.cells) (hname : s.cells.Data name) (k : String → Prog α) :
    run caller rounds ((textOf name).bind k) w =
      match s.text name with
      | .error fault => (.error { fault }, w)
      | .ok t => run caller rounds (k t) w := by
  rw [textOf, bind_eq, bind_assoc, run_view_bind, Scene.text_data hs hname]
  cases s.text name <;> rfl

variable (caller rounds) in
/-- The base of an entry is found, and can be built on, or the entry ends with a fault. -/
theorem entryBase_faults (hs : s.cells.Agree w.scene.cells) (hstock : w.scene.Stocked catalog)
    (hname : s.cells.Data name) (hentries : s.cells.DataEntries entries) :
    (∃ base d, BaseIs w.scene catalog entries base ∧ w.scene.Extensible base d) ∨
      ∃ r, run caller rounds (entryBase catalog name entries) w = (.error r, w) ∧ Allowed s name entries r.fault := by
  have hoccurs : Occurs s name entries name := .inl (.self _)
  by_cases hnone : (Value.field "base" entries).isNone = true
  · obtain ⟨d, hroot⟩ := hstock.root
    exact .inl ⟨rootType, d, .inl ⟨hnone, rfl⟩, hroot⟩
  · have hsome : (Value.field "base" entries).isNone = false := Bool.eq_false_iff.mpr hnone
    have hbase : Occurs s name entries (Value.field "base" entries) := .of_field hsome
    cases hhash : (Value.field "base" entries).hashable with
    | false =>
      refine .inr ⟨{ fault := .wrongType }, ?_, .inr (.base hhash)⟩
      simp only [entryBase, hsome, Bool.false_eq_true, if_false, registered, hhash]
      rfl
    | true =>
      cases hlookup : Value.lookup? (Value.field "base" entries) (w.scene.entriesAt (.pages catalog)) with
      | some v =>
        obtain ⟨e, he, rfl⟩ := Option.map_eq_some_iff.mp hlookup
        obtain ⟨cls, d, hcls, hextensible⟩ := hstock.pages e (List.mem_of_find?_eq_some he)
        exact .inl ⟨cls, d, .inr ⟨hsome, hhash, hlookup.trans (congrArg some hcls)⟩, hextensible⟩
      | none =>
        have hrun : run caller rounds (entryBase catalog name entries) w =
            run caller rounds ((textOf name).bind fun t =>
              (view fun s => s.inspect (Value.field "base" entries)).bind fun shown =>
                (ofFault shown).bind fun shown => raise (.unknownBase t shown)) w := by
          simp only [entryBase, hsome, Bool.false_eq_true, if_false, registered, hhash, if_true, bind_eq]
          rw [run_view_bind, hlookup]
        rw [hrun, run_textOf_bind hs hname]
        cases htext : s.text name with
        | error fault => exact .inr ⟨{ fault }, rfl, hoccurs.text fault htext⟩
        | ok t =>
          simp only
          rw [run_view_bind, Scene.inspect_data hs (hentries.field "base")]
          cases hinspect : s.inspect (Value.field "base" entries) with
          | error fault => exact .inr ⟨{ fault }, rfl, hbase.inspect fault hinspect⟩
          | ok shown => exact .inr ⟨_, rfl, .catalog rfl⟩

/-- What an entry ends with, if its keys are known and its base can be built on. -/
theorem buildPage_onBase (hs : s.cells.Agree w.scene.cells) (hraw : s.cells.Data raw)
    (hentries : s.entries? raw = some entries) (hknown : unknownKeys entries = .ok []) {base : ClassRef} {d : Definition}
    (hbase : BaseIs w.scene catalog entries base) (hextensible : w.scene.Extensible base d) :
    (∃ cls d w', run caller rounds (buildPage catalog name raw) w = (.ok cls, w') ∧ w.scene.Continues w'.scene ∧
        w'.scene.cells = w.scene.cells ∧ w'.scene.catalogs = w.scene.catalogs ∧ w'.scene.Extensible cls d) ∨
      ∃ r w', run caller rounds (buildPage catalog name raw) w = (.error r, w') ∧ Allowed s name entries r.fault := by
  have hdata : s.cells.DataEntries entries := Scene.dataEntries hraw hentries
  have hsteps : ∀ st, .ok st ∈ steps s entries → Sound s name entries st := fun st hst => steps_statement hdata hst
  have hgiven : ∀ st, .ok st ∈ steps s entries →
      st.Known ∧ st.Worded ∧ ∀ v ∈ st.names, Given (Reading.shown s) v := fun st hst =>
    ⟨(hsteps st hst).known, (hsteps st hst).worded, fun v hv => Reading.shown_given s ((hsteps st hst).names v hv).1⟩
  have hentries' : w.scene.entries? raw = some entries := (Scene.entries?_data hs hraw).trans hentries
  rw [run_buildPage (hs.data hraw) hentries' hknown hbase, steps_data hs hdata, run_bind]
  cases htype : typeName name with
  | error fault =>
    rw [run_definePageType_unnamed htype]
    exact .inr ⟨_, w, rfl, .inr (.name htype)⟩
  | ok page =>
    obtain ⟨answer, j, hrun, hended⟩ := hextensible.define_makes caller rounds htype hgiven (.entry raw)
      catalogHome
    rw [hrun]
    rcases ended_cases hended with ⟨hnone, caught, rfl⟩ | ⟨r, hsome, rfl⟩
    · exact .inl ⟨_, _, _, rfl, w.opened_continues _ _, rfl, rfl,
        hextensible.define_extends (fun st hst => (hsteps st hst).worded) hnone⟩
    · refine .inr ⟨r, _, rfl, ?_⟩
      rcases Draft.comesTo_fault hextensible.orderly (fun st hst => (hsteps st hst).worded) hsome with
        hown | ⟨fault, hfault, rfl⟩ | ⟨st, hst, v, hv, hread⟩
      · exact .inl hown
      · exact steps_fault hfault
      · obtain ⟨fault, rfl, hshown⟩ := Reading.shown_error hread
        exact .inr (.shown ((hsteps st hst).names v hv).2 hshown)

variable (caller rounds) in
/-- What an entry ends with: a page type that can be built on, with all else that a
catalog reads left as it was, or a fault that an entry may end with. -/
theorem buildPage_faults (hs : s.cells.Agree w.scene.cells) (hstock : w.scene.Stocked catalog)
    (hname : name.isAtom = true) (hraw : s.cells.Data raw) :
    (∃ cls d w', run caller rounds (buildPage catalog name raw) w = (.ok cls, w') ∧ w.scene.Continues w'.scene ∧
        w'.scene.cells = w.scene.cells ∧ w'.scene.catalogs = w.scene.catalogs ∧ w'.scene.Extensible cls d) ∨
      ∃ r w', run caller rounds (buildPage catalog name raw) w = (.error r, w') ∧
        Allowed s name (describing s raw) r.fault := by
  have hnameData : s.cells.Data name := .atom hname
  have hoccurs : ∀ entries, Occurs s name entries name := fun _ => .inl (.self _)
  have hentries? : w.scene.entries? raw = s.entries? raw := Scene.entries?_data hs hraw
  cases hentries : s.entries? raw with
  | none =>
    have hrun : run caller rounds (buildPage catalog name raw) w =
        run caller rounds ((textOf name).bind fun t => raise (.pageNotMapping t)) w := by
      rw [buildPage, bind_eq, run_view_bind, hentries?, hentries]
      rfl
    rw [hrun, run_textOf_bind hs hnameData]
    cases htext : s.text name with
    | error fault => exact .inr ⟨{ fault }, w, rfl, (hoccurs _).text fault htext⟩
    | ok t => exact .inr ⟨_, w, rfl, .catalog rfl⟩
  | some entries =>
    have hof : describing s raw = entries := by rw [describing, hentries, Option.getD_some]
    have hdata : s.cells.DataEntries entries := Scene.dataEntries hraw hentries
    rw [hof]
    cases hunknown : unknownKeys entries with
    | error fault =>
      refine .inr ⟨{ fault }, w, ?_, unknownKeys_failsBy s name entries fault hunknown⟩
      rw [buildPage, bind_eq, run_view_bind, hentries?, hentries]
      simp only [hunknown]
      rfl
    | ok keys =>
      by_cases hkeys : keys = []
      · subst hkeys
        rcases entryBase_faults caller rounds hs hstock hnameData hdata with
          ⟨base, d, hbase, hextensible⟩ | ⟨r, hrun, hallowed⟩
        · exact buildPage_onBase hs hraw hentries hunknown hbase hextensible
        · refine .inr ⟨r, w, ?_, hallowed⟩
          rw [buildPage, bind_eq, run_view_bind, hentries?, hentries]
          simp only [hunknown, bind_eq]
          rw [run_ofFault_ok_bind, if_pos List.isEmpty_nil, run_bind, hrun, andThen_error]
      · have hrun : run caller rounds (buildPage catalog name raw) w =
            run caller rounds ((textOf name).bind fun t => raise (.unknownKeys t keys)) w := by
          rw [buildPage, bind_eq, run_view_bind, hentries?, hentries]
          simp only [hunknown, bind_eq]
          rw [run_ofFault_ok_bind, if_neg (by rwa [List.isEmpty_iff])]
        rw [hrun, run_textOf_bind hs hnameData]
        cases htext : s.text name with
        | error fault => exact .inr ⟨{ fault }, w, rfl, (hoccurs _).text fault htext⟩
        | ok t => exact .inr ⟨_, w, rfl, .catalog rfl⟩

/-! ## Files -/

/-- A reading succeeds, or ends with a fault of the catalog, or with a fault that escapes
from one of the entries, which is of another kind. -/
def ReadsOrEscapes (s : Scene) (entries : Value.Entries) (r : Result Built) : Prop :=
  match r.1 with
  | .ok _ => True
  | .error r =>
    r.kind = .catalog ∨ r.kind ∈ Escape.kinds ∧ ∃ e ∈ entries, Escape s e.1 (describing s e.2) r.fault

variable (caller rounds) in
/-- What the entries of a file end with.  Each leaves the collections as they were, and
the catalog keeps types only that later entries can build on. -/
theorem readEntries_faults (file : String) (hentries : s.cells.DataEntries entries) (built : Built)
    (hs : s.cells.Agree w.scene.cells) (hstock : w.scene.Stocked catalog) :
    ReadsOrEscapes s entries (run caller rounds (readEntries catalog file built entries) w) := by
  induction entries generalizing built w with
  | nil => trivial
  | cons e rest ih =>
    obtain ⟨name, raw₀⟩ := e
    obtain ⟨hname, hraw₀⟩ := hentries (name, raw₀) List.mem_cons_self
    obtain ⟨raw, w₁, hdescribed, hs₁, hraw, hsame, hcontinues, hcatalogs⟩ := described_data caller rounds hs hraw₀
    rcases buildPage_faults caller rounds hs₁ (hstock.continues hcontinues hcatalogs) hname hraw with
      ⟨cls, d, w₂, hbuilt, hcontinues₂, hcells₂, hcatalogs₂, hextensible⟩ | ⟨r, w₂, hbuilt, hallowed⟩
    · rw [run_readEntries_ok hdescribed hbuilt]
      have hstock₂ : (w₂.scene.register catalog name (.pageType cls)).Stocked catalog :=
        ((hstock.continues hcontinues hcatalogs).continues hcontinues₂ hcatalogs₂).register hextensible name
      have hs₂ : s.cells.Agree (w₂.scene.register catalog name (.pageType cls)).cells := by
        rw [Scene.register_same]
        exact hs₁.trans (.of_eq hcells₂)
      have hrest := ih (fun e he => hentries e (List.mem_cons_of_mem _ he)) (Assoc.put cls.name cls built)
        (w := { w₂ with scene := w₂.scene.register catalog name (.pageType cls) }) hs₂ hstock₂
      unfold ReadsOrEscapes at hrest ⊢
      split
      · trivial
      · rename_i r hr
        rw [hr] at hrest
        exact hrest.imp id fun ⟨hkind, e, he, hescape⟩ => ⟨hkind, e, List.mem_cons_of_mem _ he, hescape⟩
    · rw [run_readEntries_error hdescribed hbuilt]
      have hescaped : ∀ r : Raised, Escape s name (describing s raw₀) r.fault →
          r.kind ∈ Escape.kinds ∧ ∃ e ∈ (name, raw₀) :: rest, Escape s e.1 (describing s e.2) r.fault := fun r hescape =>
        ⟨hescape.escaping (.atom hname) (describing_data hraw₀), (name, raw₀), List.mem_cons_self, hescape⟩
      by_cases hown : r.kind.isOwn = true
      · cases htitle : w₂.scene.text name with
        | ok title => exact .inl (entryFailure_own hown).1
        | error fault =>
          have hfailure : entryFailure file (.error fault) r = { fault } := if_pos hown
          rw [hfailure]
          exact .inr (hescaped _ (.shown (.inl (.self name)) (.inl ((Scene.text_of_isAtom hname s _).trans htitle))))
      · have hfailure : entryFailure file (w₂.scene.text name) r = r := if_neg hown
        rw [hfailure]
        have hescape := hallowed.resolve_left hown
        rw [hsame] at hescape
        exact .inr (hescaped r hescape)

/-- A file is read on from the entries of its value. -/
theorem run_readFile {path : Path} {w₁ : World} {v : Value}
    (hvalue : run caller rounds (valueOf path) w = (.ok v, w₁)) :
    run caller rounds (readFile catalog path) w =
      run caller rounds ((ofOption (.catalogShape path.text) (entriesIn? w₁.scene.cells v)).bind
        (readOn catalog path [])) w₁ := by
  rw [readFile, bind_eq, run_bind, hvalue, andThen_ok, bind_eq, run_view_bind]
  rfl

/-- What a file ends with whose value is data. -/
theorem readFile_faults {path : Path} {w₁ : World} {v : Value}
    (hvalue : run caller rounds (valueOf path) w = (.ok v, w₁)) (hdata : w₁.scene.cells.Data v)
    (hstock : w₁.scene.Stocked catalog) :
    ReadsOrEscapes w₁.scene ((entriesIn? w₁.scene.cells v).getD [])
      (run caller rounds (readFile catalog path) w) := by
  rw [run_readFile hvalue]
  cases hentries : entriesIn? w₁.scene.cells v with
  | none => exact .inl rfl
  | some entries =>
    obtain ⟨pages, hpages, hof⟩ := Option.bind_eq_some_iff.mp hentries
    obtain ⟨fields, hfields, hfield⟩ := Option.bind_eq_some_iff.mp hpages
    have hpagesData : w₁.scene.cells.Data pages :=
      (Scene.dataEntries hdata (Scene.entries?_of_cells hfields)).field? hfield
    have hentriesData : w₁.scene.cells.DataEntries entries :=
      Scene.dataEntries hpagesData (Scene.entries?_of_cells hof)
    have hread := readEntries_faults caller rounds path.text hentriesData [] (.refl _) hstock
    rw [run_ofOption_some_bind, readOn, bind_eq, run_bind]
    unfold ReadsOrEscapes at hread ⊢
    rcases hr : run caller rounds (readEntries catalog path.text [] entries) w₁ with ⟨r | built, w₂⟩
    · rw [hr] at hread
      exact hread
    · rw [andThen_ok, bind_eq, run_bind, run_log_of_plain (fileRead_plain _ _)]
      trivial

/-- To read a path is to read what is at the place that it names. -/
theorem readPath_eq {path : Value} {text : String} (hpath : path.word? = some text) (catalog : Nat) :
    readPath catalog path = readPlace catalog (Path.read text) := by
  rw [readPath, hpath]
  rfl

/-- A regular file is read as a file. -/
theorem run_readPlace_file {p : Path} (hdirectory : w.scene.files.isDirectory p = false)
    (hfile : (w.scene.files.file? p).isSome) :
    run caller rounds (readPlace catalog p) w = run caller rounds (readFile catalog p) w := by
  rw [readPlace, bind_eq, run_view_bind, hdirectory, if_neg Bool.false_ne_true, bind_eq, run_view_bind, if_pos hfile]

/-- To read a path that leads to a file is to read the file. -/
theorem run_readPath_file {path : Value} {text : String} (hpath : path.word? = some text)
    (hdirectory : w.scene.files.isDirectory (Path.read text) = false)
    (hfile : (w.scene.files.file? (Path.read text)).isSome) :
    run caller rounds (readPath catalog path) w = run caller rounds (readFile catalog (Path.read text)) w := by
  rw [readPath_eq hpath, run_readPlace_file hdirectory hfile]

end Prog

/-- A file whose value is data, whatever it is, is read, or the reading ends with a fault
of the catalog; but for what an entry is not checked for, which ends the reading with a
fault of another kind: a name that no type can have, keys that are no texts or cannot be
looked up, a pattern that cannot be compiled, a time that is no number, parts that are no
mappings or cannot be gone through, and values that cannot be shown.  This holds for all
page types that the catalog may keep and that can be built on. -/
theorem readPath_faults {caller : Caller} {rounds : Nat} {catalog : Nat} {path v : Value} {text : String} {w w₁ : World}
    (hpath : path.word? = some text) (hdirectory : w.scene.files.isDirectory (Path.read text) = false)
    (hfile : (w.scene.files.file? (Path.read text)).isSome)
    (hvalue : Prog.run caller rounds (Prog.valueOf (Path.read text)) w = (.ok v, w₁))
    (hdata : w₁.scene.cells.Data v) (hstock : w₁.scene.Stocked catalog) :
    (∃ built w', Prog.run caller rounds (Prog.readPath catalog path) w = (.ok built, w')) ∨
      ∃ r w', Prog.run caller rounds (Prog.readPath catalog path) w = (.error r, w') ∧
        (r.kind = .catalog ∨
          r.kind ∈ Escape.kinds ∧ ∃ entries e, Prog.entriesIn? w₁.scene.cells v = some entries ∧ e ∈ entries ∧
            Escape w₁.scene e.1 (describing w₁.scene e.2) r.fault) := by
  have hread := Prog.readFile_faults hvalue hdata hstock
  rw [Prog.run_readPath_file hpath hdirectory hfile]
  unfold Prog.ReadsOrEscapes at hread
  rcases hr : Prog.run caller rounds (Prog.readFile catalog (Path.read text)) w with ⟨r | built, w'⟩
  · rw [hr] at hread
    refine .inr ⟨r, w', rfl, hread.imp id fun ⟨hkind, e, he, hescape⟩ => ⟨hkind, ?_⟩⟩
    cases hentries : Prog.entriesIn? w₁.scene.cells v with
    | none =>
      rw [hentries] at he
      cases he
    | some entries =>
      rw [hentries] at he
      exact ⟨entries, e, rfl, he, hescape⟩
  · exact .inl ⟨built, w', rfl⟩

/-! ## A list as a base -/

/-- A file in which a page has a list as its base. -/
def listedBaseText : String := "\x7b\"pages\": \x7b\"P\": \x7b\"base\": [\"A\"]\x7d\x7d\x7d"

/-- A world with this file and a catalog. -/
def listedBaseWorld : World :=
  let w := Setting.world { files := { files := [(["c.json"], .text listedBaseText)] } }
  { w with scene := { w.scene with catalogs := [{}] } }

/-- The file is found below the working directory. -/
theorem listedBaseWorld_found :
    Path.read "c.json" = ⟨"", ["c.json"]⟩ ∧
      listedBaseWorld.scene.files.isDirectory ⟨"", ["c.json"]⟩ = false ∧
      listedBaseWorld.scene.files.file? ⟨"", ["c.json"]⟩ = some (["c.json"], .text listedBaseText) :=
  FileTree.jsonFile_found listedBaseText

/-- Whether something ends with a fault of a type. -/
def endsWithTypeFault {α : Type} : Except Raised α → Bool
  | .ok _ => false
  | .error r => r.kind == .type

/-- Whether the reading of the file does so, if what the file is read as is gone through. -/
def listedBaseFails : Bool :=
  match Json.read Prog.nestingLimit (String.ofList (unifyBreaks listedBaseText.toList)) with
  | .ok tree =>
    let (v, cells) := Json.toValue listedBaseWorld.scene.cells tree
    endsWithTypeFault <| (Prog.run (callAt usualRounds usualDepth) usualRounds
      ((Prog.ofOption (.catalogShape "c.json") (Prog.entriesIn? cells v)).bind (Prog.readOn 0 ⟨"", ["c.json"]⟩ []))
      { listedBaseWorld with scene := { listedBaseWorld.scene with cells } }).1
  | .error _ => false

/-- The reading of the file ends with a fault of a type, which is one of those that
escape and none of the catalog. -/
theorem listedBase_escapes :
    ∃ r w', Prog.run (callAt usualRounds usualDepth) usualRounds (Prog.readPath 0 (.text "c.json")) listedBaseWorld =
        (.error r, w') ∧ r.kind = .type ∧ r.kind ∈ Escape.kinds := by
  obtain ⟨hread, hdirectory, hfile⟩ := listedBaseWorld_found
  have hended : listedBaseFails = true := by decide +kernel
  unfold listedBaseFails at hended
  rcases htree : Json.read Prog.nestingLimit (String.ofList (unifyBreaks listedBaseText.toList)) with fault | tree
  · rw [htree] at hended
    cases hended
  · rw [htree] at hended
    have hdata := (Json.toValue_data listedBaseWorld.scene.cells tree).2 _ (.refl _)
    have hvalue : Prog.run (callAt usualRounds usualDepth) usualRounds (Prog.valueOf ⟨"", ["c.json"]⟩) listedBaseWorld = _ :=
      Prog.run_valueOf_json (by decide +kernel) hdirectory hfile htree
    have hroot : listedBaseWorld.scene.Extensible rootType _ :=
      (Setting.root_extensible { files := { files := [(["c.json"], .text listedBaseText)] } }).continues
        (Scene.continues_catalogs _ _)
    have hstock : listedBaseWorld.scene.Stocked 0 := ⟨⟨_, hroot⟩, fun e he => absurd he List.not_mem_nil⟩
    have hpath : (Value.text "c.json").word? = some "c.json" := rfl
    rw [← hread] at hdirectory hfile hvalue
    have hfound : (listedBaseWorld.scene.files.file? (Path.read "c.json")).isSome := by rw [hfile]; rfl
    have hkind : endsWithTypeFault (Prog.run (callAt usualRounds usualDepth) usualRounds
        (Prog.readPath 0 (.text "c.json")) listedBaseWorld).1 = true := by
      rw [Prog.run_readPath_file hpath hdirectory hfound, Prog.run_readFile hvalue, hread]
      exact hended
    rcases readPath_faults hpath hdirectory hfound hvalue hdata
        (hstock.continues (listedBaseWorld.scene.continues_cells _) rfl) with ⟨built, w', hok⟩ | ⟨r, w', herror, hescape⟩
    · rw [hok] at hkind
      cases hkind
    · rw [herror] at hkind
      have htype : r.kind = .type := of_decide_eq_true hkind
      refine ⟨r, w', herror, htype, (hescape.resolve_left fun hcatalog => ?_).1⟩
      rw [htype] at hcatalog
      cases hcatalog

end PageObjects
