import PageObjects.Proofs.Catalog.Listing
import PageObjects.Proofs.Catalog.Reads

/-!
# What a catalog keeps

A catalog starts with the page types of a mapping, and keeps each page type that is built
while files and directories are read.  After a reading it keeps what it kept before,
overridden by the page types that were built, in the order in which they were: all that
are declared, or those up to the failure.  The mapping that it starts with is left as it is.

Main definitions:

- `Catalog.ReadAs`: what one reading comes to.
- `Catalog.ReadsAll`: what a sequence of readings comes to.

Main results:

- Theorem `Prog.run_readPath_as`: what a reading comes to, if the calls on the way leave
  the catalog alone.
- Theorem `reads_override_registry`: what a catalog keeps after any sequence of readings.
-/

namespace PageObjects

/-! ## Catalogs that start -/

/-- What does not count as true has no entries. -/
theorem Scene.entries?_of_not_truthy {s : Scene} {v : Value} (h : s.truthy v = false) :
    (s.entries? v).getD [] = [] := by
  cases v with
  | map i => exact List.isEmpty_iff.mp ((Bool.not_eq_eq_eq_not).mp h)
  | mapping place => exact List.isEmpty_iff.mp ((Bool.not_eq_eq_eq_not).mp h)
  | _ => rfl

/-- The entries of a mapping that is there. -/
theorem Scene.entries?_of_held {s : Scene} {v : Value} {entries : Value.Entries} (h : s.heldEntries? v = some entries) :
    s.entries? v = some entries := by
  unfold heldEntries? at h
  split at h
  · rename_i i
    cases hcell : s.cells.cell? i with
    | none =>
      rw [hcell] at h
      cases h
    | some cell =>
      rw [hcell] at h
      cases cell <;> cases h
      rw [entries?, Cells.mapAt, hcell]
  · obtain ⟨c, hc, rfl⟩ := Option.map_eq_some_iff.mp h
    rw [entries?, entriesAt, hc]
    rfl
  · obtain ⟨i, hi, rfl⟩ := Option.map_eq_some_iff.mp h
    rw [entries?, entriesAt, fieldsOf, hi]
    rfl
  · cases h

namespace Prog

variable {caller : Caller} {called : CallChronicle} {rounds : Nat} {catalog : Nat} {w w' : World}

/-- A catalog is one more catalog, and starts with the entries of a mapping. -/
theorem run_startCatalog {bases v : Value} {announces : Bool}
    (h : run caller rounds (startCatalog bases announces) w = (.ok v, w')) :
    v = .catalog w.scene.catalogs.length ∧
      w' = { w with scene := (w.scene.addCatalog { announces, pages := (w.scene.entries? bases).getD [] }).2 } := by
  rw [startCatalog, bind_eq, run_view_bind] at h
  split at h
  · rw [bind_eq, run_view_bind] at h
    obtain ⟨pages, w₁, hentries, h⟩ := run_bind_ok h
    obtain ⟨hpages, rfl⟩ := run_ofOption_ok hentries
    cases h
    rw [hpages]
    exact ⟨rfl, rfl⟩
  · rename_i hfalse
    cases h
    rw [Scene.entries?_of_not_truthy ((Bool.not_eq_true _).mp hfalse)]
    exact ⟨rfl, rfl⟩

end Prog

namespace Catalog

section Relations

variable (caller : Caller) (called : CallChronicle) (rounds : Nat) (catalog : Nat)

/-- What the reading of a path comes to, which takes its course from a world to another. -/
structure ReadAs (w : World) (path : Value) (c : Course) (w' : World) : Prop where
  /-- The path is read in this course. -/
  reads : Prog.PathReads caller rounds catalog w path c w'
  /-- The reading answers with the page types that were built, or ends with the fault of the course. -/
  answer : Prog.run caller rounds (Prog.readPath catalog path) w = (c.answer, w')
  /-- The page types are those of the pages that are declared first. -/
  built : c.pages.map (·.1) <+: c.declared
  /-- The catalog keeps what it kept before, overridden by the page types in their order. -/
  registry : w'.scene.entriesAt (.pages catalog) =
    Value.override (w.scene.entriesAt (.pages catalog)) c.entries
  /-- An answer has exactly the names that are declared. -/
  names : ∀ built, c.answer = .ok built →
    ∀ name, (built.lookup name).isSome ↔ ∃ v ∈ c.declared, v.word? = some name
  /-- An answer has the last page type of each name. -/
  last : ∀ built, c.answer = .ok built →
    ∀ name, built.lookup name = (c.pages.reverse.find? fun p => p.2.name == name).map (·.2)
  /-- An answer overrides what the catalog kept before. -/
  overrides : ∀ built, c.answer = .ok built →
    ∀ key, Value.lookup? key (w'.scene.entriesAt (.pages catalog)) =
      (Value.lookup? key (Course.entriesOf built)).or (Value.lookup? key (w.scene.entriesAt (.pages catalog)))
  /-- The files of a directory come in the order of their names, however they are listed.  If
  they are regular files, and the calls that are made on the way leave such files alone,
  they may be read one by one. -/
  oneByOne : ∀ text listed, path.word? = some text → w.scene.files.isDirectory (Path.read text) = true →
    w.scene.files.SameEntries listed →
      ∃ names : List String, Prog.catalogFiles listed (Path.read text) = names.map (Path.read text).child ∧
        names.Pairwise (· ≤ ·) ∧ names.Nodup ∧
        ∀ files : List (Path × Value), files.map (·.1) = names.map (Path.read text).child →
          (∀ f ∈ files, w.scene.files.IsFile f.1 ∧ f.2.LeadsTo f.1) →
            ((Prog.readPath catalog path).chronicle caller called rounds w).Respects World.SparesFiles →
              Prog.run caller rounds (Prog.readEach catalog (w.scene.announces catalog) [] files) w = (c.answer, w')

/-- What the readings of paths come to, one after the other. -/
inductive ReadsAll : World → List Value → List Course → World → Prop where
  | done (w : World) : ReadsAll w [] [] w
  | read {w w₁ w' : World} {path : Value} {rest : List Value} {c : Course} {courses : List Course} :
      ReadAs caller called rounds catalog w path c w₁ → ReadsAll w₁ rest courses w' →
      ReadsAll w (path :: rest) (c :: courses) w'

end Relations

end Catalog

namespace Prog

open Catalog

variable {caller : Caller} {called : CallChronicle} {rounds : Nat} {catalog : Nat} {w w' : World}

/-- What a reading comes to, if the calls that are made on the way leave the catalog alone. -/
theorem run_readPath_as {k : Catalog} (hthere : w.scene.catalogs[catalog]? = some k) (path : Value)
    (hcalls : ((readPath catalog path).chronicle caller called rounds w).Respects (World.SparesCatalog catalog)) :
    ∃ c w', ReadAs caller called rounds catalog w path c w' ∧
      w'.scene.catalogs[catalog]? = some { k with pages := Value.override k.pages c.entries } := by
  obtain ⟨c, w', hreads, hrun, hkept⟩ := run_readPath_course (World.keepsPages_registering catalog) path w hcalls
  have hkeeps := hkept k hthere
  have hbefore : w.scene.entriesAt (.pages catalog) = k.pages := by rw [Scene.entriesAt, hthere]; rfl
  have hafter : w'.scene.entriesAt (.pages catalog) = Value.override k.pages c.entries := by
    rw [Scene.entriesAt, hkeeps]
    rfl
  have hsound := hreads.sound
  refine ⟨c, w', ⟨hreads, hrun, hsound.declared, ?_, ?_, ?_, ?_, ?_⟩, hkeeps⟩
  · rw [hafter, hbefore]
  · intro built hbuilt name
    obtain ⟨hfault, rfl⟩ := Course.answer_eq_ok.mp hbuilt
    exact hsound.mem_built hfault name
  · intro built hbuilt name
    obtain ⟨-, rfl⟩ := Course.answer_eq_ok.mp hbuilt
    exact c.lookup_built name
  · intro built hbuilt key
    obtain ⟨-, rfl⟩ := Course.answer_eq_ok.mp hbuilt
    rw [hafter, hbefore, Value.lookup?_override, hsound.lookup?_built]
  · intro text listed hpath hdirectory hlisted
    obtain ⟨names, hfiles, hsorted, hnodup⟩ := catalogFiles_sorted listed (Path.read text)
    refine ⟨names, hfiles, hsorted, hnodup, fun files hnames hregular hspares => ?_⟩
    rw [catalogFiles_perm hlisted, ← hnames] at hfiles
    have hfilesCalls := (respects_readPath_directory hpath hdirectory).mp hspares
    rw [hfiles] at hfilesCalls
    rw [run_readFiles_each _ files _ _ hregular hfilesCalls, ← hfiles, ← run_readPath_directory hpath hdirectory, hrun]

/-- What a sequence of readings comes to. -/
theorem run_readAll {k : Catalog} (hthere : w.scene.catalogs[catalog]? = some k) (paths : List Value)
    (hcalls : ((readAll catalog paths).chronicle caller called rounds w).Respects (World.SparesCatalog catalog)) :
    ∃ courses w', ReadsAll caller called rounds catalog w paths courses w' ∧
      run caller rounds (readAll catalog paths) w = (.ok (courses.map Course.answer), w') ∧
      w'.scene.catalogs[catalog]? =
        some { k with pages := Value.override k.pages (courses.flatMap Course.entries) } := by
  induction paths generalizing w k with
  | nil => exact ⟨[], w, .done w, rfl, hthere⟩
  | cons path rest ih =>
    rw [readAll, bind_eq] at hcalls
    obtain ⟨hpathCalls, hrestCalls⟩ := respects_bind.mp hcalls
    obtain ⟨c, w₁, hread, hkept⟩ := run_readPath_as hthere path (Chronicle.respects_append.mp hpathCalls).1
    rw [run_outcome, hread.answer] at hrestCalls
    obtain ⟨courses, w', hreads, hrun, hkeptAll⟩ := ih hkept (respects_bind.mp hrestCalls).1
    refine ⟨c :: courses, w', .read hread hreads, ?_, ?_⟩
    · rw [readAll, bind_eq, run_bind, run_outcome, hread.answer, andThen_ok, bind_eq, run_bind, hrun]
      rfl
    · rw [hkeptAll, List.flatMap_cons, Value.override_append]

end Prog

/-! ## Catalogs over whole runs -/

open Catalog

/-- A catalog starts with the entries of a mapping.  As long as the calls that are made while
pages are built leave it alone, it keeps after any sequence of readings what it kept before,
overridden by the page types that were built in each of them, in order.  The mapping that it
starts with is left as it is, if these calls leave that alone. -/
theorem reads_override_registry {caller : Caller} {called : CallChronicle} {rounds catalog : Nat} {announces : Bool}
    {bases : Value} {w₀ w : World}
    (hstart : Prog.run caller rounds (Prog.startCatalog bases announces) w₀ = (.ok (.catalog catalog), w))
    (paths : List Value)
    (hcalls : ((Prog.readAll catalog paths).chronicle caller called rounds w).Respects (World.SparesCatalog catalog)) :
    w.scene.entriesAt (.pages catalog) = (w₀.scene.entries? bases).getD [] ∧
      ∃ courses w', ReadsAll caller called rounds catalog w paths courses w' ∧
        Prog.run caller rounds (Prog.readAll catalog paths) w = (.ok (courses.map Course.answer), w') ∧
        w'.scene.entriesAt (.pages catalog) =
          Value.override (w.scene.entriesAt (.pages catalog)) (courses.flatMap Course.entries) ∧
        (((Prog.readAll catalog paths).chronicle caller called rounds w).Respects (World.SparesMapping bases) →
          ∀ entries, w₀.scene.heldEntries? bases = some entries → w'.scene.entries? bases = some entries) := by
  obtain ⟨hcatalog, hw⟩ := Prog.run_startCatalog hstart
  cases hcatalog
  have hthere : w.scene.catalogs[w₀.scene.catalogs.length]? =
      some { announces, pages := (w₀.scene.entries? bases).getD [] } := by
    rw [hw]
    exact List.getElem?_concat_length
  have hfirst : w.scene.entriesAt (.pages w₀.scene.catalogs.length) = (w₀.scene.entries? bases).getD [] := by
    rw [Scene.entriesAt, hthere]
    rfl
  obtain ⟨courses, w', hreads, hrun, hkept⟩ := Prog.run_readAll hthere paths hcalls
  refine ⟨hfirst, courses, w', hreads, hrun, ?_, fun hspares entries hentries => ?_⟩
  · rw [Scene.entriesAt, hkept, hfirst]
    rfl
  · -- the mapping was there before the catalog was, so it is not what that keeps
    have hother : bases ≠ .mapping (.pages w₀.scene.catalogs.length) := by
      rintro rfl
      simp [Scene.heldEntries?] at hentries
    have hstarted : World.SparesMapping bases w₀ w := by
      have hkeeps : w₀.Keeps w := by
        rw [hw]
        exact ⟨List.prefix_append _ _, .refl _, List.prefix_rfl, rfl⟩
      exact (World.sparesMapping_registering hother).keeps hkeeps
    have hread := Prog.run_readAll_framed (World.sparesMapping_registering hother) paths w hspares
    rw [hrun] at hread
    exact Scene.entries?_of_held (hread entries (hstarted entries hentries))

/-! ## A page that builds on a type -/

section Based

open Prog

/-- The type that a page builds on. -/
def basePage : ClassRef := ⟨1, "Base"⟩

/-- A file with one page, which builds on that type and has an address. -/
def basedText : String := "\x7b\"pages\": \x7b\"P\": \x7b\"base\": \"Base\", \"url\": \"/p\"\x7d\x7d\x7d"

/-- What the file is read as. -/
def basedTree : Json := .object [("pages", .object [("P", .object [("base", .text "Base"), ("url", .text "/p")])])]

theorem read_basedText : Json.read nestingLimit (String.ofList (unifyBreaks basedText.toList)) = .ok basedTree := by
  cbv

/-- The body of a function that puts something else into what a catalog keeps. -/
def tampering : Expr :=
  .setItem (.get (.text "pages") (.request (.held "cat"))) (.text "Extra") (.request (.const (.int 7)))

/-- A world with the file, with the type, which has some members, and with a mapping that
holds it. -/
def basedWorld (members : List (String × Value)) : World :=
  let w := ({ files := { files := [(["c.json"], .text basedText)] }
              cells := ⟨firstCells.all ++ #[.map [(.text "Base", .pageType basePage)]]⟩ } : Setting).world
  { w with
    scene :=
      { w.scene with
        held := w.scene.held ++ [("cat", .catalog 0)]
        functions := [tampering]
        definitions := w.scene.definitions ++ [{ pageName := .ofText "Base", locked := true }]
        pageTypes := w.scene.pageTypes ++
          [{ name := "Base", fullName := "Base", bases := [rootType], lineage := [basePage, rootType], members
             definition := some 1 }] } }

/-- That world with a catalog that starts with the mapping. -/
def stockedWorld (members : List (String × Value)) : World :=
  { basedWorld members with
    scene := ((basedWorld members).scene.addCatalog { pages := [(.text "Base", .pageType basePage)] }).2 }

theorem stockedWorld_starts (members : List (String × Value)) :
    run (callAt usualRounds usualDepth) usualRounds (startCatalog (.map 3) false) (basedWorld members) =
      (.ok (.catalog 0), stockedWorld members) := rfl

/-- That world after the file has been opened. -/
def openedWorld (members : List (String × Value)) : World :=
  { stockedWorld members with
    scene :=
      { (stockedWorld members).scene with cells := (Json.toValue (stockedWorld members).scene.cells basedTree).2 } }

theorem stockedWorld_opens (members : List (String × Value)) :
    run (callAt usualRounds usualDepth) usualRounds (valueOf ⟨"", ["c.json"]⟩) (stockedWorld members) =
      (.ok (.map 6), openedWorld members) := by
  obtain ⟨-, hdirectory, hfile⟩ := FileTree.jsonFile_found basedText
  exact run_valueOf_json (by decide +kernel) hdirectory hfile read_basedText

theorem openedWorld_entries (members : List (String × Value)) :
    entriesIn? (openedWorld members).scene.cells (.map 6) = some [(.text "P", .map 4)] := rfl

/-- To read the path of the file is to read on from its page. -/
theorem run_stockedWorld (members : List (String × Value)) :
    run (callAt usualRounds usualDepth) usualRounds (readPath 0 (.text "c.json")) (stockedWorld members) =
      run (callAt usualRounds usualDepth) usualRounds (readOn 0 ⟨"", ["c.json"]⟩ [] [(.text "P", .map 4)])
        (openedWorld members) := by
  obtain ⟨hread, hdirectory, hfile⟩ := FileTree.jsonFile_found basedText
  have hpath : (Value.text "c.json").word? = some "c.json" := rfl
  have hthere : ((stockedWorld members).scene.files.file? ⟨"", ["c.json"]⟩).isSome :=
    Option.isSome_iff_exists.mpr ⟨_, hfile⟩
  rw [readPath_eq hpath, hread, run_readPlace_file hdirectory hthere, run_readFile (stockedWorld_opens _),
    openedWorld_entries, run_ofOption_some_bind]

/-- The page has a name. -/
theorem typeName_page : typeName (.text "P") = .ok "P" := by cbv

/-- The path of the file, and what is no path. -/
def somePaths : List Value := [.text "c.json", .int 7]

/-- If the type has no members of its own, no calls are made while they are read. -/
theorem stockedWorld_spared (S : World → World → Prop) :
    ((readAll 0 somePaths).chronicle (callAt usualRounds usualDepth) (callChronicle usualRounds usualDepth)
      usualRounds (stockedWorld [])).Respects S := by
  obtain ⟨hread, hdirectory, hfile⟩ := FileTree.jsonFile_found basedText
  have hpath : (Value.text "c.json").word? = some "c.json" := rfl
  have hthere : (stockedWorld []).scene.files.IsFile (Path.read "c.json") := by
    rw [hread]
    exact ⟨hdirectory, Option.isSome_iff_exists.mpr ⟨_, hfile⟩⟩
  have hpages : run (callAt usualRounds usualDepth) usualRounds (pagesIn ⟨"", ["c.json"]⟩) (stockedWorld []) =
      (.ok [(.text "P", .map 4)], openedWorld []) := by
    rw [pagesIn, bind_eq, run_bind, stockedWorld_opens, andThen_ok, bind_eq, run_view_bind,
      openedWorld_entries]
    rfl
  have hentries : ((readEntries 0 (Path.text ⟨"", ["c.json"]⟩) [] [(.text "P", .map 4)]).chronicle
      (callAt usualRounds usualDepth) (callChronicle usualRounds usualDepth) usualRounds
      (openedWorld [])).calls.isEmpty = true := by
    simp only [readEntries, readEntry, buildPage, definePageType, typeName_page]
    decide +kernel
  have hother : ∀ answer w, (((readAll 0 [.int 7]).bind fun others => .done (answer :: others)).chronicle
      (callAt usualRounds usualDepth) (callChronicle usualRounds usualDepth) usualRounds w).Respects S :=
    fun _ _ => Chronicle.respects_done S
  rw [somePaths, readAll, bind_eq]
  refine respects_bind.mpr ⟨Chronicle.respects_append.mpr ⟨?_, Chronicle.respects_done S⟩, hother _ _⟩
  rw [respects_readPath_file hpath hthere, hread, readFile_eq, respects_bind]
  refine ⟨respects_pagesIn S _ _, ?_⟩
  rw [hpages]
  refine respects_bind.mpr ⟨fun call hcall => ?_, ?_⟩
  · rw [List.isEmpty_iff.mp hentries] at hcall
    cases hcall
  · rcases run (callAt usualRounds usualDepth) usualRounds
      (readEntries 0 (Path.text ⟨"", ["c.json"]⟩) [] [(.text "P", .map 4)]) (openedWorld []) with ⟨_ | built, w⟩
    · exact Chronicle.respects_done S
    · refine respects_bind.mpr ⟨respects_log_of_plain (fileRead_plain _ _) w, ?_⟩
      rw [run_log_of_plain (fileRead_plain _ _)]
      exact Chronicle.respects_done S

/-- The file is read and the other path is not.  The catalog keeps the page beside the type
that it starts with. -/
theorem stockedWorld_registry :
    run (callAt usualRounds usualDepth) usualRounds (startCatalog (.map 3) false) (basedWorld []) =
        (.ok (.catalog 0), stockedWorld []) ∧
      ((readAll 0 somePaths).chronicle (callAt usualRounds usualDepth) (callChronicle usualRounds usualDepth)
        usualRounds (stockedWorld [])).Respects (World.SparesCatalog 0) ∧
      ∃ courses w', ReadsAll (callAt usualRounds usualDepth) (callChronicle usualRounds usualDepth) usualRounds 0
          (stockedWorld []) somePaths courses w' ∧
        run (callAt usualRounds usualDepth) usualRounds (readAll 0 somePaths) (stockedWorld []) =
          (.ok (courses.map Course.answer), w') ∧
        w'.scene.entriesAt (.pages 0) =
          Value.override [(.text "Base", .pageType basePage)] (courses.flatMap Course.entries) ∧
        w'.scene.entries? (.map 3) = some [(.text "Base", .pageType basePage)] := by
  obtain ⟨hfirst, courses, w', hreads, hrun, hkept, hmapping⟩ :=
    reads_override_registry (stockedWorld_starts []) somePaths (stockedWorld_spared _)
  rw [hfirst] at hkept
  exact ⟨stockedWorld_starts [], stockedWorld_spared _, courses, w', hreads, hrun, hkept,
    hmapping (stockedWorld_spared _) _ rfl⟩

/-- The type takes over a member that declares something, by which it puts something else
into what the catalog keeps. -/
def tamperingMembers : List (String × Value) := [("page_url", .method "page_url" 0)]

/-- That is there after the file has been read, though the reading does not answer with it. -/
theorem tamperedWorld_registry :
    ∃ built w', run (callAt usualRounds usualDepth) usualRounds (readPath 0 (.text "c.json"))
        (stockedWorld tamperingMembers) = (.ok built, w') ∧
      Value.lookup? (.text "Extra") (w'.scene.entriesAt (.pages 0)) ≠
        (Value.lookup? (.text "Extra") (Course.entriesOf built)).or
          (Value.lookup? (.text "Extra") ((stockedWorld tamperingMembers).scene.entriesAt (.pages 0))) := by
  have hended : (match run (callAt usualRounds usualDepth) usualRounds
      (readEntries 0 (Path.text ⟨"", ["c.json"]⟩) [] [(.text "P", .map 4)])
      (openedWorld tamperingMembers) with
    | (.ok built, w') =>
      (Value.lookup? (.text "Extra") (w'.scene.entriesAt (.pages 0))).isSome &&
        (Value.lookup? (.text "Extra") (Course.entriesOf built)).isNone
    | (.error _, _) => false) = true := by
    simp only [readEntries, readEntry, buildPage, definePageType, typeName_page]
    decide +kernel
  rw [run_stockedWorld, readOn, bind_eq, run_bind]
  rcases hbuilt : run (callAt usualRounds usualDepth) usualRounds
    (readEntries 0 (Path.text ⟨"", ["c.json"]⟩) [] [(.text "P", .map 4)])
    (openedWorld tamperingMembers) with ⟨r | built, w'⟩
  · rw [hbuilt] at hended
    cases hended
  · rw [hbuilt] at hended
    obtain ⟨hextra, hnone⟩ := Bool.and_eq_true_iff.mp hended
    rw [Option.isNone_iff_eq_none] at hnone
    refine ⟨built, w'.write (fileRead (Path.text ⟨"", ["c.json"]⟩) built.length), ?_, fun heq => ?_⟩
    · rw [andThen_ok, bind_eq, run_bind, run_log_of_plain (fileRead_plain _ _)]
      rfl
    have hbefore : Value.lookup? (.text "Extra")
        ((stockedWorld tamperingMembers).scene.entriesAt (.pages 0)) = none := by rfl
    rw [hnone, hbefore] at heq
    have hafter : Value.lookup? (.text "Extra") (w'.scene.entriesAt (.pages 0)) = none := heq
    rw [hafter] at hextra
    cases hextra

end Based

end PageObjects
