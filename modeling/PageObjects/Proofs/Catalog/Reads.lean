import PageObjects.Proofs.Catalog.Courses
import PageObjects.Proofs.Catalog.Malformed

/-!
# Paths that are read

A path leads to a directory, of which the files are read one after the other, to a file,
or nowhere.  The calls that are made while pages are built may do anything; what is said
here of catalogs, of mappings and of files holds as long as the calls leave them alone.
Then what is built is all that comes to a catalog, no other mapping changes, and to read
a directory is to read its files one by one.

Main definitions:

- `World.SparesCatalog`, `World.SparesMapping`, `World.SparesFiles`: what calls may leave alone.
- `Prog.PathReads`: how a path is read.
- `Prog.readEach`, `Prog.readAll`: files and paths that are read one after the other.

Main results:

- Theorem `Prog.run_readPath_course`: a path takes its course.
- Theorem `Prog.run_readAll_framed`: what is left alone while paths are read.
- Theorem `Prog.run_readFiles_each`: files may be read one by one.
-/

namespace PageObjects

open Catalog

/-! ## What calls may leave alone -/

/-- A path leads to a regular file. -/
def FileTree.IsFile (t : FileTree) (p : Path) : Prop := t.isDirectory p = false ∧ (t.file? p).isSome = true

/-- A path as it is given leads to a place. -/
def Value.LeadsTo (path : Value) (p : Path) : Prop := ∃ text, path.word? = some text ∧ Path.read text = p

/-- The entries of a mapping that is there and may hold page types: a collection, what a
catalog keeps, or the fields of an instance. -/
def Scene.heldEntries? (s : Scene) : Value → Option Value.Entries
  | .map i =>
    match s.cells.cell? i with
    | some (.map entries) => some entries
    | _ => none
  | .mapping (.pages c) => (s.catalogs[c]?).map (·.pages)
  | .mapping (.fields i) => (s.instances[i]?).map fun i => Value.named i.fields
  | _ => none

/-- Whether a catalog announces what it reads. -/
def Scene.announces (s : Scene) (catalog : Nat) : Bool := ((s.catalogs[catalog]?).map (·.announces)).getD false

namespace World

/-- A catalog is as it was. -/
def SparesCatalog (catalog : Nat) (w w' : World) : Prop :=
  ∀ c, w.scene.catalogs[catalog]? = some c → w'.scene.catalogs[catalog]? = some c

/-- A mapping is as it was. -/
def SparesMapping (v : Value) (w w' : World) : Prop :=
  ∀ entries, w.scene.heldEntries? v = some entries → w'.scene.heldEntries? v = some entries

/-- What were regular files still are. -/
def SparesFiles (w w' : World) : Prop := ∀ p, w.scene.files.IsFile p → w'.scene.files.IsFile p

/-- A catalog keeps pages beside those that it kept, which they override. -/
def KeepsPages (catalog : Nat) (pages : List (Value × ClassRef)) (w w' : World) : Prop :=
  ∀ c, w.scene.catalogs[catalog]? = some c →
    w'.scene.catalogs[catalog]? =
      some { c with pages := Value.override c.pages (pages.map fun p => (p.1, .pageType p.2)) }

end World

/-- What was in a list is still in a list that it begins. -/
theorem getElem?_of_begins {α : Type} {l l' : List α} (h : l <+: l') {i : Nat} {a : α} (ha : l[i]? = some a) :
    l'[i]? = some a := by
  obtain ⟨rest, rfl⟩ := h
  rw [List.getElem?_append_left (List.getElem?_eq_some_iff.mp ha).1, ha]

namespace World

variable {w w' w'' : World} {catalog : Nat}

/-- A catalog keeps what was built, if all else leaves it as it is. -/
theorem keepsPages_registering (catalog : Nat) : Registering catalog (KeepsPages catalog) where
  keeps h c hc := getElem?_of_begins h.catalogs hc
  append {w w' w'' pages pages'} h h' c hc := by
    have hboth := h' _ (h c hc)
    rw [hboth, List.map_append, Value.override_append]
  keeping w name cls c hc := by
    have hlt : catalog < w.scene.catalogs.length := (List.getElem?_eq_some_iff.mp hc).1
    simp only [World.keeping, Scene.register, hc, List.getElem?_set_self hlt]
    rfl

/-- A mapping that is not what the catalog keeps is left alone by what is read. -/
theorem sparesMapping_registering {v : Value} (hv : v ≠ .mapping (.pages catalog)) :
    Registering catalog fun _ => SparesMapping v where
  keeps {w w'} h entries hentries := by
    unfold Scene.heldEntries? at hentries ⊢
    split at hentries
    · rename_i i
      cases hcell : w.scene.cells.cell? i with
      | none =>
        rw [hcell] at hentries
        cases hentries
      | some cell =>
        rw [hcell] at hentries
        simp only [h.cells i cell hcell]
        exact hentries
    · obtain ⟨c, hc, rfl⟩ := Option.map_eq_some_iff.mp hentries
      rw [getElem?_of_begins h.catalogs hc]
      rfl
    · obtain ⟨i, hi, rfl⟩ := Option.map_eq_some_iff.mp hentries
      rw [getElem?_of_begins h.instances hi]
      rfl
    · cases hentries
  append h h' entries hentries := h' entries (h entries hentries)
  keeping w name cls entries hentries := by
    rw [World.keeping, Scene.register_same]
    unfold Scene.heldEntries? at hentries ⊢
    split at hentries
    · exact hentries
    · rename_i c
      have hne : catalog ≠ c := fun heq => hv (by rw [heq])
      simp only
      unfold Scene.register
      split
      · rw [List.getElem?_set_ne hne]
        exact hentries
      · exact hentries
    · exact hentries
    · cases hentries

/-- Regular files are left alone by what is read. -/
theorem sparesFiles_registering (catalog : Nat) : Registering catalog fun _ => SparesFiles where
  keeps h p hp := by
    rw [h.files]
    exact hp
  append h h' p hp := h' p (h p hp)
  keeping w name cls p hp := by
    rw [World.keeping, Scene.register_same]
    exact hp

end World

/-! ## Paths -/

namespace Prog

/-- How a path is read, from a world to another: the files of a directory one after the
other, or a file; or it cannot be read. -/
inductive PathReads (caller : Caller) (rounds : Nat) (catalog : Nat) : World → Value → Course → World → Prop where
  | directory {w w' : World} {path : Value} {text : String} {c : Course} : path.word? = some text →
      w.scene.files.isDirectory (Path.read text) = true →
      Reads caller rounds catalog (w.scene.announces catalog) w (catalogFiles w.scene.files (Path.read text)) c w' →
      PathReads caller rounds catalog w path c w'
  | file {w w' : World} {path : Value} {text : String} {c : Course} : path.word? = some text →
      w.scene.files.IsFile (Path.read text) → FileReads caller rounds catalog (Path.read text) w c w' →
      PathReads caller rounds catalog w path c w'
  | missing {w : World} {path : Value} {text : String} {fault : Fault} : path.word? = some text →
      w.scene.files.isDirectory (Path.read text) = false → w.scene.files.file? (Path.read text) = none →
      fault = .plain .otherSystem ∨ fault = .pathNotFound (Path.read text).text →
      PathReads caller rounds catalog w path { fault := some { fault } } w
  | noPath {w : World} {path : Value} : path.word? = none →
      PathReads caller rounds catalog w path { fault := some { fault := .wrongType } } w

/-- Files that are read one by one by paths that lead to them, of which later ones win; each
is announced before it is read, if that is announced. -/
def readEach (catalog : Nat) (announces : Bool) : Built → List (Path × Value) → Prog Built
  | built, [] => .done built
  | built, (file, path) :: rest => do
    if announces then op (.note (.notice ("Reading page catalog: " ++ file.text)))
    let more ← readPath catalog path
    readEach catalog announces (Assoc.merge built more) rest

/-- Paths that are read one after the other, whether or not one of them ends with a fault. -/
def readAll (catalog : Nat) : List Value → Prog (List (Except Raised Built))
  | [] => .done []
  | path :: rest => do
    let answer ← outcome (readPath catalog path)
    let others ← readAll catalog rest
    pure (answer :: others)

variable {caller : Caller} {called : CallChronicle} {rounds : Nat} {catalog : Nat} {w w' : World}

theorem PathReads.sound {path : Value} {c : Course} (h : PathReads caller rounds catalog w path c w') : c.Sound := by
  cases h with
  | directory _ _ hreads => exact hreads.sound
  | file _ _ hreads => exact hreads.sound
  | missing _ _ _ _ => exact .unbuilt rfl nofun
  | noPath _ => exact .unbuilt rfl nofun

/-- A directory is read file by file. -/
theorem run_readPath_directory {path : Value} {text : String} (hpath : path.word? = some text)
    (hdirectory : w.scene.files.isDirectory (Path.read text) = true) :
    run caller rounds (readPath catalog path) w =
      run caller rounds
        (readFiles catalog (w.scene.announces catalog) [] (catalogFiles w.scene.files (Path.read text))) w := by
  rw [readPath_eq hpath, readPlace, bind_eq, run_view_bind, if_pos hdirectory]
  rfl

/-- What happens while a directory is read happens in its files. -/
theorem respects_readPath_directory {path : Value} {text : String} {S : World → World → Prop}
    (hpath : path.word? = some text) (hdirectory : w.scene.files.isDirectory (Path.read text) = true) :
    ((readPath catalog path).chronicle caller called rounds w).Respects S ↔
      ((readFiles catalog (w.scene.announces catalog) [] (catalogFiles w.scene.files (Path.read text))).chronicle
        caller called rounds w).Respects S := by
  rw [readPath_eq hpath, readPlace, bind_eq, respects_view_bind, if_pos hdirectory]
  exact Iff.rfl

/-- What happens while a path is read that leads to a file happens while that is read. -/
theorem respects_readPath_file {path : Value} {text : String} {S : World → World → Prop}
    (hpath : path.word? = some text) (hfile : w.scene.files.IsFile (Path.read text)) :
    ((readPath catalog path).chronicle caller called rounds w).Respects S ↔
      ((readFile catalog (Path.read text)).chronicle caller called rounds w).Respects S := by
  obtain ⟨hdirectory, hthere⟩ := hfile
  rw [readPath_eq hpath, readPlace, bind_eq, respects_view_bind, hdirectory, if_neg Bool.false_ne_true, bind_eq,
    respects_view_bind, if_pos hthere]

section Runs

variable {R : List (Value × ClassRef) → World → World → Prop} (hR : Registering catalog R)

include hR

/-- A path takes its course, and the pages are kept that are built. -/
theorem run_readPath_course (path : Value) (w : World)
    (hcalls : ((readPath catalog path).chronicle caller called rounds w).Respects (R [])) :
    ∃ c w', PathReads caller rounds catalog w path c w' ∧
      run caller rounds (readPath catalog path) w = (c.answer, w') ∧ R c.pages w w' := by
  cases hpath : path.word? with
  | none =>
    rw [readPath, hpath]
    exact ⟨_, w, .noPath hpath, rfl, hR.refl w⟩
  | some text =>
    by_cases hdirectory : w.scene.files.isDirectory (Path.read text) = true
    · rw [respects_readPath_directory hpath hdirectory] at hcalls
      obtain ⟨c, w', hreads, hrun, hkept⟩ := run_readFiles hR (w.scene.announces catalog) _ [] w hcalls
      exact ⟨c, w', .directory hpath hdirectory hreads, (run_readPath_directory hpath hdirectory).trans hrun, hkept⟩
    · rw [Bool.not_eq_true] at hdirectory
      by_cases hthere : (w.scene.files.file? (Path.read text)).isSome = true
      · rw [respects_readPath_file hpath ⟨hdirectory, hthere⟩] at hcalls
        obtain ⟨c, w', hreads, hrun, hkept⟩ := run_readFile_course hR (Path.read text) w hcalls
        exact ⟨c, w', .file hpath ⟨hdirectory, hthere⟩ hreads,
          (run_readPath_file hpath hdirectory hthere).trans hrun, hkept⟩
      · rw [Bool.not_eq_true, Option.isSome_eq_false_iff, Option.isNone_iff_eq_none] at hthere
        rw [readPath_eq hpath, readPlace, bind_eq, run_view_bind, hdirectory, if_neg Bool.false_ne_true, bind_eq,
          run_view_bind, hthere, if_neg (by simp), bind_eq, run_view_bind]
        split
        · exact ⟨_, w, .missing hpath hdirectory hthere (.inl rfl), rfl, hR.refl w⟩
        · exact ⟨_, w, .missing hpath hdirectory hthere (.inr rfl), rfl, hR.refl w⟩

end Runs

/-- Paths that are read leave alone what is left alone by all that happens on the way. -/
theorem run_readAll_framed {S : World → World → Prop} (hS : Registering catalog fun _ => S) (paths : List Value)
    (w : World) (hcalls : ((readAll catalog paths).chronicle caller called rounds w).Respects S) :
    S w (run caller rounds (readAll catalog paths) w).2 := by
  induction paths generalizing w with
  | nil => exact hS.refl w
  | cons path rest ih =>
    rw [readAll, bind_eq] at hcalls ⊢
    obtain ⟨hpathCalls, hrestCalls⟩ := respects_bind.mp hcalls
    obtain ⟨c, w₁, -, hrun, hspared⟩ := run_readPath_course hS path w (Chronicle.respects_append.mp hpathCalls).1
    rw [run_outcome, hrun] at hrestCalls
    have hothers := ih w₁ (respects_bind.mp hrestCalls).1
    rw [run_bind, run_outcome, hrun, andThen_ok, bind_eq, run_bind]
    rcases hrest : run caller rounds (readAll catalog rest) w₁ with ⟨_ | others, w'⟩ <;>
      (rw [hrest] at hothers; exact hS.framing.trans hspared hothers)

/-! ## Files one by one -/

/-- The first of the files is read after it was announced, if that is announced. -/
theorem run_readEach_cons (announces : Bool) (built : Built) (file : Path) (path : Value)
    (rest : List (Path × Value)) (w : World) :
    run caller rounds (readEach catalog announces built ((file, path) :: rest)) w =
      andThen (run caller rounds (readPath catalog path) (w.announced announces file)) fun more =>
        run caller rounds (readEach catalog announces (Assoc.merge built more) rest) := by
  rw [← run_bind]
  cases announces <;> rfl

/-- Regular files may be read one by one, if the calls on the way leave such files alone. -/
theorem run_readFiles_each (announces : Bool) (files : List (Path × Value)) (built : Built) (w : World)
    (hfiles : ∀ f ∈ files, w.scene.files.IsFile f.1 ∧ f.2.LeadsTo f.1)
    (hcalls : ((readFiles catalog announces built (files.map (·.1))).chronicle caller called rounds w).Respects
      World.SparesFiles) :
    run caller rounds (readEach catalog announces built files) w =
      run caller rounds (readFiles catalog announces built (files.map (·.1))) w := by
  induction files generalizing built w with
  | nil => rfl
  | cons f rest ih =>
    obtain ⟨file, path⟩ := f
    have hspares := World.sparesFiles_registering catalog
    obtain ⟨hfile, text, hpath, hplace⟩ := hfiles (file, path) List.mem_cons_self
    have hannounced : (w.announced announces file).scene.files = w.scene.files := by
      cases announces <;> rfl
    rw [← hannounced, ← hplace] at hfile
    obtain ⟨hfileCalls, hrestCalls⟩ := respects_readFiles_cons.mp hcalls
    obtain ⟨c, w₁, -, hread, hspared⟩ := run_readFile_course hspares file _ hfileCalls
    rw [List.map_cons, run_readFiles_cons, run_readEach_cons, run_readPath_file hpath hfile.1 hfile.2, hplace, hread]
    rw [hread] at hrestCalls
    rcases hanswer : c.answer with r | more
    · rfl
    · rw [hanswer] at hrestCalls
      have hstill : ∀ f ∈ rest, w₁.scene.files.IsFile f.1 ∧ f.2.LeadsTo f.1 := by
        intro f hf
        obtain ⟨hbefore, hleads⟩ := hfiles f (List.mem_cons_of_mem _ hf)
        rw [← hannounced] at hbefore
        exact ⟨hspared f.1 hbefore, hleads⟩
      exact ih _ w₁ hstill hrestCalls

end Prog

end PageObjects
