import PageObjects.Proofs.Catalog.Building
import PageObjects.Proofs.Catalog.Frames
import PageObjects.Proofs.Catalog.Overriding
import PageObjects.Proofs.Yaml.Growth

/-!
# The course of a reading

A reading goes through files, and through the entries of each of them, up to the first
file that cannot be opened or the first entry that cannot be built.  Its course says
which pages the opened files declare, which of them were built, and what fault ended it.
The answer of the reading, and what the catalog keeps after it, come from the course:
the page types that were built override those that the catalog kept, as long as the
calls that are made on the way leave the catalog alone.

Main definitions:

- `Catalog.Course`: what comes of a reading, with its answer.
- `Prog.Builds`, `Prog.Reads`: how the entries of a file, and files, are gone through.
- `Registering`: a relation of worlds for what building and keeping pages changes.

Main results:

- Theorem `Prog.run_valueOf_keeps`: opening a file leaves all collections as they were.
- Theorem `Prog.run_readEntries`, `Prog.run_readFile_course`, `Prog.run_readFiles`: runs take a course.
- Theorem `Catalog.Course.Sound.lookup?_built`: what a reading answers with, under each key.
-/

namespace PageObjects

/-! ## What comes of a reading -/

/-- A world in which a catalog keeps one more page type. -/
def World.keeping (w : World) (catalog : Nat) (name : Value) (cls : ClassRef) : World :=
  { w with scene := w.scene.register catalog name (.pageType cls) }

/-- A world in which it was announced that a file is read, if that is announced. -/
def World.announced (w : World) (announces : Bool) (path : Path) : World :=
  if announces then { w with scene := w.scene.note (.notice ("Reading page catalog: " ++ path.text)) } else w

namespace Catalog

/-- Page types by the names that they have, of which later ones win. -/
def builtOn (built : Built) (pages : List (Value × ClassRef)) : Built :=
  Assoc.merge built (pages.map fun p => (p.2.name, p.2))

/-- It does not matter whether page types are put together first. -/
theorem merge_builtOn (built : Built) (pages : List (Value × ClassRef)) :
    Assoc.merge built (builtOn [] pages) = builtOn built pages := by
  have hnodup : (([] : Built).map (·.1)).Nodup := List.nodup_nil
  exact Assoc.merge_assoc hnodup built _

/-- What comes of a reading: the names of the pages that the files declare which were
opened, the page types that were built for some of them, in order, and the fault that
ended the reading, if one did. -/
structure Course where
  declared : List Value := []
  pages : List (Value × ClassRef) := []
  fault : Option Raised := none

namespace Course

/-- What a reading answers with that goes on from page types that are built already. -/
def answerOn (c : Course) (built : Built) : Except Raised Built :=
  match c.fault with
  | none => .ok (builtOn built c.pages)
  | some r => .error r

/-- What a reading answers with. -/
def answer (c : Course) : Except Raised Built := c.answerOn []

/-- The page types that were built, as a catalog keeps them. -/
def entries (c : Course) : Value.Entries := c.pages.map fun p => (p.1, .pageType p.2)

/-- One course after another, if that has come to its end. -/
def append (c c' : Course) : Course :=
  { declared := c.declared ++ c'.declared, pages := c.pages ++ c'.pages, fault := c'.fault }

/-- The page types are those of the pages that are declared first, and of all pages if
nothing has ended the reading. -/
structure Sound (c : Course) : Prop where
  named : ∀ p ∈ c.pages, p.1.word? = some p.2.name
  declared : c.pages.map (·.1) <+: c.declared
  complete : c.fault = none → c.declared = c.pages.map (·.1)

variable {c c' : Course}

theorem answerOn_error {r : Raised} (h : c.fault = some r) (built : Built) : c.answerOn built = .error r := by
  rw [answerOn, h]

theorem answerOn_ok (h : c.fault = none) (built : Built) : c.answerOn built = .ok (builtOn built c.pages) := by
  rw [answerOn, h]

/-- A reading has an answer if nothing has ended it: the page types that were built. -/
theorem answer_eq_ok {built : Built} : c.answer = .ok built ↔ c.fault = none ∧ builtOn [] c.pages = built := by
  cases hfault : c.fault with
  | some r =>
    rw [answer, answerOn_error hfault]
    exact ⟨nofun, fun h => nomatch h.1⟩
  | none =>
    rw [answer, answerOn_ok hfault, Except.ok.injEq]
    exact ⟨fun h => ⟨rfl, h⟩, fun h => h.2⟩

/-- What comes after a course goes on from the page types that were built in it. -/
theorem answerOn_append (c c' : Course) (built : Built) :
    (c.append c').answerOn built = c'.answerOn (builtOn built c.pages) := by
  have hpages : builtOn built (c.pages ++ c'.pages) = builtOn (builtOn built c.pages) c'.pages := by
    rw [builtOn, builtOn, builtOn, List.map_append]
    exact List.foldl_append
  rw [answerOn, answerOn, append, hpages]

/-- A course is sound in which no page was built, unless pages were declared and nothing
has ended it. -/
theorem Sound.unbuilt (hpages : c.pages = []) (hended : c.fault = none → c.declared = []) : c.Sound where
  named p hp := by
    rw [hpages] at hp
    cases hp
  declared := by
    rw [hpages]
    exact List.nil_prefix
  complete h := by
    rw [hended h, hpages]
    rfl

/-- The page types that a reading answers with, as a mapping. -/
def entriesOf (built : Built) : Value.Entries := built.map fun e => (.text e.1, .pageType e.2)

/-- What a reading answers with, under each key, is what a catalog comes to keep. -/
theorem Sound.lookup?_built (h : c.Sound) (key : Value) :
    Value.lookup? key (entriesOf (builtOn [] c.pages)) = Value.lookup? key c.entries.reverse := by
  have htexts : entriesOf (builtOn [] c.pages) =
      Value.override [] (c.pages.map fun p => (.text p.2.name, .pageType p.2)) := by
    rw [entriesOf, builtOn, Value.texts_merge, List.map_map]
    rfl
  have hsame : ∀ pages : List (Value × ClassRef), (∀ p ∈ pages, p.1.word? = some p.2.name) →
      Value.lookup? key (pages.map fun p => (.text p.2.name, .pageType p.2)) =
        Value.lookup? key (pages.map fun p => (p.1, .pageType p.2)) := by
    intro pages hnamed
    induction pages with
    | nil => rfl
    | cons p rest ih =>
      have hrest := ih fun p hp => hnamed p (List.mem_cons_of_mem _ hp)
      have hidentity : p.1.identity = (Value.text p.2.name).identity :=
        Value.identity_eq_text_iff.mpr (hnamed p List.mem_cons_self)
      simp only [Value.lookup?, List.map_cons, List.find?_cons, hidentity] at hrest ⊢
      cases (Value.text p.2.name).identity == key.identity with
      | true => rfl
      | false => exact hrest
  rw [htexts, Value.lookup?_override, Value.lookup?_nil, Option.or_none, entries, ← List.map_reverse,
    ← List.map_reverse]
  exact hsame _ fun p hp => h.named p (List.mem_reverse.mp hp)

/-- Under each name a reading answers with the last page type that was built of that name. -/
theorem lookup_built (c : Course) (name : String) :
    (builtOn [] c.pages).lookup name = (c.pages.reverse.find? fun p => p.2.name == name).map (·.2) := by
  have hfound : ∀ pages : List (Value × ClassRef),
      (pages.map fun p => (p.2.name, p.2)).lookup name = (pages.find? fun p => p.2.name == name).map (·.2) := by
    intro pages
    induction pages with
    | nil => rfl
    | cons p rest ih =>
      rw [List.map_cons, List.lookup_cons, List.find?_cons, ih, Bool.beq_comm]
      cases p.2.name == name <;> rfl
  rw [builtOn, Assoc.lookup_merge, List.lookup_nil, Option.or_none, ← List.map_reverse, hfound]

/-- A reading that comes to its end answers with the names that are declared. -/
theorem Sound.mem_built (h : c.Sound) (hended : c.fault = none) (name : String) :
    ((builtOn [] c.pages).lookup name).isSome ↔ ∃ v ∈ c.declared, v.word? = some name := by
  rw [lookup_built, Option.isSome_map, List.find?_isSome, h.complete hended]
  constructor
  · rintro ⟨p, hp, hname⟩
    have hmem : p ∈ c.pages := List.mem_reverse.mp hp
    refine ⟨p.1, List.mem_map_of_mem hmem, ?_⟩
    rw [h.named p hmem, eq_of_beq hname]
  · rintro ⟨v, hv, hword⟩
    obtain ⟨p, hp, rfl⟩ := List.mem_map.mp hv
    rw [h.named p hp] at hword
    exact ⟨p, List.mem_reverse.mpr hp, beq_iff_eq.mpr (Option.some.inj hword)⟩

theorem Sound.append (h : c.Sound) (h' : c'.Sound) (hended : c.fault = none) : (c.append c').Sound where
  named p hp := by
    rcases List.mem_append.mp hp with hp | hp
    · exact h.named p hp
    · exact h'.named p hp
  declared := by
    show (c.pages ++ c'.pages).map (·.1) <+: c.declared ++ c'.declared
    rw [List.map_append, h.complete hended]
    exact (List.prefix_append_right_inj _).mpr h'.declared
  complete hcomplete := by
    show c.declared ++ c'.declared = (c.pages ++ c'.pages).map (·.1)
    rw [List.map_append, h.complete hended, h'.complete hcomplete]

end Course

end Catalog

namespace Prog

open Catalog

section Relations

variable (caller : Caller) (rounds : Nat) (catalog : Nat)

/-- The entries of the pages that a file declares. -/
def pagesIn (path : Path) : Prog Value.Entries := do
  let v ← valueOf path
  ofOption (.catalogShape path.text) (← view fun s => entriesIn? s.cells v)

/-- How the entries of a file are gone through, from a world to another: the pages that
are built, one after the other, and the fault of the first that cannot be built. -/
inductive Builds (file : String) : World → Value.Entries → List (Value × ClassRef) → Option Raised → World → Prop where
  | done (w : World) : Builds file w [] [] none w
  | failed {w w₁ w' : World} {name raw v : Value} {rest : Value.Entries} {r : Raised} :
      run caller rounds (described raw) w = (.ok v, w₁) →
      run caller rounds (buildPage catalog name v) w₁ = (.error r, w') →
      Builds file w ((name, raw) :: rest) [] (some (entryFailure file (w'.scene.text name) r)) w'
  | built {w w₁ w₂ w' : World} {name raw v : Value} {rest : Value.Entries} {cls : ClassRef}
      {pages : List (Value × ClassRef)} {fault : Option Raised} :
      run caller rounds (described raw) w = (.ok v, w₁) →
      run caller rounds (buildPage catalog name v) w₁ = (.ok cls, w₂) →
      Builds file (w₂.keeping catalog name cls) rest pages fault w' →
      Builds file w ((name, raw) :: rest) ((name, cls) :: pages) fault w'

/-- How a file is read, from a world to another: it cannot be opened, or its entries are
gone through, and it is noted if all of them have been built. -/
inductive FileReads (path : Path) : World → Course → World → Prop where
  | unopened {w w' : World} {r : Raised} :
      run caller rounds (pagesIn path) w = (.error r, w') → FileReads path w { fault := some r } w'
  | stopped {w w₁ w' : World} {entries : Value.Entries} {pages : List (Value × ClassRef)} {r : Raised} :
      run caller rounds (pagesIn path) w = (.ok entries, w₁) →
      Builds caller rounds catalog path.text w₁ entries pages (some r) w' →
      FileReads path w { declared := entries.map (·.1), pages, fault := some r } w'
  | read {w w₁ w₂ : World} {entries : Value.Entries} {pages : List (Value × ClassRef)} :
      run caller rounds (pagesIn path) w = (.ok entries, w₁) →
      Builds caller rounds catalog path.text w₁ entries pages none w₂ →
      FileReads path w { declared := entries.map (·.1), pages }
        (w₂.write (fileRead path.text (builtOn [] pages).length))

/-- How files are read one after the other, from a world to another, up to the first that
ends with a fault. -/
inductive Reads (announces : Bool) : World → List Path → Course → World → Prop where
  | done (w : World) : Reads announces w [] {} w
  | stopped {w w' : World} {path : Path} {rest : List Path} {c : Course} {r : Raised} :
      FileReads caller rounds catalog path (w.announced announces path) c w' → c.fault = some r →
      Reads announces w (path :: rest) c w'
  | read {w w₁ w' : World} {path : Path} {rest : List Path} {c c' : Course} :
      FileReads caller rounds catalog path (w.announced announces path) c w₁ → c.fault = none →
      Reads announces w₁ rest c' w' → Reads announces w (path :: rest) (c.append c') w'

end Relations

variable {caller : Caller} {called : CallChronicle} {rounds : Nat} {catalog : Nat} {w w' : World}

/-! ## Files that are opened -/

variable (caller rounds) in
/-- To look for the content of a file changes nothing. -/
theorem run_contentOf (path : Path) (w : World) : ∃ r, run caller rounds (contentOf path) w = (r, w) := by
  unfold contentOf
  simp only [bind_eq, run_view_bind]
  split
  · exact ⟨_, rfl⟩
  · rw [run_view_bind]
    cases w.scene.files.file? path with
    | none => exact ⟨_, rfl⟩
    | some found => exact ⟨_, rfl⟩

/-- The value of a text leaves all catalogs, collections, instances and files as they were. -/
theorem run_jsonValue_keeps (text : String) (w : World) : w.Keeps (run caller rounds (jsonValue text) w).2 := by
  unfold jsonValue
  rw [bind_eq]
  cases (Json.read nestingLimit text).mapError Json.Fault.toFault with
  | error fault => exact .refl w
  | ok tree => exact ⟨List.prefix_rfl, (Json.toValue_data w.scene.cells tree).1, List.prefix_rfl, rfl⟩

theorem run_yamlValue_keeps (text : String) (w : World) : w.Keeps (run caller rounds (yamlValue text) w).2 := by
  unfold yamlValue
  rw [bind_eq, run_view_bind]
  cases hread : Yaml.read text w.scene.cells with
  | error fault => exact .refl w
  | ok r =>
    obtain ⟨v, cells⟩ := r
    exact ⟨List.prefix_rfl, Yaml.read_grows hread, List.prefix_rfl, rfl⟩

variable (caller rounds) in
/-- To open a file leaves all catalogs, collections, instances and files as they were. -/
theorem run_valueOf_keeps (path : Path) (w : World) : w.Keeps (run caller rounds (valueOf path) w).2 := by
  unfold valueOf
  simp only [bind_eq]
  obtain ⟨r, hcontent⟩ := run_contentOf caller rounds path w
  rw [run_bind, hcontent]
  rcases r with fault | ⟨content, logged⟩
  · exact .refl w
  · simp only [andThen_ok]
    cases content.read? logged with
    | none =>
      split
      · exact .refl w
      · split <;> exact .refl w
    | some text =>
      split
      · exact run_yamlValue_keeps text w
      · split
        · exact run_jsonValue_keeps text w
        · exact .refl w

/-- A file is read from the entries of the pages that it declares. -/
theorem readFile_eq (catalog : Nat) (path : Path) :
    readFile catalog path = (pagesIn path).bind fun entries =>
      (readEntries catalog path.text [] entries).bind fun built =>
        (log (fileRead path.text built.length)).bind fun _ => .done built := by
  simp only [readFile, pagesIn, bind_eq, bind_assoc, pure_eq]

/-- To look for the pages that a file declares leaves all that as well. -/
theorem run_pagesIn_keeps (path : Path) (w : World) : w.Keeps (run caller rounds (pagesIn path) w).2 := by
  have hopened := run_valueOf_keeps caller rounds path w
  unfold pagesIn
  rw [bind_eq, run_bind]
  rcases hvalue : run caller rounds (valueOf path) w with ⟨fault | v, w₁⟩
  · rwa [hvalue] at hopened
  · rw [hvalue] at hopened
    rw [andThen_ok, bind_eq, run_view_bind]
    cases entriesIn? w₁.scene.cells v <;> exact hopened

/-- No calls are made to open a file. -/
theorem respects_valueOf (S : World → World → Prop) (path : Path) (w : World) :
    ((valueOf path).chronicle caller called rounds w).Respects S := by
  have hjson : ∀ text w, ((jsonValue text).chronicle caller called rounds w).Respects S := by
    intro text w
    rw [jsonValue, bind_eq]
    cases (Json.read nestingLimit text).mapError Json.Fault.toFault <;> exact Chronicle.respects_done S
  have hyaml : ∀ text w, ((yamlValue text).chronicle caller called rounds w).Respects S := by
    intro text w
    rw [yamlValue, bind_eq, respects_view_bind]
    cases (Yaml.read text w.scene.cells).mapError Yaml.Fault.toFault <;> exact Chronicle.respects_done S
  have hcontent : ((contentOf path).chronicle caller called rounds w).Respects S := by
    rw [contentOf, bind_eq, respects_view_bind, bind_eq, respects_view_bind]
    split
    · exact Chronicle.respects_done S
    · rw [bind_eq, respects_view_bind]
      split <;> exact Chronicle.respects_done S
  rw [valueOf, bind_eq]
  refine respects_bind.mpr ⟨hcontent, ?_⟩
  rcases run caller rounds (contentOf path) w with ⟨_ | ⟨content, logged⟩, w₁⟩
  · exact Chronicle.respects_done S
  · simp only [Chronicle.following]
    cases content.read? logged with
    | none =>
      split
      · exact Chronicle.respects_done S
      · split <;> exact Chronicle.respects_done S
    | some text =>
      split
      · exact hyaml text w₁
      · split
        · exact hjson text w₁
        · exact Chronicle.respects_done S

/-- Nor are any made to look for the pages that a file declares. -/
theorem respects_pagesIn (S : World → World → Prop) (path : Path) (w : World) :
    ((pagesIn path).chronicle caller called rounds w).Respects S := by
  rw [pagesIn, bind_eq]
  refine respects_bind.mpr ⟨respects_valueOf S path w, ?_⟩
  rcases run caller rounds (valueOf path) w with ⟨_ | v, w₁⟩
  · exact Chronicle.respects_done S
  · rw [Chronicle.following, bind_eq, respects_view_bind]
    cases entriesIn? w₁.scene.cells v <;> exact Chronicle.respects_done S

/-! ## Entries that are gone through -/

variable (caller rounds) in
/-- What describes a page is there. -/
theorem run_described (raw : Value) (w : World) : ∃ v w', run caller rounds (described raw) w = (.ok v, w') := by
  rw [described, bind_eq, run_view_bind]
  split <;> exact ⟨_, _, rfl⟩

/-- A type that is defined has the name that it is given. -/
theorem definePageType_name {draft : Draft} {declare : ClassRef → Prog (List Raised)} {cls : ClassRef}
    {caught : List Raised} (h : run caller rounds (definePageType draft declare) w = (.ok (cls, caught), w')) :
    draft.name.word? = some cls.name := by
  simp only [definePageType, bind_eq] at h
  obtain ⟨name, _, hname, h⟩ := run_bind_ok h
  obtain ⟨htype, rfl⟩ := run_ofFault_ok' hname
  have hcls : cls.name = name := by
    rw [run_view_bind] at h
    obtain ⟨fullName, _, -, h⟩ := run_bind_ok h
    rw [run_view_bind] at h
    obtain ⟨lineage, _, -, h⟩ := run_bind_ok h
    rw [run_view_bind] at h
    split at h
    · obtain ⟨_, _, -, h⟩ := run_bind_ok h
      cases h
      rfl
    · obtain ⟨_, _, -, h⟩ := run_bind_ok h
      cases h
      rfl
  rw [hcls]
  unfold typeName at htype
  split at htype
  · cases htype
  · rename_i s hs
    rw [hs]
    split at htype
    · cases htype
    · split at htype <;> cases htype
      rfl

/-- So has the page type of an entry. -/
theorem buildPage_name {name raw : Value} {cls : ClassRef}
    (h : run caller rounds (buildPage catalog name raw) w = (.ok cls, w')) : name.word? = some cls.name := by
  rw [buildPage, bind_eq, run_view_bind] at h
  split at h
  · obtain ⟨_, _, -, h⟩ := run_bind_ok h
    cases h
  · obtain ⟨unknown, _, -, h⟩ := run_bind_ok h
    split at h
    · obtain ⟨base, _, -, h⟩ := run_bind_ok h
      obtain ⟨⟨cls', caught⟩, _, hdefined, h⟩ := run_bind_ok h
      cases h
      exact definePageType_name hdefined
    · obtain ⟨_, _, -, h⟩ := run_bind_ok h
      cases h

end Prog

/-- A relation of worlds for what a catalog comes to keep while pages are built: nothing is
kept by what leaves all that was there as it was, and each page that is kept is. -/
structure Registering (catalog : Nat) (R : List (Value × ClassRef) → World → World → Prop) : Prop where
  keeps : ∀ {w w'}, w.Keeps w' → R [] w w'
  append : ∀ {w w' w'' pages pages'}, R pages w w' → R pages' w' w'' → R (pages ++ pages') w w''
  keeping : ∀ (w : World) name cls, R [(name, cls)] w (w.keeping catalog name cls)

namespace Registering

variable {catalog : Nat} {R : List (Value × ClassRef) → World → World → Prop}

/-- What leaves alone what a catalog keeps frames what programs do. -/
theorem framing (hR : Registering catalog R) : Framing (R []) where
  keeps := hR.keeps
  trans h h' := hR.append h h'

theorem refl (hR : Registering catalog R) (w : World) : R [] w w := hR.framing.refl w

end Registering

namespace Prog

open Catalog

/-- The first of the files is read after it was announced, if that is announced. -/
theorem run_readFiles_cons {caller : Caller} {rounds catalog : Nat} (announces : Bool) (built : Built) (path : Path)
    (rest : List Path) (w : World) :
    run caller rounds (readFiles catalog announces built (path :: rest)) w =
      andThen (run caller rounds (readFile catalog path) (w.announced announces path)) fun more =>
        run caller rounds (readFiles catalog announces (Assoc.merge built more) rest) := by
  rw [← run_bind]
  cases announces <;> rfl

/-- What happens while files are read happens in the first of them and in the others. -/
theorem respects_readFiles_cons {caller : Caller} {called : CallChronicle} {rounds catalog : Nat} {announces : Bool}
    {built : Built} {path : Path} {rest : List Path} {w : World} {S : World → World → Prop} :
    ((readFiles catalog announces built (path :: rest)).chronicle caller called rounds w).Respects S ↔
      ((readFile catalog path).chronicle caller called rounds (w.announced announces path)).Respects S ∧
        (Chronicle.following (run caller rounds (readFile catalog path) (w.announced announces path)) fun more =>
          (readFiles catalog announces (Assoc.merge built more) rest).chronicle caller called rounds).Respects S := by
  rw [← respects_bind]
  cases announces <;> exact Iff.rfl

variable {caller : Caller} {called : CallChronicle} {rounds : Nat} {catalog : Nat} {w w' : World}
  {R : List (Value × ClassRef) → World → World → Prop} (hR : Registering catalog R)

include hR

/-- The entries of a file are gone through, and the pages are kept that are built. -/
theorem run_readEntries {file : String} (entries : Value.Entries) (built : Built) (w : World)
    (hcalls : ((readEntries catalog file built entries).chronicle caller called rounds w).Respects (R [])) :
    ∃ pages fault w', Builds caller rounds catalog file w entries pages fault w' ∧
      run caller rounds (readEntries catalog file built entries) w =
        (Course.answerOn { pages, fault } built, w') ∧ R pages w w' := by
  induction entries generalizing built w with
  | nil => exact ⟨[], none, w, .done w, rfl, hR.refl w⟩
  | cons e rest ih =>
    obtain ⟨name, raw⟩ := e
    obtain ⟨v, w₁, hdescribed⟩ := run_described caller rounds raw w
    -- the calls that are made while the page is built, and those that are made after it
    rw [readEntries, bind_eq, respects_bind] at hcalls
    obtain ⟨hentryCalls, hrestCalls⟩ := hcalls
    rw [readEntry, bind_eq, respects_bind, hdescribed] at hentryCalls
    obtain ⟨hdescribedCalls, hbuildCalls⟩ := hentryCalls
    have hdescribedR : R [] w w₁ := by
      have hframed := run_framed hR.framing (.described raw) w hdescribedCalls
      rwa [hdescribed] at hframed
    have hbuildR : R [] w₁ (run caller rounds (buildPage catalog name v) w₁).2 :=
      run_framed hR.framing (.buildPage catalog name v) w₁ (Chronicle.respects_append.mp hbuildCalls).1
    rcases hbuilt : run caller rounds (buildPage catalog name v) w₁ with ⟨r | cls, w₂⟩
    · rw [hbuilt] at hbuildR
      exact ⟨[], some _, w₂, .failed hdescribed hbuilt, run_readEntries_error hdescribed hbuilt,
        hR.append hdescribedR hbuildR⟩
    · rw [hbuilt] at hbuildR
      have hentry : run caller rounds (readEntry catalog file name raw) w = (.ok cls, w₂.keeping catalog name cls) := by
        rw [readEntry, bind_eq, run_bind, hdescribed, andThen_ok, bind_eq, run_bind, run_outcome, hbuilt]
        rfl
      rw [hentry] at hrestCalls
      obtain ⟨pages, fault, w', hbuilds, hrun, hrestR⟩ := ih (Assoc.put cls.name cls built) _ hrestCalls
      refine ⟨(name, cls) :: pages, fault, w', .built hdescribed hbuilt hbuilds, ?_, ?_⟩
      · rw [readEntries, bind_eq, run_bind, hentry, andThen_ok, hrun]
        rfl
      · have hkept := hR.append (hR.append hdescribedR hbuildR) (hR.keeping w₂ name cls)
        exact hR.append hkept hrestR

/-! ## Files that are read -/

/-- A file takes its course, and the pages are kept that are built. -/
theorem run_readFile_course (path : Path) (w : World)
    (hcalls : ((readFile catalog path).chronicle caller called rounds w).Respects (R [])) :
    ∃ c w', FileReads caller rounds catalog path w c w' ∧
      run caller rounds (readFile catalog path) w = (c.answer, w') ∧ R c.pages w w' := by
  rw [readFile_eq] at hcalls ⊢
  have hopened : R [] w (run caller rounds (pagesIn path) w).2 := hR.keeps (run_pagesIn_keeps path w)
  have hrest := (respects_bind.mp hcalls).2
  rw [run_bind]
  rcases hpages : run caller rounds (pagesIn path) w with ⟨r | entries, w₁⟩
  · rw [hpages] at hopened
    exact ⟨{ fault := some r }, w₁, .unopened hpages, rfl, hopened⟩
  · rw [hpages] at hopened hrest
    have hentriesCalls := (respects_bind.mp hrest).1
    obtain ⟨pages, fault, w₂, hbuilds, hrun, hbuilt⟩ := run_readEntries hR entries [] w₁ hentriesCalls
    have hkept : R pages w w₂ := hR.append hopened hbuilt
    rw [andThen_ok, run_bind, hrun]
    cases fault with
    | some r => exact ⟨_, w₂, .stopped hpages hbuilds, rfl, hkept⟩
    | none =>
      have hnoted : R [] w₂ (w₂.write (fileRead path.text (builtOn [] pages).length)) :=
        hR.keeps (.of_eq rfl rfl rfl rfl)
      have hall := hR.append hkept hnoted
      rw [List.append_nil] at hall
      refine ⟨_, _, .read hpages hbuilds, ?_, hall⟩
      rw [Course.answerOn_ok rfl, andThen_ok, run_bind, run_log_of_plain (fileRead_plain _ _)]
      rfl

/-- Files take their course one after the other, and the pages are kept that are built. -/
theorem run_readFiles (announces : Bool) (files : List Path) (built : Built) (w : World)
    (hcalls : ((readFiles catalog announces built files).chronicle caller called rounds w).Respects (R [])) :
    ∃ c w', Reads caller rounds catalog announces w files c w' ∧
      run caller rounds (readFiles catalog announces built files) w = (c.answerOn built, w') ∧ R c.pages w w' := by
  induction files generalizing built w with
  | nil => exact ⟨{}, w, .done w, rfl, hR.refl w⟩
  | cons path rest ih =>
    obtain ⟨hfileCalls, hrestCalls⟩ := respects_readFiles_cons.mp hcalls
    obtain ⟨c, w₁, hreads, hfile, hkept⟩ := run_readFile_course hR path _ hfileCalls
    have hannounced : R [] w (w.announced announces path) := by
      cases announces
      · exact hR.refl w
      · exact hR.keeps (.of_eq rfl rfl rfl rfl)
    have hfirst : R c.pages w w₁ := hR.append hannounced hkept
    rw [run_readFiles_cons, hfile]
    rw [hfile] at hrestCalls
    cases hfault : c.fault with
    | some r =>
      refine ⟨c, w₁, .stopped hreads hfault, ?_, hfirst⟩
      rw [Course.answer, Course.answerOn_error hfault, Course.answerOn_error hfault, andThen_error]
    | none =>
      rw [Course.answer, Course.answerOn_ok hfault] at hrestCalls ⊢
      obtain ⟨c', w', hothers, hrunOthers, hkeptOthers⟩ := ih (Assoc.merge built (builtOn [] c.pages)) w₁ hrestCalls
      refine ⟨c.append c', w', .read hreads hfault hothers, ?_, hR.append hfirst hkeptOthers⟩
      rw [andThen_ok, hrunOthers, merge_builtOn, Course.answerOn_append]

omit hR

/-! ## Courses are sound -/

/-- The pages that are built are those that are declared first. -/
theorem Builds.sound {file : String} {entries : Value.Entries} {pages : List (Value × ClassRef)} {fault : Option Raised}
    (h : Builds caller rounds catalog file w entries pages fault w') :
    Course.Sound { declared := entries.map (·.1), pages, fault } := by
  induction h with
  | done w => exact .unbuilt rfl fun _ => rfl
  | failed _ _ => exact .unbuilt rfl nofun
  | built _ hbuilt _ ih =>
    refine ⟨fun p hp => ?_, ?_, fun hended => ?_⟩
    · rcases List.mem_cons.mp hp with rfl | hp
      · exact buildPage_name hbuilt
      · exact ih.named p hp
    · exact (List.prefix_cons_inj _).mpr ih.declared
    · have hrest := ih.complete hended
      simp only [List.map_cons] at hrest ⊢
      rw [hrest]

theorem FileReads.sound {path : Path} {c : Course} (h : FileReads caller rounds catalog path w c w') : c.Sound := by
  cases h with
  | unopened _ => exact .unbuilt rfl nofun
  | stopped _ hbuilds => exact hbuilds.sound
  | read _ hbuilds => exact hbuilds.sound

theorem Reads.sound {announces : Bool} {files : List Path} {c : Course}
    (h : Reads caller rounds catalog announces w files c w') : c.Sound := by
  induction h with
  | done w => exact .unbuilt rfl fun _ => rfl
  | stopped hfile _ => exact hfile.sound
  | read hfile hended _ ih => exact hfile.sound.append ih hended

end Prog

end PageObjects
