import PageObjects.Proofs.Catalog.Building
import PageObjects.Proofs.Catalog.Pages
import PageObjects.Proofs.PageType.Writing

/-!
# Pages out of catalogs and pages that are written by hand

A page type that is built from an entry is the page type of the class statement that
makes the calls that the entry describes: it has the same definition, its accessors do
the same, and where the one ends with a fault, so does the other.  A file is read entry
by entry; a fault of the library's own that ends an entry ends the reading with a fault
of the catalog, which is caused by it.

Main definitions:

- `Catalog.PageEntry.clauses`: the clauses of a hook that is written by hand.
- `Prog.writtenType`: the class statement that has these clauses.
- `SameType`: two class statements come to the same.

Main results:

- Theorem `Scene.Extensible.written_same`: hooks that make the same calls come to the same.
- Theorem `catalogPage_handwritten`: entries and class statements come to the same.
-/

namespace PageObjects

open Catalog

/-! ## Clauses -/

/-- The expression of a title that is expected: a text, or a pattern that is compiled. -/
def TitleExpectation.expr : TitleExpectation → Expr
  | .exactly title => .request (.const title)
  | .matching source => .request (.pattern (.text source))

namespace Catalog

/-- The clauses of a hook that is written by hand: the calls of the page, with a
function for each accessor. -/
def PageEntry.clauses (p : PageEntry) : List Clause :=
  p.address.toList.map (fun t => .address (.text t))
    ++ p.title.toList.map (fun t => .expectTitle t.expr)
    ++ p.expected.toList.map (fun e => .expectElement e.name (some e.timeout))
    ++ p.elements.map (fun e => .binding "element" (.text e.1) (some e.2.body) false)
    ++ p.values.map (fun e => .binding "value" (.text e.1) (some e.2.body) false)
    ++ p.links.map (fun label => .link (.text label))
    ++ p.buttons.map (fun label => .button (.text label))

/-- An accessor that a catalog makes acts as a function that is written by hand. -/
theorem Accessor.actsAs (a : Accessor) {functions : List Expr} {id : Nat} (h : functions[id]? = some a.body) :
    Value.ActsAs functions a.value (.function id) := by
  rintro rounds depth page w ⟨more, hmore⟩
  refine (a.call_eq ?_ rounds depth page).symm
  rw [← hmore, List.getElem?_append_left (List.getElem?_eq_some_iff.mp h).1, h]

theorem Accessor.value_isNone (a : Accessor) : a.value.isNone = false := by cases a <;> rfl

/-- The clauses of a page that an entry describes make its calls. -/
theorem Describes.writes {s : Scene} {entries : Value.Entries} {p : PageEntry} (h : Describes s entries p) :
    List.Forall₂ Clause.Writes p.clauses p.calls := by
  have hmap : ∀ {α : Type} (f : α → Clause) (g : α → Statement) (l : List α), (∀ a ∈ l, (f a).Writes (g a)) →
      List.Forall₂ Clause.Writes (l.map f) (l.map g) := by
    intro α f g l hfg
    rw [List.forall₂_map_left_iff, List.forall₂_map_right_iff, List.forall₂_same]
    exact hfg
  have htitle : ∀ t ∈ p.title.toList, (Clause.expectTitle t.expr).Writes (.expectTitle t.toValue) := by
    intro t ht
    refine .expectTitle fun caller rounds w => ?_
    have hpart := h.title
    rw [Option.mem_toList.mp ht] at hpart
    cases t with
    | exactly title => rfl
    | matching source =>
      obtain ⟨-, -, fields, v, -, -, -, pattern, hpattern⟩ := hpart
      show Prog.run caller rounds (Prog.patternOf (.text source)) w = _
      rw [Prog.patternOf, Prog.bind_eq, show (Value.text source).word? = some source from rfl,
        Prog.run_ofOption_some_bind, hpattern]
      rfl
  have hbinding : ∀ (member : String) (l : List (String × Accessor)), ∀ e ∈ l,
      (Clause.binding member (.text e.1) (some e.2.body) false).Writes (.binding member (.text e.1) e.2.value) :=
    fun member l e _ => .binding member _ e.2.value_isNone fun _ _ hkept => e.2.actsAs hkept
  refine List.rel_append (List.rel_append (List.rel_append (List.rel_append (List.rel_append (List.rel_append
    (hmap _ _ _ fun t _ => .address _) (hmap _ _ _ htitle)) (hmap _ _ _ fun e _ => .expectElement _ _))
    (hmap _ _ _ (hbinding "element" _))) (hmap _ _ _ (hbinding "value" _))) (hmap _ _ _ fun label _ => .link _))
    (hmap _ _ _ fun label _ => .button _)

end Catalog

/-! ## Class statements -/

namespace Prog

/-- The class statement of a page type that is written by hand. -/
def writtenType (name : Value) (base : ClassRef) (cs : List Clause) : Prog ClassRef :=
  let clauses := cs.map fun c => (false, c)
  (definePageType (Draft.onBase name base (keptHook .onType clauses) "__main__") fun cls =>
    runClauses {} cls clauses).bind fun r => .done r.1

/-- A hook without guards makes all its statements, up to the first that fails. -/
theorem runStatements_unguarded (cls : ClassRef) (sts : List Statement) :
    runStatements cls (sts.map fun st => (false, st)) = (stateAll cls (sts.map .ok)).bind fun _ => .done [] := by
  induction sts with
  | nil => rfl
  | cons st sts ih =>
    rw [List.map_cons, runStatements, bind_eq, guarding_false, bind_assoc, ih]
    show ((statement cls st).bind fun _ =>
      ((stateAll cls (sts.map .ok)).bind fun _ => .done []).bind fun others => .done others) =
        ((statement cls st).bind fun _ => stateAll cls (sts.map .ok)).bind fun _ => .done []
    rw [bind_done, bind_assoc]

end Prog

/-- Two class statements come to the same: to a type with definitions that are equal but
for payloads, which act alike, or to the same fault. -/
inductive SameType : Result ClassRef → Result ClassRef → Prop where
  | made {cls : ClassRef} {w w' : World} {d d' : Definition} :
      w.scene.definition? cls = some d → w'.scene.definition? cls = some d' →
        d.Alike (Value.ActsAs w'.scene.functions) d' → SameType (.ok cls, w) (.ok cls, w')
  | failed (r : Raised) (w w' : World) : SameType (.error r, w) (.error r, w')

/-- A type that has got its definition goes by it. -/
theorem Opening.closed_definition? {draft : Draft} {w : World} {o : Opening} (ho : draft.opening? w.scene = some o)
    (d : Definition) (functions : List Expr) (j : Log.Journal) :
    let after : World :=
      { scene := { (w.opened o).scene.setDefinition w.scene.definitions.length d with functions }, journal := j }
    after.scene.definition? o.cls = some d :=
  Option.bind_eq_some_iff.mpr
    ⟨_, (Opening.owns ho).definitionOf?, Scene.setDefinition_getElem? (Opening.definition w o) d⟩

/-- What has been made out is a statement if it stands among statements. -/
theorem Catalog.Entry.Step.mem_of_map {sts : List Statement} {st : Statement}
    (h : (.ok st : Entry.Step) ∈ sts.map .ok) : st ∈ sts :=
  (List.mem_map_of_injective fun _ _ => Except.ok.inj).mp h

/-- On an extensible base, a hook of clauses comes to the same as a hook that makes the
calls, whatever module the types belong to. -/
theorem Scene.Extensible.written_same {caller : Caller} {rounds : Nat} {w : World} {name : Value} {base : ClassRef}
    {d : Definition} {reading : Reading} {cs : List Clause} {sts : List Statement} (hbase : w.scene.Extensible base d)
    (h : List.Forall₂ Clause.Writes cs sts)
    (hsts : ∀ st ∈ sts, st.Known ∧ st.Worded ∧ ∀ v ∈ st.names, Prog.Given reading v) (hook : Hook) (home : String) :
    SameType
      (Prog.run caller rounds ((Prog.definePageType (Draft.onBase name base hook home) fun cls =>
        (Prog.stateAll cls (sts.map .ok)).bind fun _ => .done []).bind fun r => .done r.1) w)
      (Prog.run caller rounds (Prog.writtenType name base cs) w) := by
  rw [Prog.writtenType, Prog.run_bind, Prog.run_bind]
  cases hname : Prog.typeName name with
  | error fault =>
    rw [Prog.run_definePageType_unnamed hname, Prog.run_definePageType_unnamed hname]
    exact .failed _ _ _
  | ok page =>
    let hook' : Hook := .onType (cs.map fun c => (false, c))
    let o := Draft.openingOn w.scene page base d hook home
    let o' := Draft.openingOn w.scene page base d hook' "__main__"
    have hsteps : ∀ st : Statement, (.ok st : Entry.Step) ∈ sts.map .ok →
        st.Known ∧ st.Worded ∧ ∀ v ∈ st.names, Prog.Given reading v :=
      fun st hst => hsts st (Entry.Step.mem_of_map hst)
    have hopening := hbase.opening? page hook home hname
    have hopening' := hbase.opening? page hook' "__main__" hname
    have hset : w.scene.inherited? o'.type.lineage Prog.settingUpMember = none := hbase.setUp
    have horderly := hbase.orderly.derive (.ofText page)
    obtain ⟨answer, j, hrun, hended⟩ := hbase.define_makes caller rounds hname hsteps hook home
    obtain ⟨functions, r, -, hr, hleaves, hmade⟩ := Prog.runClauses_leaves caller rounds
      (w := w.opened o') (Opening.owns hopening').definitionOf? (Opening.definition w o')
      (Definition.Alike.refl (Value.ActsAs.refl _) _) horderly (hbase.opened_overrides page hook' "__main__") h hsts
    obtain ⟨answer', j', hrun', hended'⟩ := Prog.definePageType_leaves
      (fun cls => Prog.runClauses {} cls (cs.map fun c => (false, c))) hopening' rfl hset rfl hleaves hr
    -- what the statements come to does not depend on the hook, so both hooks come to the
    -- same, and so do both class statements
    obtain ⟨halike, hfault⟩ : Definition.MadeAlike (Value.ActsAs functions)
        (Draft.comesTo w page base d reading (sts.map .ok) hook home)
        (Definition.close page ((w.opened o').scene.hasAttribute o'.cls) r) := by
      rw [hbase.comesTo_eq page reading _ hook hook' home "__main__"]
      exact Definition.Alike.close hmade page _
    have hwritten : Prog.run caller rounds (Prog.definePageType (Draft.onBase name base
        (Prog.keptHook .onType (cs.map fun c => (false, c))) "__main__") fun cls =>
          Prog.runClauses {} cls (cs.map fun c => (false, c))) w = _ := hrun'
    rw [hrun, hwritten]
    rcases Prog.ended_cases hended with ⟨hnone, caught, rfl⟩ | ⟨fault, hsome, rfl⟩
    · rcases Prog.ended_cases hended' with ⟨-, caught', rfl⟩ | ⟨fault', hsome', -⟩
      · exact .made (Opening.closed_definition? hopening _ w.scene.functions j)
          (Opening.closed_definition? hopening' _ functions j') halike
      · cases (hsome'.symm.trans hfault).trans hnone
    · rcases Prog.ended_cases hended' with ⟨hnone', -⟩ | ⟨fault', hsome', rfl⟩
      · cases (hnone'.symm.trans hfault).trans hsome
      · cases (hsome'.symm.trans hfault).trans hsome
        exact .failed _ _ _

/-! ## Entries and class statements -/

/-- Words are given as names as they are. -/
def Reading.words : Reading := fun v => .ok v.wordName

theorem Reading.words_given {v : Value} (h : v.word?.isSome = true) : Prog.Given Reading.words v := by
  intro caller rounds w
  rw [Prog.givenName_word h]
  rfl

/-- A hook that makes calls whose names are words, on an extensible base, ends with faults
of the library's own only. -/
theorem Scene.Extensible.define_own {caller : Caller} {rounds : Nat} {w w' : World} {name : Value} {page : String}
    {base : ClassRef} {d : Definition} {sts : List Statement} {hook : Hook} {home : String} {r : Raised}
    (hbase : w.scene.Extensible base d) (hname : Prog.typeName name = .ok page)
    (hsts : ∀ st ∈ sts, st.Known ∧ st.Worded ∧ ∀ v ∈ st.names, Prog.Given Reading.words v)
    (h : Prog.run caller rounds ((Prog.definePageType (Draft.onBase name base hook home) fun cls =>
      (Prog.stateAll cls (sts.map .ok)).bind fun _ => .done []).bind fun r => .done r.1) w = (.error r, w')) :
    r.kind.isOwn = true := by
  obtain ⟨answer, j, hrun, hended⟩ := hbase.define_makes caller rounds hname
    (fun st hst => hsts st (Entry.Step.mem_of_map hst)) hook home
  rw [Prog.run_bind, hrun] at h
  rcases Prog.ended_cases hended with ⟨-, caught, rfl⟩ | ⟨fault, hsome, rfl⟩
  · cases h
  · cases h
    rcases Draft.comesTo_fault hbase.orderly (fun st hst => (hsts st (Entry.Step.mem_of_map hst)).2.1) hsome with
      hown | ⟨fault, hfault, -⟩ | ⟨st, -, v, -, hread⟩
    · exact hown
    · obtain ⟨st, -, heq⟩ := List.mem_map.mp hfault
      cases heq
    · cases hread

/-- A page type out of a catalog is the page type that is written by hand.  Building it is
the class statement on the base that is kept under the name that the entry gives at that
moment, with a hook that makes the calls of the page in order; its accessors act as
functions do that search and use what they have found.  On a base whose members are those
of the root, the class statement that is written by hand comes to the same: both types
have definitions that are equal but for accessors that act alike, or both end with the
same fault, which is one of the library's own.  When the reading of a file comes to the
entry, the type is kept under its name for the entries that follow; a fault of the
library's own ends the reading with a fault of the catalog that it is the cause of. -/
theorem catalogPage_handwritten {w : World} {catalog : Nat} {name raw : Value} {entries : Value.Entries}
    {p : PageEntry} {base : ClassRef} (hraw : w.scene.cells.Data raw) (hentries : w.scene.entries? raw = some entries)
    (hpage : Describes w.scene entries p) (hbase : BaseIs w.scene catalog entries base) :
    (∀ caller rounds, Prog.run caller rounds (Prog.buildPage catalog name raw) w =
      Prog.run caller rounds ((Blueprint.define
        ⟨Draft.onBase name base (.entry raw) Prog.catalogHome, p.calls.map fun st => (false, st)⟩).bind
          fun r => .done r.1) w) ∧
    (∀ e ∈ p.elements ++ p.values, ∀ functions id, functions[id]? = some e.2.body →
      Value.ActsAs functions e.2.value (.function id)) ∧
    (∀ d, w.scene.Extensible base d → ∀ caller rounds,
      SameType (Prog.run caller rounds (Prog.buildPage catalog name raw) w)
        (Prog.run caller rounds (Prog.writtenType name base p.clauses) w) ∧
      ∀ page r w', Prog.typeName name = .ok page →
        Prog.run caller rounds (Prog.buildPage catalog name raw) w = (.error r, w') → r.kind.isOwn = true) ∧
    ∀ caller rounds path w₀ built later, Prog.ComesTo caller rounds catalog path w₀ built name raw later w →
      (∀ cls w', Prog.run caller rounds (Prog.buildPage catalog name raw) w = (.ok cls, w') →
        let kept := w'.scene.register catalog name (.pageType cls)
        Prog.run caller rounds (Prog.readFile catalog path) w₀ =
            Prog.run caller rounds (Prog.readOn catalog path (Assoc.put cls.name cls built) later)
              { w' with scene := kept } ∧
          ((w'.scene.catalogs[catalog]?).isSome →
            Value.lookup? name (kept.entriesAt (.pages catalog)) = some (.pageType cls))) ∧
      ∀ r w', Prog.run caller rounds (Prog.buildPage catalog name raw) w = (.error r, w') → r.kind.isOwn = true →
        ∃ title e, w'.scene.text name = .ok title ∧
          Prog.run caller rounds (Prog.readFile catalog path) w₀ = (.error e, w') ∧ e.kind = .catalog ∧
          e.cause = some r.fault ∧ e.fault = .inPage path.text title r.fault := by
  have hcalls : ∀ st ∈ p.calls, st.Known ∧ st.Worded ∧ ∀ v ∈ st.names, Prog.Given Reading.words v := by
    intro st hst
    obtain ⟨hknown, hworded, hnames⟩ := hpage.mem_calls hst
    exact ⟨hknown, hworded, fun v hv => Reading.words_given (hnames v hv)⟩
  have hbuild : ∀ caller rounds, Prog.run caller rounds (Prog.buildPage catalog name raw) w =
      Prog.run caller rounds ((Prog.definePageType (Draft.onBase name base (.entry raw) Prog.catalogHome) fun cls =>
        (Prog.stateAll cls (p.calls.map .ok)).bind fun _ => .done []).bind fun r => .done r.1) w := by
    intro caller rounds
    rw [Prog.run_buildPage hraw hentries hpage.unknownKeys hbase, hpage.steps]
  refine ⟨fun caller rounds => ?_, fun e _ functions id h => e.2.actsAs h, fun d hd caller rounds => ⟨?_, ?_⟩,
    fun caller rounds path w₀ built later hreads => ⟨fun cls w' hbuilt => ⟨hreads.run_ok hbuilt, fun hc => ?_⟩,
      fun r w' hbuilt hown => ?_⟩⟩
  · rw [hbuild, Blueprint.define]
    simp only [Prog.runStatements_unguarded]
  · rw [hbuild]
    exact hd.written_same hpage.writes hcalls _ _
  · intro page r w' hname hbuilt
    rw [hbuild] at hbuilt
    exact hd.define_own hname hcalls hbuilt
  · exact Scene.register_lookup? hc name (.pageType cls)
  · have hread := hreads.run_error hbuilt
    -- a page without a name that a type can have ends with a fault that is not the library's own
    cases hname : Prog.typeName name with
    | error fault =>
      rw [hbuild, Prog.run_bind, Prog.run_definePageType_unnamed hname] at hbuilt
      cases hbuilt
      exact absurd hown (by rw [Prog.typeName_foreign hname]; exact Bool.false_ne_true)
    | ok page =>
      obtain ⟨title, htitle⟩ := Scene.text_of_typeName w'.scene hname
      rw [htitle] at hread
      exact ⟨title, _, htitle, hread, Prog.entryFailure_own hown⟩

/-! ## A page with all its parts, on a base of the catalog -/

/-- The entry of a page with all its parts. -/
def searchEntries : Value.Entries :=
  [(.text "base", .text "Shell"), (.text "url", .text "/search"), (.text "expected_title", .map 4),
   (.text "expected_element", .map 5), (.text "elements", .map 6), (.text "values", .map 9),
   (.text "links", .list 12), (.text "buttons", .list 13)]

/-- A script that starts with what a file with this page is read as. -/
def searchSetting : Setting where
  cells :=
    ⟨firstCells.all ++
      #[.map searchEntries,
        .map [(.text "pattern", .text "^Search")],
        .map [(.text "name", .text "box"), (.text "timeout", .float 5)],
        .map [(.text "box", .map 7), (.text "order", .map 8)],
        .map [(.text "by", .text "ID"), (.text "value", .text "q"), (.text "kind", .text "text_field")],
        .map [(.text "by", .text "css"), (.text "value", .text "select.order"), (.text "kind", .text "auto")],
        .map [(.text "hits", .map 10), (.text "form", .map 11)],
        .map [(.text "by", .text "class_name"), (.text "value", .text "hits")],
        .map [(.text "by", .text "id"), (.text "value", .text "f"), (.text "attribute", .text "action")],
        .list [.text "Next page"], .list [.text "Search"]]⟩

/-- The base of the page before its hook is run. -/
def shellOpening : Opening :=
  Draft.openingOn searchSetting.world.scene "Shell" rootType { pageName := .ofText PageType.rootName, locked := true }
    (.onType [(false, .link (.text "Home"))]) "__main__"

/-- What the hook of the base makes: an element, and an action that clicks it. -/
def shellDefinition : Definition :=
  (shellOpening.start.make ((searchSetting.world.opened shellOpening).scene.facts shellOpening.cls)
    (.link (.ofText "Home"))).1.lock

/-- A world with a catalog that keeps the base. -/
def searchCatalogWorld : World :=
  let w := searchSetting.world.opened shellOpening
  { w with scene := { w.scene.setDefinition 1 shellDefinition with
      catalogs := [{ pages := [(.text "Shell", .pageType shellOpening.cls)] }] } }

/-- The base can be built on. -/
theorem shell_extensible : searchCatalogWorld.scene.Extensible shellOpening.cls shellDefinition := by
  have hroot := Setting.root_extensible searchSetting
  have horderly : shellDefinition.Orderly :=
    ((hroot.orderly.derive (.ofText "Shell")).make _ (by simp)).lock
  exact (hroot.defined "Shell" _ "__main__" rfl horderly).continues (Scene.continues_catalogs _ _)

/-- The page that the entry describes. -/
def searchEntry : PageEntry where
  address := some "/search"
  title := some (.matching "^Search")
  expected := some ⟨.text "box", .ofFloat 5⟩
  elements := [("box", .locate "id" "q" (.wrapped .textField)), ("order", .locate "css selector" "select.order" .editable)]
  values := [("hits", .locate "class name" "hits" .text), ("form", .property "id" "f" (.text "action"))]
  links := ["Next page"]
  buttons := ["Search"]

/-- The pattern of the title is one. -/
theorem searchTitle_compiles : ∃ pattern, Pattern.compile "^Search" = .ok pattern := by
  cases hpattern : Pattern.compile "^Search" with
  | ok pattern => exact ⟨pattern, rfl⟩
  | error fault =>
    have hsome : (Pattern.compile "^Search").toOption.isSome = true := by decide +kernel
    rw [hpattern] at hsome
    cases hsome

/-- The keys of the locators spell documented strategies. -/
theorem searchKeys_spell :
    Text.lowercaseString "ID" = "id" ∧ Text.lowercaseString "id" = "id" ∧ Text.lowercaseString "css" = "css" ∧
      Text.lowercaseString "class_name" = "class_name" := by
  decide +kernel

theorem searchEntry_described : Describes searchCatalogWorld.scene searchEntries searchEntry := by
  obtain ⟨hID, hid, hcss, hclass⟩ := searchKeys_spell
  exact {
    known := by
      intro e he
      simp only [searchEntries, List.mem_cons, List.not_mem_nil, or_false] at he
      rcases he with rfl | rfl | rfl | rfl | rfl | rfl | rfl | rfl
      exacts [⟨_, .base, rfl⟩, ⟨_, .url, rfl⟩, ⟨_, .expectedTitle, rfl⟩, ⟨_, .expectedElement, rfl⟩,
        ⟨_, .elements, rfl⟩, ⟨_, .values, rfl⟩, ⟨_, .links, rfl⟩, ⟨_, .buttons, rfl⟩]
    address := ⟨rfl, rfl⟩
    title := ⟨rfl, rfl, _, .text "^Search", rfl, rfl, rfl, searchTitle_compiles⟩
    expected := ⟨rfl, .inr ⟨rfl, _, rfl, rfl, rfl, .inr ⟨rfl, 5, rfl, rfl⟩⟩⟩
    elements := .inr ⟨rfl, _, rfl, .cons
      ⟨rfl, "id", "q", _, .wrapped .textField, ⟨rfl, .text "ID", _, .text "q", rfl, rfl, hID ▸ .id, rfl, rfl⟩,
        .inr ⟨rfl, _, rfl, .textField⟩, rfl⟩ (.cons
      ⟨rfl, "css selector", "select.order", _, .editable,
        ⟨rfl, .text "css", _, .text "select.order", rfl, rfl, hcss ▸ .css, rfl, rfl⟩, .inr ⟨rfl, _, rfl, .auto⟩, rfl⟩ .nil)⟩
    values := .inr ⟨rfl, _, rfl, .cons
      ⟨rfl, "class name", "hits", _, ⟨rfl, .text "class_name", _, .text "hits", rfl, rfl, hclass ▸ .className, rfl, rfl⟩,
        rfl⟩ (.cons
      ⟨rfl, "id", "f", _, ⟨rfl, .text "id", _, .text "f", rfl, rfl, hid ▸ .id, rfl, rfl⟩, rfl⟩ .nil)⟩
    links := .inr ⟨rfl, _, rfl, .cons rfl .nil⟩
    buttons := .inr ⟨rfl, _, rfl, .cons rfl .nil⟩ }

/-- The page type of the entry comes to the same as the one that is written by hand, on the
same base. -/
theorem searchEntry_handwritten :
    SameType (Prog.run (callAt usualRounds usualDepth) usualRounds
        (Prog.buildPage 0 (.text "Search") (.map 3)) searchCatalogWorld)
      (Prog.run (callAt usualRounds usualDepth) usualRounds
        (Prog.writtenType (.text "Search") ⟨1, "Shell"⟩
          [.address (.text "/search"),
           .expectTitle (.request (.pattern (.text "^Search"))),
           .expectElement (.text "box") (some (.ofFloat 5)),
           .binding "element" (.text "box")
             (some (.wrap .textField (.request (.find (.text "id") (.text "q"))))) false,
           .binding "element" (.text "order")
             (some (.editable (.request (.find (.text "css selector") (.text "select.order"))))) false,
           .binding "value" (.text "hits")
             (some (.get (.text "text") (.request (.find (.text "class name") (.text "hits"))))) false,
           .binding "value" (.text "form")
             (some (.call (.text "get_attribute") (.request (.find (.text "id") (.text "f")))
               [.request (.const (.text "action"))] [])) false,
           .link (.text "Next page"),
           .button (.text "Search")]) searchCatalogWorld) := by
  have hdata : searchCatalogWorld.scene.cells.Data (.map 3) := Cells.data_of_isData 3 (by decide +kernel)
  have hbase : BaseIs searchCatalogWorld.scene 0 searchEntries shellOpening.cls := .inr ⟨rfl, rfl, rfl⟩
  exact ((catalogPage_handwritten hdata rfl searchEntry_described hbase).2.2.1 _ shell_extensible _ _).1

end PageObjects
