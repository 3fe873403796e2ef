import PageObjects.Proofs.Catalog.Building

/-!
# The page types that a catalog keeps

A catalog keeps page types for later entries to build on.  If all that it keeps can be
built on, so can each type that is built from an entry, and the catalog that keeps it
as well keeps such types only.

Main definitions:

- `Scene.Stocked`: all page types of a catalog can be built on.
- `Catalog.describing`: the entries that describe a page.

Main results:

- Theorem `Scene.Stocked.register`: a catalog that keeps one more type.
- Theorem `Prog.described_data`: what an entry is described by.
- Theorem `Scene.Extensible.define_extends`: a type that is defined can be built on.
-/

namespace PageObjects

/-! ## Catalogs -/

/-- The root can be built on, and so can all page types that a catalog keeps. -/
structure Scene.Stocked (s : Scene) (catalog : Nat) : Prop where
  root : ∃ d, s.Extensible rootType d
  pages : ∀ e ∈ s.entriesAt (.pages catalog), ∃ cls d, e.2 = .pageType cls ∧ s.Extensible cls d

/-- What is put under a key is all that comes to a mapping. -/
theorem Value.mem_insertKey {key value : Value} {entries : Value.Entries} {e : Value × Value}
    (h : e ∈ insertKey key value entries) : e.2 = value ∨ e ∈ entries := by
  induction entries with
  | nil =>
    obtain rfl := List.mem_singleton.mp h
    exact .inl rfl
  | cons e' rest ih =>
    obtain ⟨k, v⟩ := e'
    unfold insertKey at h
    split at h
    · rcases List.mem_cons.mp h with rfl | h
      · exact .inl rfl
      · exact .inr (List.mem_cons_of_mem _ h)
    · rcases List.mem_cons.mp h with rfl | h
      · exact .inr List.mem_cons_self
      · exact (ih h).imp id fun h => List.mem_cons_of_mem _ h

namespace Scene

variable {s s' : Scene} {catalog : Nat}

/-- A catalog that keeps the same types still keeps types that can be built on. -/
theorem Stocked.continues (h : s.Stocked catalog) (hc : s.Continues s') (hcatalogs : s'.catalogs = s.catalogs) :
    s'.Stocked catalog := by
  have hpages : s'.entriesAt (.pages catalog) = s.entriesAt (.pages catalog) := by simp only [entriesAt, hcatalogs]
  obtain ⟨d, hroot⟩ := h.root
  refine ⟨⟨d, hroot.continues hc⟩, fun e he => ?_⟩
  rw [hpages] at he
  obtain ⟨cls, d, heq, hcls⟩ := h.pages e he
  exact ⟨cls, d, heq, hcls.continues hc⟩

/-- So does a catalog that keeps one more such type. -/
theorem Stocked.register (h : s.Stocked catalog) {cls : ClassRef} {d : Definition} (hcls : s.Extensible cls d)
    (key : Value) : (s.register catalog key (.pageType cls)).Stocked catalog := by
  have hc : s.Continues (s.register catalog key (.pageType cls)) := by
    rw [register_same]
    exact s.continues_catalogs _
  obtain ⟨d₀, hroot⟩ := h.root
  refine ⟨⟨d₀, hroot.continues hc⟩, fun e he => ?_⟩
  have hmem : e.2 = .pageType cls ∨ e ∈ s.entriesAt (.pages catalog) := by
    unfold Scene.register at he
    cases hcatalog : s.catalogs[catalog]? with
    | none =>
      rw [hcatalog] at he
      exact .inr he
    | some c =>
      have hlt : catalog < s.catalogs.length := (List.getElem?_eq_some_iff.mp hcatalog).1
      simp only [hcatalog, entriesAt, List.getElem?_set_self hlt, Option.map_some, Option.getD_some] at he ⊢
      exact Value.mem_insertKey he
  rcases hmem with heq | hmem
  · exact ⟨cls, d, heq, hcls.continues hc⟩
  · obtain ⟨cls', d', heq, hcls'⟩ := h.pages e hmem
    exact ⟨cls', d', heq, hcls'.continues hc⟩

end Scene

/-! ## What describes an entry -/

/-- The entries that describe a page: those of a value, if it has any. -/
def Catalog.describing (s : Scene) (raw : Value) : Value.Entries := (s.entries? raw).getD []

/-- The entries that describe a page are data if their value is. -/
theorem Catalog.describing_data {s : Scene} {raw : Value} (hraw : s.cells.Data raw) :
    s.cells.DataEntries (describing s raw) := by
  rw [describing]
  cases hentries : s.entries? raw with
  | none => exact fun e he => nomatch he
  | some entries => exact Scene.dataEntries hraw hentries

/-- What is data, but does not count as true, has no entries. -/
theorem Catalog.describing_of_falsy {s : Scene} {raw : Value} (hraw : s.cells.Data raw) (h : s.truthy raw = false) :
    describing s raw = [] := by
  cases hraw with
  | atom hatom => cases raw <;> first | (cases hatom; done) | rfl
  | list _ => rfl
  | set _ => rfl
  | tuple _ => rfl
  | @map i _ _ =>
    have hempty : (s.cells.mapAt i).isEmpty = true := by
      simpa only [Scene.truthy, Cells.truthy, Bool.not_eq_false'] using h
    exact List.isEmpty_iff.mp hempty

namespace Prog

variable {caller : Caller} {rounds : Nat} {w : World} {s : Scene}

variable (caller rounds) in
/-- What an entry is described by is data, with the entries that it is given; nothing but
an empty mapping comes to be. -/
theorem described_data (hs : s.cells.Agree w.scene.cells) {raw : Value} (hraw : s.cells.Data raw) :
    ∃ raw' w', run caller rounds (described raw) w = (.ok raw', w') ∧ s.cells.Agree w'.scene.cells ∧
      s.cells.Data raw' ∧ Catalog.describing s raw' = Catalog.describing s raw ∧ w.scene.Continues w'.scene ∧
      w'.scene.catalogs = w.scene.catalogs := by
  have htruthy : w.scene.truthy raw = s.truthy raw := Scene.truthy_data hs hraw
  rw [described, bind_eq, run_view_bind, htruthy]
  cases h : s.truthy raw with
  | true => exact ⟨raw, w, rfl, hs, hraw, rfl, .refl _, rfl⟩
  | false =>
    -- the new mapping is empty, as was the place that it has got, so all that is held
    -- by the collections is as it was
    let fresh := w.scene.cells.make (.map [])
    have hfresh : s.cells.mapAt fresh.1 = [] := by
      rw [← hs.map]
      simp [Cells.mapAt, Cells.cell?, fresh, Cells.make]
    have hdata : s.cells.Data (.map fresh.1) := by
      refine .map ?_ ?_ <;> rw [hfresh] <;> exact fun e he => absurd he List.not_mem_nil
    refine ⟨.map fresh.1, { w with scene := { w.scene with cells := fresh.2 } }, rfl, hs.trans (.make _), hdata, ?_,
      w.scene.continues_cells _, rfl⟩
    rw [Catalog.describing_of_falsy hraw h]
    exact hfresh

end Prog

/-! ## Types that are defined -/

/-- A definition that was closed is locked. -/
theorem Definition.close_ok {fullName : String} {has : String → Bool} {m : Definition × Option Raised}
    (h : (Definition.close fullName has m).2 = none) : (Definition.close fullName has m).1 = m.1.lock := by
  obtain ⟨d, fault⟩ := m
  cases fault with
  | some r => cases h
  | none =>
    simp only [Definition.close] at h ⊢
    split at h
    · cases h
    · rfl

/-- A type on an extensible base that comes to its end can be built on. -/
theorem Scene.Extensible.define_extends {w : World} {base : ClassRef} {d : Definition} {reading : Reading}
    {steps : List Catalog.Entry.Step} {page : String} {hook : Hook} {home : String}
    (hbase : w.scene.Extensible base d) (hsteps : ∀ st, .ok st ∈ steps → st.Worded)
    (h : (Draft.comesTo w page base d reading steps hook home).2 = none) :
    ((w.opened (Draft.openingOn w.scene page base d hook home)).scene.setDefinition w.scene.definitions.length
        (Draft.comesTo w page base d reading steps hook home).1).Extensible
      ⟨w.scene.pageTypes.length, page⟩ (Draft.comesTo w page base d reading steps hook home).1 := by
  have hlocked : (Draft.comesTo w page base d reading steps hook home).1 = _ := Definition.close_ok h
  refine hbase.defined page hook home ?_ ?_
  · rw [hlocked]
    rfl
  · rw [hlocked]
    exact ((hbase.orderly.derive (.ofText page)).allMade hsteps).lock

end PageObjects
