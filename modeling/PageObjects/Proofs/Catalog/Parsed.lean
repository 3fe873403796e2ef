import PageObjects.Proofs.Catalog.Data

/-!
# What files in JSON are read as

A tree stands for a value that is data: all its collections are new, and hold nothing
but what the parts of the tree stand for.  It stays data whatever comes to be later.

Main definitions:

- `Cells.Grows`: a store holds all that another holds.

Main results:

- Theorem `Json.toValue_data`: what a tree stands for is data.
- Theorem `FileTree.jsonFile_found`: a file that is found under its name.
- Theorem `Prog.run_valueOf_json`: the value of a file in JSON.
-/

namespace PageObjects

/-- A store holds all that another holds, and maybe more. -/
def Cells.Grows (c c' : Cells) : Prop := ∀ i x, c.cell? i = some x → c'.cell? i = some x

namespace Cells.Grows

variable {c c' c'' : Cells}

theorem refl (c : Cells) : c.Grows c := fun _ _ => id

theorem trans (h : c.Grows c') (h' : c'.Grows c'') : c.Grows c'' := fun i x hx => h' i x (h i x hx)

/-- A store that grows has no fewer collections. -/
theorem size_le (h : c.Grows c') : c.all.size ≤ c'.all.size := by
  refine Nat.le_of_not_lt fun hin => ?_
  have hthere : c'.cell? c'.all.size = some c.all[c'.all.size] := h _ _ (Array.getElem?_eq_getElem hin)
  have hnone : c'.cell? c'.all.size = none := Array.getElem?_eq_none (Nat.le_refl _)
  rw [hnone] at hthere
  cases hthere

/-- A new collection leaves all others. -/
theorem make (c : Cells) (x : Cell) : c.Grows (c.make x).2 := by
  intro i y hy
  have hlt : i < c.all.size := (Array.getElem?_eq_some_iff.mp hy).1
  rw [cell?_make, if_neg (Nat.ne_of_lt hlt), hy]

/-- A new collection holds what it was made with. -/
theorem made {x : Cell} (h : (c.make x).2.Grows c') : c'.cell? c.all.size = some x :=
  h _ _ (by rw [cell?_make, if_pos rfl])

end Cells.Grows

namespace Json

mutual

/-- What a tree stands for is data, and stays data whatever comes to be. -/
theorem toValue_data (s : Cells) (t : Json) :
    s.Grows (toValue s t).2 ∧ ∀ c, (toValue s t).2.Grows c → c.Data (toValue s t).1 := by
  cases t with
  | list items =>
    obtain ⟨hgrows, hdata⟩ := toValues_data s items
    have hitems : ∀ c, ((toValues s items).2.make (.list (toValues s items).1)).2.Grows c →
        ∀ v ∈ c.listAt (toValues s items).2.all.size, c.Data v := by
      intro c hc
      rw [Cells.listAt, hc.made]
      exact hdata c (Cells.Grows.trans (.make _ _) hc)
    exact ⟨hgrows.trans (.make _ _), fun c hc => .list (hitems c hc)⟩
  | object entries =>
    obtain ⟨hgrows, hdata⟩ := toEntries_data s entries
    have hentries : ∀ c, ((toEntries s entries).2.make (.map (toEntries s entries).1)).2.Grows c →
        c.DataEntries (c.mapAt (toEntries s entries).2.all.size) := by
      intro c hc
      rw [Cells.mapAt, hc.made]
      exact hdata c (Cells.Grows.trans (.make _ _) hc)
    exact ⟨hgrows.trans (.make _ _), fun c hc =>
      .map (fun e he => (hentries c hc e he).1) fun e he => (hentries c hc e he).2⟩
  | _ => exact ⟨.refl s, fun c _ => .atom rfl⟩

theorem toValues_data (s : Cells) (ts : List Json) :
    s.Grows (toValues s ts).2 ∧ ∀ c, (toValues s ts).2.Grows c → ∀ v ∈ (toValues s ts).1, c.Data v := by
  cases ts with
  | nil => exact ⟨.refl s, fun c _ v hv => nomatch hv⟩
  | cons t rest =>
    obtain ⟨hgrows, hdata⟩ := toValue_data s t
    obtain ⟨hgrows', hdata'⟩ := toValues_data (toValue s t).2 rest
    refine ⟨hgrows.trans hgrows', fun c hc v hv => ?_⟩
    rcases List.mem_cons.mp hv with rfl | hv
    · exact hdata c (hgrows'.trans hc)
    · exact hdata' c hc v hv

theorem toEntries_data (s : Cells) (entries : List (String × Json)) :
    s.Grows (toEntries s entries).2 ∧ ∀ c, (toEntries s entries).2.Grows c → c.DataEntries (toEntries s entries).1 := by
  cases entries with
  | nil => exact ⟨.refl s, fun c _ e he => nomatch he⟩
  | cons entry rest =>
    obtain ⟨name, t⟩ := entry
    obtain ⟨hgrows, hdata⟩ := toValue_data s t
    obtain ⟨hgrows', hdata'⟩ := toEntries_data (toValue s t).2 rest
    refine ⟨hgrows.trans hgrows', fun c hc e he => ?_⟩
    rcases List.mem_cons.mp he with rfl | he
    · exact ⟨rfl, hdata c (hgrows'.trans hc)⟩
    · exact hdata' c hc e he

end

end Json

/-- A file below the working directory is found under its name, whatever text it holds. -/
theorem FileTree.jsonFile_found (text : String) :
    let t : FileTree := { files := [(["c.json"], .text text)] }
    Path.read "c.json" = ⟨"", ["c.json"]⟩ ∧ t.isDirectory ⟨"", ["c.json"]⟩ = false ∧
      t.file? ⟨"", ["c.json"]⟩ = some (["c.json"], .text text) := by
  have hsplit : "c.json".splitOn "/" = ["c.json"] := by
    rw [String.splitOn, if_neg (by decide)]
    iterate 6 rw [String.splitOnAux, if_neg (by decide), if_neg (by decide)]
    rw [String.splitOnAux, if_pos (by decide)]
    decide
  have hnull : Path.hasNull ⟨"", ["c.json"]⟩ = false := by simp [Path.hasNull]
  have hhalf : Path.hasHalf ⟨"", ["c.json"]⟩ = false := by decide +kernel
  have hsize : (Path.text ⟨"", ["c.json"]⟩).utf8ByteSize = 6 := by decide +kernel
  have hfollow : ({ files := [(["c.json"], .text text)] } : FileTree).follow [] ["c.json"] = .inside ["c.json"] := by
    simp [follow, isDirectoryAt, partLimit]
    decide +kernel
  have hlocate : ({ files := [(["c.json"], .text text)] } : FileTree).locate ⟨"", ["c.json"]⟩ = .inside ["c.json"] := by
    rw [locate, hnull, hhalf, hsize, hfollow]
    rfl
  refine ⟨?_, ?_, ?_⟩
  · rw [Path.read, hsplit]
    simp
  · rw [isDirectory, hlocate]
    simp [isDirectoryAt]
  · rw [file?, hlocate]
    simp [contentAt?]

namespace Prog

variable {caller : Caller} {rounds : Nat} {w : World}

/-- The value of a text file in JSON is made of new collections. -/
theorem run_valueOf_json {path : Path} {place : List String} {text : String} {tree : Json}
    (hsuffix : Text.lowercaseString path.suffix = ".json") (hdirectory : w.scene.files.isDirectory path = false)
    (hfile : w.scene.files.file? path = some (place, .text text))
    (hread : Json.read nestingLimit (String.ofList (unifyBreaks text.toList)) = .ok tree) :
    run caller rounds (valueOf path) w =
      (.ok (Json.toValue w.scene.cells tree).1,
        { w with scene := { w.scene with cells := (Json.toValue w.scene.cells tree).2 } }) := by
  have hjson : run caller rounds (jsonValue (String.ofList (unifyBreaks text.toList))) w =
      (.ok (Json.toValue w.scene.cells tree).1,
        { w with scene := { w.scene with cells := (Json.toValue w.scene.cells tree).2 } }) := by
    rw [jsonValue, hread]
    rfl
  have hyaml : (decide (".json" = ".yml") || decide (".json" = ".yaml")) = false := by decide
  rw [← hjson, valueOf, contentOf]
  simp only [bind_eq, bind_assoc, hsuffix]
  rw [run_view_bind, run_view_bind, hdirectory, if_neg Bool.false_ne_true, bind_assoc, run_view_bind, hfile]
  simp only [bind_assoc, pure_eq, hyaml, Bool.false_eq_true, if_false, if_true]
  rw [run_op_bind]
  exact run_ofOption_some_bind (.plain .encoding) (String.ofList (unifyBreaks text.toList)) jsonValue w

end Prog

end PageObjects
