import PageObjects.Catalog.Build
import PageObjects.Proofs.Definition.History

/-!
# The order in which a directory is read

The catalog files of a directory come in the ascending order of their names, each of
them once.  In which order the files and the directories are listed below the working
directory does not matter.

Main results:

- Theorem `FileTree.locate_perm`: where a path leads does not depend on the listing.
- Theorem `Prog.catalogFiles_sorted`: the catalog files of a directory are in order.
- Theorem `Prog.catalogFiles_perm`: they do not depend on the listing.
-/

namespace PageObjects

namespace FileTree

/-- Two trees have the same files and directories, listed in any order. -/
structure SameEntries (t t' : FileTree) : Prop where
  files : t'.files.Perm t.files
  dirs : t'.dirs.Perm t.dirs

variable {t t' : FileTree}

/-- Whether there is a file does not depend on the listing. -/
theorem contentAt?_isSome_perm (h : t.SameEntries t') (parts : List String) :
    (t'.contentAt? parts).isSome = (t.contentAt? parts).isSome := by
  have hfound : ∀ files : List (List String × Content),
      (files.lookup parts).isSome = files.any fun f => f.1 == parts := by
    intro files
    induction files with
    | nil => rfl
    | cons f rest ih =>
      rw [List.lookup_cons, List.any_cons, ← ih, Bool.beq_comm]
      cases f.1 == parts <;> rfl
  rw [contentAt?, contentAt?, hfound, hfound]
  exact h.files.any_eq

/-- Whether there is a directory does not depend on the listing. -/
theorem isDirectoryAt_perm (h : t.SameEntries t') (parts : List String) :
    t'.isDirectoryAt parts = t.isDirectoryAt parts := by
  rw [isDirectoryAt, isDirectoryAt, h.dirs.any_eq, h.files.any_eq]

theorem follow_perm (h : t.SameEntries t') (here parts : List String) :
    t'.follow here parts = t.follow here parts := by
  induction parts generalizing here with
  | nil => rfl
  | cons part rest ih => simp only [follow, isDirectoryAt_perm h, contentAt?_isSome_perm h, ih]

/-- Where a path leads does not depend on the listing. -/
theorem locate_perm (h : t.SameEntries t') (p : Path) : t'.locate p = t.locate p := by
  simp only [locate, follow_perm h]

/-- The names below a directory are in ascending order. -/
theorem names_sorted (t : FileTree) (parts : List String) : (t.names parts).Pairwise (· ≤ ·) := by
  have hsorted : (t.names parts).Pairwise fun a b => decide (a ≤ b) = true :=
    List.pairwise_mergeSort
      (fun a b c hab hbc => by
        rw [decide_eq_true_eq] at hab hbc ⊢
        exact String.le_trans hab hbc)
      (fun a b => by
        rw [Bool.or_eq_true, decide_eq_true_eq, decide_eq_true_eq]
        exact String.le_total a b) _
  exact hsorted.imp fun h => of_decide_eq_true h

/-- There is each of them once. -/
theorem names_nodup (t : FileTree) (parts : List String) : (t.names parts).Nodup :=
  (List.mergeSort_perm _ _).nodup_iff.mpr (nodup_eraseDups _)

/-- They do not depend on the listing. -/
theorem names_perm (h : t.SameEntries t') (parts : List String) : t'.names parts = t.names parts := by
  have hmem : ∀ name, name ∈ t'.names parts ↔ name ∈ t.names parts := by
    intro name
    simp only [names, List.mem_mergeSort, List.mem_eraseDups, List.mem_append]
    exact or_congr (h.files.filterMap _).mem_iff (h.dirs.filterMap _).mem_iff
  have hperm : (t'.names parts).Perm (t.names parts) :=
    (List.perm_ext_iff_of_nodup (t'.names_nodup parts) (t.names_nodup parts)).mpr hmem
  exact hperm.eq_of_pairwise (fun a b _ _ => String.le_antisymm) (t'.names_sorted parts) (t.names_sorted parts)

end FileTree

namespace Prog

open FileTree

/-- The catalog files of a directory are right below it, in the ascending order of their
names, each of them once. -/
theorem catalogFiles_sorted (t : FileTree) (p : Path) :
    ∃ names : List String, catalogFiles t p = names.map p.child ∧ names.Pairwise (· ≤ ·) ∧ names.Nodup := by
  unfold catalogFiles entries
  split
  · rw [List.filter_map]
    exact ⟨_, rfl, (t.names_sorted _).filter _, (t.names_nodup _).filter _⟩
  · exact ⟨[], rfl, .nil, .nil⟩

/-- They do not depend on the order in which files and directories are listed. -/
theorem catalogFiles_perm {t t' : FileTree} (h : t.SameEntries t') (p : Path) :
    catalogFiles t' p = catalogFiles t p := by
  simp only [catalogFiles, entries, locate_perm h, names_perm h]

end Prog

end PageObjects
