import PageObjects.Assoc
import PageObjects.Value.Key

/-!
# Mappings that are overridden

Entries are put into a mapping one after the other: in the place of their keys, or at the
end.  Under each key what was put last counts, and it does not matter in which steps the
entries are put together.

Main definitions:

- `Value.override`: entries that are overridden by others.

Main results:

- Theorem `Assoc.lookup_merge`, `Value.lookup?_override`: what is found after that.
- Theorem `Assoc.merge_assoc`: entries may be put together first.
- Theorem `Value.texts_merge`: entries with texts for keys.
-/

namespace PageObjects

namespace Assoc

variable {α β : Type} [BEq α] [LawfulBEq α]

/-- What has been put under a key last counts. -/
theorem put_put (key : α) (v v' : β) (entries : List (α × β)) :
    put key v' (put key v entries) = put key v' entries := by
  induction entries with
  | nil => simp [put]
  | cons e rest ih =>
    obtain ⟨k, x⟩ := e
    by_cases hk : k = key
    · simp [put, hk]
    · simp [put, hk, ih]

/-- A key that is there keeps its place, whatever is put under another key. -/
theorem put_comm {key key' : α} (hne : key' ≠ key) {entries : List (α × β)} (hmem : key ∈ entries.map (·.1))
    (v v' : β) :
    put key v (put key' v' entries) = put key' v' (put key v entries) := by
  induction entries with
  | nil => cases hmem
  | cons e rest ih =>
    obtain ⟨k, x⟩ := e
    by_cases hk : k = key
    · subst hk
      simp [put, Ne.symm hne]
    · have hrest : key ∈ rest.map (·.1) := (List.mem_cons.mp hmem).resolve_left fun h => hk h.symm
      by_cases hk' : k = key'
      · subst hk'
        simp [put, hne]
      · simp [put, hk, hk', ih hrest]

/-- A key that is there may as well be put first. -/
theorem put_merge {key : α} {entries extra : List (α × β)} (hmem : key ∈ entries.map (·.1))
    (hfresh : key ∉ extra.map (·.1)) (v : β) : put key v (merge entries extra) = merge (put key v entries) extra := by
  induction extra generalizing entries with
  | nil => rfl
  | cons e rest ih =>
    obtain ⟨k, x⟩ := e
    rw [List.map_cons, List.mem_cons, not_or] at hfresh
    have hstill : key ∈ (put k x entries).map (·.1) := by
      rw [keys_put]
      split
      · exact hmem
      · exact List.mem_append_left _ hmem
    show put key v (merge (put k x entries) rest) = merge (put k x (put key v entries)) rest
    rw [ih hstill hfresh.2, put_comm (Ne.symm hfresh.1) hmem]

/-- To put an entry into what is merged is to put it after all of that. -/
theorem merge_put {extra : List (α × β)} (hnodup : (extra.map (·.1)).Nodup) (entries : List (α × β)) (key : α) (v : β) :
    merge entries (put key v extra) = put key v (merge entries extra) := by
  induction extra generalizing entries with
  | nil => rfl
  | cons e rest ih =>
    obtain ⟨k, x⟩ := e
    rw [List.map_cons, List.nodup_cons] at hnodup
    by_cases hk : k = key
    · subst hk
      have hmem : k ∈ (put k x entries).map (·.1) := by
        rw [keys_put]
        split
        · rename_i hany
          obtain ⟨e, he, heq⟩ := List.any_eq_true.mp hany
          exact eq_of_beq heq ▸ List.mem_map_of_mem he
        · exact List.mem_append_right _ List.mem_cons_self
      have hput : put k v ((k, x) :: rest) = (k, v) :: rest := by simp [put]
      rw [hput]
      show merge (put k v entries) rest = put k v (merge (put k x entries) rest)
      rw [put_merge hmem hnodup.1, put_put]
    · have hput : put key v ((k, x) :: rest) = (k, x) :: put key v rest := by simp [put, hk]
      rw [hput]
      exact ih hnodup.2 (put k x entries)

/-- Each key comes once in what entries are put into. -/
theorem nodup_put {entries : List (α × β)} (h : (entries.map (·.1)).Nodup) (key : α) (v : β) :
    ((put key v entries).map (·.1)).Nodup := by
  rw [keys_put]
  split
  · exact h
  · rename_i hnone
    refine List.nodup_append.mpr ⟨h, by simp, fun a ha b hb heq => hnone ?_⟩
    obtain ⟨e, he, rfl⟩ := List.mem_map.mp ha
    rw [List.mem_singleton] at hb
    exact List.any_eq_true.mpr ⟨e, he, beq_iff_eq.mpr (heq.trans hb)⟩

/-- The keys of what an entry was put into. -/
theorem mem_keys_put {key k : α} {v : β} {entries : List (α × β)} :
    k ∈ (put key v entries).map (·.1) ↔ k = key ∨ k ∈ entries.map (·.1) := by
  rw [keys_put]
  split
  · rename_i hany
    refine ⟨.inr, fun h => h.elim (fun heq => ?_) id⟩
    obtain ⟨e, he, heq'⟩ := List.any_eq_true.mp hany
    rw [heq, ← eq_of_beq heq']
    exact List.mem_map_of_mem he
  · rw [List.mem_append, List.mem_singleton, or_comm]

/-- The keys of what entries were put into. -/
theorem mem_keys_merge {k : α} {entries extra : List (α × β)} :
    k ∈ (merge entries extra).map (·.1) ↔ k ∈ entries.map (·.1) ∨ k ∈ extra.map (·.1) := by
  induction extra generalizing entries with
  | nil => simp [merge]
  | cons e rest ih =>
    show k ∈ (merge (put e.1 e.2 entries) rest).map (·.1) ↔ _
    rw [ih, mem_keys_put, List.map_cons, List.mem_cons, or_assoc]
    exact or_left_comm

/-- What is found under a key after entries were merged: what stands last under it among
those that were added, or what was there. -/
theorem lookup_merge (key : α) (entries extra : List (α × β)) :
    (merge entries extra).lookup key = (extra.reverse.lookup key).or (entries.lookup key) := by
  induction extra generalizing entries with
  | nil => rfl
  | cons e rest ih =>
    obtain ⟨k, v⟩ := e
    have hfirst : merge entries ((k, v) :: rest) = merge (put k v entries) rest := rfl
    have hlast : (rest.reverse ++ [(k, v)]).lookup key =
        (rest.reverse.lookup key).or (if key == k then some v else none) := by
      rw [List.lookup_append, List.lookup_cons]
      cases key == k <;> rfl
    rw [hfirst, ih, lookup_put, List.reverse_cons, hlast, Option.or_assoc]
    cases key == k <;> rfl

/-- It does not matter whether entries are merged into some others before those are. -/
theorem merge_assoc {extra : List (α × β)} (hnodup : (extra.map (·.1)).Nodup) (entries further : List (α × β)) :
    merge entries (merge extra further) = merge (merge entries extra) further := by
  induction further generalizing extra with
  | nil => rfl
  | cons e rest ih =>
    show merge entries (merge (put e.1 e.2 extra) rest) = merge (put e.1 e.2 (merge entries extra)) rest
    rw [ih (nodup_put hnodup e.1 e.2), merge_put hnodup]

end Assoc

namespace Value

/-- What is found under a key after something was put under a key. -/
theorem lookup?_insertKey_eq (k key value : Value) (entries : Entries) :
    lookup? k (insertKey key value entries) =
      if key.identity = k.identity then some value else lookup? k entries := by
  induction entries with
  | nil => by_cases h : key.identity = k.identity <;> simp [insertKey, lookup?, h]
  | cons e rest ih =>
    obtain ⟨k', v⟩ := e
    simp only [lookup?] at ih ⊢
    by_cases hk : k'.identity = key.identity
    · by_cases h : key.identity = k.identity <;> simp [insertKey, hk, h]
    · by_cases h : k'.identity = k.identity
      · have hne : ¬k.identity = key.identity := fun heq => hk (h.trans heq)
        simp [insertKey, h, hne, Ne.symm hne]
      · simp [insertKey, hk, h, ih]

/-- Entries that are overridden by others, one after the other. -/
def override (entries others : Entries) : Entries := others.foldl (fun acc e => insertKey e.1 e.2 acc) entries

theorem override_append (entries others further : Entries) :
    override entries (others ++ further) = override (override entries others) further := List.foldl_append

/-- What is found under a key after entries were overridden: what stands last under it in
the others, or what was there. -/
theorem lookup?_override (key : Value) (entries others : Entries) :
    lookup? key (override entries others) = (lookup? key others.reverse).or (lookup? key entries) := by
  induction others generalizing entries with
  | nil => rfl
  | cons e rest ih =>
    have hlast : lookup? key (rest.reverse ++ [e]) =
        (lookup? key rest.reverse).or (if e.1.identity = key.identity then some e.2 else Option.none) := by
      simp only [lookup?, List.find?_append, Option.map_or]
      by_cases h : e.1.identity = key.identity <;> simp [h]
    have hput : override entries (e :: rest) = override (insertKey e.1 e.2 entries) rest := rfl
    rw [hput, ih, lookup?_insertKey_eq, List.reverse_cons, hlast, Option.or_assoc]
    by_cases h : e.1.identity = key.identity
    · rw [if_pos h, if_pos h, Option.some_or]
    · rw [if_neg h, if_neg h, Option.none_or]

/-- Entries with texts for keys are overridden as what they stand for is merged. -/
theorem texts_merge {β : Type} (f : β → Value) (entries others : List (String × β)) :
    (Assoc.merge entries others).map (fun e => (Value.text e.1, f e.2)) =
      override (entries.map fun e => (.text e.1, f e.2)) (others.map fun e => (.text e.1, f e.2)) := by
  have hput : ∀ (name : String) (v : β) (entries : List (String × β)),
      (Assoc.put name v entries).map (fun e => (Value.text e.1, f e.2)) =
        insertKey (.text name) (f v) (entries.map fun e => (.text e.1, f e.2)) := by
    intro name v entries
    induction entries with
    | nil => rfl
    | cons e rest ih =>
      obtain ⟨k, x⟩ := e
      by_cases hk : k = name
      · simp [Assoc.put, insertKey, identity, hk]
      · simp [Assoc.put, insertKey, identity, hk, ih]
  induction others generalizing entries with
  | nil => rfl
  | cons e rest ih =>
    have hfirst : Assoc.merge entries (e :: rest) = Assoc.merge (Assoc.put e.1 e.2 entries) rest := rfl
    rw [hfirst, ih, hput]
    rfl

end Value

end PageObjects
