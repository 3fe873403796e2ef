/-!
# Entries under keys

Lists of entries in the order in which their keys came first.

Main definitions:

- `Assoc.put`: put an entry under a key: in the place of the key, or at the end.
- `Assoc.merge`: put all entries of one list into another.

Main results:

- Theorem `Assoc.lookup_put`: what is found after an entry was put.
- Theorem `Assoc.keys_put`: putting an entry adds its key at most once.
-/

namespace PageObjects.Assoc

variable {α β : Type} [BEq α] [LawfulBEq α]

/-- Put an entry under a key: in the place of the key, or at the end. -/
def put (key : α) (value : β) : List (α × β) → List (α × β)
  | [] => [(key, value)]
  | (k, v) :: rest => if k == key then (k, value) :: rest else (k, v) :: put key value rest

/-- Put all entries of one list into another. -/
def merge (base extra : List (α × β)) : List (α × β) :=
  extra.foldl (fun acc e => put e.1 e.2 acc) base

/-- What is found under a key after an entry was put. -/
theorem lookup_put (key k : α) (value : β) (entries : List (α × β)) :
    (put key value entries).lookup k = if k == key then some value else entries.lookup k := by
  induction entries with
  | nil =>
    cases h : k == key <;> simp [put, List.lookup_cons, h]
  | cons e rest ih =>
    obtain ⟨k', v⟩ := e
    by_cases hk : k' = key
    · subst hk
      cases h : k == k' <;> simp [put, List.lookup_cons, h]
    · by_cases h : k = k'
      · subst h
        simp [put, hk]
      · have h' : (k == k') = false := by simp [h]
        simp [put, List.lookup_cons, hk, h', ih]

/-- Putting an entry adds its key at the end unless the key is there. -/
theorem keys_put (key : α) (value : β) (entries : List (α × β)) :
    (put key value entries).map (·.1) =
      if entries.any (·.1 == key) then entries.map (·.1) else entries.map (·.1) ++ [key] := by
  induction entries with
  | nil => simp [put]
  | cons e rest ih =>
    obtain ⟨k, v⟩ := e
    by_cases hk : k = key
    · simp [put, hk]
    · have : (k == key) = false := by simp [hk]
      by_cases hr : rest.any (·.1 == key)
      · simp only [hr, if_true] at ih
        simp [put, this, ih, hr]
      · simp only [hr] at ih
        simp [put, this, ih, hr]

end PageObjects.Assoc
