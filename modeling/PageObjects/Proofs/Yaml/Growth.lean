import PageObjects.Proofs.Catalog.Parsed
import PageObjects.Yaml.Document

/-!
# What the reading of a document in YAML leaves alone

The value of a document is built of new collections.  They are filled after they have been
made, so it is kept in mind that all collections that are still to be filled are new: no
collection that was there before the document was read is changed.

Main definitions:

- `Yaml.Builder.Beyond`: the state of building a value beyond a store of collections.
- `Yaml.Spares`: steps that stay beyond a store.

Main results:

- Theorem `Yaml.spares_fill`: collections are filled beyond a store.
- Theorem `Yaml.read_grows`: the value of a document consists of new collections.
-/

namespace PageObjects.Yaml

/-- A value that is no collection of a store. -/
def NewTo (base : Cells) : Value → Prop
  | .list i | .map i | .set i => base.all.size ≤ i
  | _ => True

/-- All collections of a store are as they were, and none of them is to be filled. -/
structure Builder.Beyond (base : Cells) (s : Builder) : Prop where
  grows : base.Grows s.cells
  pending : ∀ p ∈ s.pending, NewTo base p.2

/-- A step that leaves the state beyond a store, and has an answer of a certain sort. -/
def Yields {α : Type} (base : Cells) (Q : α → Prop) (m : Building α) : Prop :=
  ∀ s a s', m s = .ok (a, s') → s.Beyond base → s'.Beyond base ∧ Q a

/-- A step that leaves the state beyond a store. -/
abbrev Spares {α : Type} (base : Cells) (m : Building α) : Prop := Yields base (fun _ => True) m

section Steps

variable {base : Cells} {α β : Type} {Q : α → Prop} {Q' : β → Prop}

theorem Yields.spares {m : Building α} (h : Yields base Q m) : Spares base m :=
  fun s a s' hm hs => ⟨(h s a s' hm hs).1, trivial⟩

theorem yields_pure {a : α} (h : Q a) : Yields base Q (pure a) := by
  rintro s _ _ ⟨⟩ hs
  exact ⟨hs, h⟩

theorem spares_pure (a : α) : Spares base (pure a) := yields_pure trivial

theorem spares_throw (fault : Fault) : Spares base (throw fault : Building α) := by
  intro s a s' hm
  cases hm

/-- Steps one after the other. -/
theorem Yields.bind {m : Building α} {k : α → Building β} (hm : Yields base Q m)
    (hk : ∀ a, Q a → Yields base Q' (k a)) :
    Yields base Q' (m >>= k) := by
  intro s b s'' h hs
  have hrun : (m >>= k) s = (m s).bind fun r => k r.1 r.2 := rfl
  rw [hrun] at h
  cases hfirst : m s with
  | error fault =>
    rw [hfirst] at h
    cases h
  | ok r =>
    rw [hfirst] at h
    have hbeyond := hm s r.1 r.2 hfirst hs
    exact hk r.1 hbeyond.2 r.2 b s'' h hbeyond.1

theorem Spares.bind {m : Building α} {k : α → Building β} (hm : Spares base m) (hk : ∀ a, Yields base Q' (k a)) :
    Yields base Q' (m >>= k) := Yields.bind hm fun a _ => hk a

/-- A step of which the answer does not matter. -/
theorem spares_discard {m : Building α} (hm : Spares base m) : Spares base (discard m) :=
  hm.bind (k := fun _ => pure ()) fun _ => spares_pure _

/-- A computation that looks at no state. -/
theorem spares_lift (e : Except Fault α) : Spares base (liftM e : Building α) := by
  intro s a s' hm hs
  cases e with
  | error fault => cases hm
  | ok a =>
    cases hm
    exact ⟨hs, trivial⟩

theorem yields_get : Yields base (Builder.Beyond base) (get : Building Builder) := by
  rintro s _ _ ⟨⟩ hs
  exact ⟨hs, hs⟩

theorem spares_modify {f : Builder → Builder} (hf : ∀ s, s.Beyond base → (f s).Beyond base) :
    Spares base (modify f : Building Unit) := by
  rintro s _ _ ⟨⟩ hs
  exact ⟨hf s hs, trivial⟩

/-- A step for each item of a list. -/
theorem spares_forIn (l : List α) (b : β) {f : α → β → Building (ForInStep β)} (hf : ∀ a b, Spares base (f a b)) :
    Spares base (forIn l b f) := by
  induction l generalizing b with
  | nil => exact spares_pure b
  | cons a rest ih =>
    rw [List.forIn_cons]
    refine (hf a b).bind fun step => ?_
    cases step with
    | done b => exact spares_pure b
    | yield b => exact ih b

end Steps

variable {base : Cells}

/-! ## Nodes -/

theorem spares_nodeAt (id : Nat) : Spares base (nodeAt id) := yields_get.spares.bind fun _ => spares_pure _

theorem spares_replaceNode (id : Nat) (node : Node) : Spares base (replaceNode id node) :=
  spares_modify fun _ hs => ⟨hs.grows, hs.pending⟩

theorem spares_entriesAt (id : Nat) : Spares base (entriesAt id) := by
  refine (spares_nodeAt id).bind fun node => ?_
  cases node with
  | mapping tag entries => exact spares_pure _
  | _ => exact spares_throw _

theorem spares_hasTag (name : String) (id : Nat) : Spares base (hasTag name id) :=
  (spares_nodeAt id).bind fun _ => spares_pure _

theorem spares_takeMerge (entries : List (Nat × Nat)) : Spares base (takeMerge entries) := by
  induction entries with
  | nil => exact spares_pure _
  | cons entry rest ih =>
    refine (spares_hasTag _ _).bind fun merges => ?_
    cases merges with
    | true => exact spares_pure _
    | false =>
      refine ih.bind fun taken => ?_
      cases taken <;> exact spares_pure _

/-- Merging changes nodes only. -/
theorem spares_flatten (depth id : Nat) : Spares base (flatten depth id) := by
  induction depth generalizing id with
  | zero => exact spares_throw _
  | succ depth ih =>
    refine (spares_entriesAt id).bind fun _ => Spares.bind (spares_forIn _ _ fun _ merged => ?_) fun merged => ?_
    · refine (spares_entriesAt id).bind fun entries => (spares_takeMerge entries).bind fun taken => ?_
      cases taken with
      | none => exact spares_pure _
      | some taken =>
        refine (spares_nodeAt id).bind fun _ => (spares_replaceNode id _).bind fun _ =>
          (spares_nodeAt taken.1).bind fun node => ?_
        cases node with
        | mapping tag entries => exact (ih taken.1).bind fun _ => (spares_entriesAt taken.1).bind fun _ => spares_pure _
        | sequence tag items =>
          -- the mappings of a list that is merged, gone through one by one
          refine Spares.bind (spares_forIn _ _ fun item parts => (spares_nodeAt item).bind fun node => ?_) fun _ =>
            spares_pure _
          cases node with
          | mapping tag entries => exact (ih item).bind fun _ => (spares_entriesAt item).bind fun _ => spares_pure _
          | _ => exact (spares_throw _).bind fun _ => spares_pure _
        | scalar tag text => exact (spares_throw _).bind fun _ => spares_pure _
    · refine (spares_entriesAt id).bind fun own => Spares.bind (spares_forIn _ _ fun entry _ => ?_) fun _ => ?_
      · refine (spares_hasTag _ _).bind fun isValue => ?_
        cases isValue with
        | true => exact (spares_nodeAt _).bind fun _ => (spares_replaceNode _ _).bind fun _ => spares_pure _
        | false => exact spares_pure _
      · split
        · exact (spares_nodeAt id).bind fun _ => spares_replaceNode id _
        · exact spares_pure _

theorem spares_defaultEntry (entries : List (Nat × Nat)) : Spares base (defaultEntry entries) := by
  induction entries with
  | nil => exact spares_pure _
  | cons entry rest ih =>
    refine (spares_hasTag _ _).bind fun isValue => ?_
    cases isValue with
    | true => exact spares_pure _
    | false => exact ih

theorem spares_scalarText (depth id : Nat) : Spares base (scalarText depth id) := by
  induction depth generalizing id with
  | zero => exact spares_throw _
  | succ depth ih =>
    refine (spares_nodeAt id).bind fun node => ?_
    cases node with
    | scalar tag text => exact spares_pure _
    | sequence tag items => exact spares_throw _
    | mapping tag entries =>
      refine (spares_defaultEntry entries).bind fun value => ?_
      cases value with
      | none => exact spares_throw _
      | some value => exact ih value

theorem spares_itemsAt (id : Nat) : Spares base (itemsAt id) := by
  refine (spares_nodeAt id).bind fun node => ?_
  cases node with
  | sequence tag items => exact spares_pure _
  | _ => exact spares_throw _

/-! ## Values -/

/-- A new cell is new to each store beyond which it is made. -/
theorem yields_newCell (c : Cell) : Yields base (fun i => base.all.size ≤ i) (newCell c) := by
  rintro s _ _ ⟨⟩ hs
  exact ⟨⟨hs.grows.trans (.make _ c), hs.pending⟩, hs.grows.size_le⟩

theorem spares_later {v : Value} (hv : NewTo base v) (id : Nat) : Spares base (later id v) := by
  refine Spares.bind (spares_modify fun s hs => ⟨hs.grows, fun p hp => ?_⟩) fun _ => spares_pure _
  rcases Array.mem_push.mp hp with hp | rfl
  · exact hs.pending p hp
  · exact hv

theorem spares_valueOf (id : Nat) (tag : String) : Spares base (valueOf id tag) := by
  have htext : Spares base (scalarText depthLimit id) := spares_scalarText _ id
  unfold valueOf
  simp only
  split
  · exact (yields_newCell _).bind fun i hi => spares_later (v := .list i) hi id
  split
  · exact (yields_newCell _).bind fun i hi => spares_later (v := .map i) hi id
  split
  · exact (yields_newCell _).bind fun i hi => spares_later (v := .set i) hi id
  split
  · exact htext.bind fun _ => spares_pure _
  split
  · exact (spares_discard htext).bind fun _ => spares_pure _
  split
  · exact htext.bind fun _ => spares_lift _
  split
  · exact htext.bind fun _ => spares_lift _
  split
  · exact htext.bind fun _ => (yields_newCell _).spares.bind fun _ => spares_lift _
  split
  · exact htext.bind fun _ => spares_lift _
  split
  · refine htext.bind fun text => (spares_nodeAt id).bind fun node => ?_
    cases node with
    | scalar => exact spares_lift _
    | _ => exact spares_throw _
  · exact spares_throw _

theorem spares_construct (id : Nat) : Spares base (construct id) := by
  refine yields_get.spares.bind fun s => ?_
  cases (s.made[id]?).join with
  | some v => exact spares_pure v
  | none =>
    exact (spares_nodeAt id).bind fun node => (spares_valueOf id _).bind fun v =>
      Spares.bind (spares_modify fun _ hs => ⟨hs.grows, hs.pending⟩) fun _ => spares_pure _

theorem spares_constructAll (ids : List Nat) : Spares base (constructAll ids) := by
  induction ids with
  | nil => exact spares_pure _
  | cons id rest ih => exact (spares_construct id).bind fun _ => ih.bind fun _ => spares_pure _

theorem spares_constructEntries (acc : Value.Entries) (entries : List (Nat × Nat)) :
    Spares base (constructEntries acc entries) := by
  induction entries generalizing acc with
  | nil => exact spares_pure _
  | cons entry rest ih =>
    refine (spares_construct _).bind fun k => ?_
    split
    · exact (spares_throw _).bind fun _ => (spares_construct _).bind fun _ => ih _
    · exact (spares_construct _).bind fun _ => ih _

theorem spares_constructPairs (ids : List Nat) : Spares base (constructPairs ids) := by
  induction ids with
  | nil => exact spares_pure _
  | cons id rest ih =>
    refine (spares_nodeAt id).bind fun node => ?_
    split
    · exact (spares_construct _).bind fun _ => (spares_construct _).bind fun _ => ih.bind fun _ => spares_pure _
    · exact spares_throw _

theorem spares_mappingAt (id : Nat) : Spares base (mappingAt id) :=
  (spares_discard (spares_entriesAt id)).bind fun _ => (spares_flatten _ id).bind fun _ =>
    (spares_entriesAt id).bind fun entries => spares_constructEntries _ entries

/-! ## Collections -/

/-- A new cell is given its content beyond a store. -/
theorem spares_fillCell {i : Nat} (hi : base.all.size ≤ i) (c : Cell) : Spares base (fillCell i c) := by
  refine spares_modify fun s hs => ⟨fun j x hx => ?_, hs.pending⟩
  have hj : j < base.all.size := (Array.getElem?_eq_some_iff.mp hx).1
  rw [Cells.cell?_put, if_neg fun h : i = j ∧ _ => absurd (h.1 ▸ hi) (Nat.not_le_of_lt hj)]
  exact hs.grows j x hx

/-- Collections are filled beyond a store, if they are new to it. -/
theorem spares_fill (id : Nat) {v : Value} (hv : NewTo base v) : Spares base (fill id v) := by
  cases v with
  | list i =>
    refine (spares_itemsAt id).bind fun items => (spares_hasTag _ id).bind fun isSequence => ?_
    cases isSequence with
    | true => exact (spares_constructAll items).bind fun _ => spares_fillCell hv _
    | false => exact (spares_constructPairs items).bind fun _ => spares_fillCell hv _
  | map i => exact (spares_mappingAt id).bind fun _ => spares_fillCell hv _
  | set i => exact (spares_mappingAt id).bind fun _ => spares_fillCell hv _
  | _ => exact spares_pure _

theorem spares_fillFrom (fuel place : Nat) : Spares base (fillFrom fuel place) := by
  induction fuel generalizing place with
  | zero => exact spares_pure _
  | succ fuel ih =>
    refine yields_get.bind fun s hs => ?_
    cases hplace : s.pending[place]? with
    | none => exact spares_pure _
    | some p =>
      have hnew : NewTo base p.2 := hs.pending p (Array.mem_of_getElem? hplace)
      exact (spares_fill p.1 hnew).bind fun _ => ih _

/-- The value of a document consists of new collections: those that were there are as they were. -/
theorem read_grows {text : String} {cells : Cells} {v : Value} {cells' : Cells}
    (h : read text cells = .ok (v, cells')) :
    cells.Grows cells' := by
  unfold read at h
  cases hstream : Document.ofStream (Stream.ofText text.toList) with
  | error fault =>
    rw [hstream] at h
    cases h
  | ok d? =>
    rw [hstream] at h
    cases d? with
    | none =>
      cases h
      exact .refl cells
    | some d =>
      have hbuilding : Spares cells (do
          let v ← construct d.root
          fillFrom (d.nodes.size + 1) 0
          return v) :=
        (spares_construct d.root).bind fun v => (spares_fillFrom _ 0).bind fun _ => spares_pure v
      have hstart : Builder.Beyond cells { nodes := d.nodes, made := Array.replicate d.nodes.size none, cells } :=
        ⟨.refl cells, fun p hp => absurd hp (Array.not_mem_empty p)⟩
      have hbuild : d.build cells = .ok (v, cells') := h
      unfold Document.build at hbuild
      simp only at hbuild
      generalize hrun : StateT.run _ _ = r at hbuild
      cases r with
      | error fault => cases hbuild
      | ok r =>
        cases hbuild
        exact (hbuilding _ _ _ hrun hstart).1.grows

end PageObjects.Yaml
