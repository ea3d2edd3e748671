import Frontmark.Proofs.Markup.Identity

/-! Forests under editing.

Main statement: no edit makes two nodes of one identity, or uses up an identity that is still free
(`Forest.Sound.edit`). In such a forest every node is found in its own place. -/

set_option autoImplicit false

namespace Frontmark.Markup

namespace Forest

variable {f : Forest}

def ids (f : Forest) : List Nat :=
  f.families.flatMap RoseTree.idsAll

/-- No two nodes have one identity, and the next free one is above all that are in use. -/
structure Sound (f : Forest) : Prop where
  nodup : f.ids.Nodup
  lt_fresh : ∀ id ∈ f.ids, id < f.fresh

theorem places_eq (f : Forest) : f.places = f.families.flatMap (RoseTree.placesAmong none []) := by
  rw [places]
  induction f.families with
  | nil => rfl
  | cons ts families ih => rw [List.foldr_cons, RoseTree.placesAmong_append, ih, List.flatMap_cons]

theorem map_id_places (f : Forest) : f.places.map Place.id = f.ids := by
  simp only [places_eq, ids, List.map_flatMap, RoseTree.map_id_placesAmong]

theorem mem_of_place? {p : Place} {id : Nat} (found : f.place? id = some p) : p ∈ f.places ∧ p.id = id :=
  ⟨List.mem_of_find?_eq_some found, by simpa using List.find?_some found⟩

theorem exists_place_of_tree? {id : Nat} {tree : RoseTree Node} (found : f.tree? id = some tree) :
    ∃ p ∈ f.places, p.id = id ∧ p.tree = tree := by
  obtain ⟨p, place, same⟩ := Option.map_eq_some_iff.mp found
  exact ⟨p, (mem_of_place? place).1, (mem_of_place? place).2, same⟩

section Edits

variable {p : Place} {families : List (List (RoseTree Node))}

theorem perm_map_pruneAmong (nodup : (families.flatMap RoseTree.idsAll).Nodup)
    (found : p ∈ families.flatMap (RoseTree.placesAmong none [])) :
    (families.flatMap RoseTree.idsAll).Perm
      ((families.map (RoseTree.pruneAmong p.id)).flatMap RoseTree.idsAll ++ p.tree.ids) := by
  induction families with
  | nil => cases found
  | cons ts families ih =>
    rw [List.flatMap_cons] at nodup found
    obtain ⟨nodupHead, nodupTail, apart⟩ := List.nodup_append.mp nodup
    rw [List.map_cons, List.flatMap_cons, List.flatMap_cons, List.append_assoc]
    rcases List.mem_append.mp found with found | found
    · -- the other families do not hold the node, so nothing is taken from them
      have inside := RoseTree.id_mem_of_mem_placesAmong found
      have others : families.map (RoseTree.pruneAmong p.id) = families := by
        refine (List.map_congr_left fun ts' member => ?_).trans (List.map_id families)
        refine RoseTree.pruneAmong_of_notMem ts' fun second => ?_
        exact apart p.id inside p.id (List.mem_flatMap.mpr ⟨ts', member, second⟩) rfl
      rw [others]
      refine ((RoseTree.perm_pruneAmong ts nodupHead found).append_right _).trans ?_
      rw [List.append_assoc]
      exact List.perm_append_comm.append_left _
    · obtain ⟨ts', member, found'⟩ := List.mem_flatMap.mp found
      have inside := List.mem_flatMap.mpr ⟨ts', member, RoseTree.id_mem_of_mem_placesAmong found'⟩
      rw [RoseTree.pruneAmong_of_notMem ts fun first => apart p.id first p.id inside rfl]
      exact (ih nodupTail found).append_left _

theorem perm_prune (nodup : f.ids.Nodup) (found : p ∈ f.places) : f.ids.Perm ((f.prune p.id).ids ++ p.tree.ids) := by
  have dropEmpty : ∀ families : List (List (RoseTree Node)),
      (families.filter (!·.isEmpty)).flatMap RoseTree.idsAll = families.flatMap RoseTree.idsAll := by
    intro families
    induction families with
    | nil => rfl
    | cons ts families ih => cases ts <;> simp [ih, RoseTree.idsAll]
  rw [places_eq] at found
  rw [ids, ids, prune, dropEmpty]
  exact perm_map_pruneAmong nodup found

theorem count_insert (f : Forest) (slot : Slot) (new : RoseTree Node) (x : Nat) :
    (f.insert slot new).ids.count x = f.ids.count x + f.ids.count slot.anchor * new.ids.count x := by
  rw [ids, ids, insert]
  induction f.families with
  | nil => simp
  | cons ts families ih =>
    rw [List.map_cons, List.flatMap_cons, List.flatMap_cons, List.count_append, List.count_append, List.count_append,
      ih, RoseTree.count_insertAmong, Nat.add_mul]
    omega

theorem nodup_insert {slot : Slot} {new : RoseTree Node} (nodup : (f.ids ++ new.ids).Nodup) :
    (f.insert slot new).ids.Nodup := by
  rw [List.nodup_iff_count_le_one] at nodup ⊢
  intro x
  have once := nodup slot.anchor
  have both := nodup x
  rw [List.count_append] at once both
  have copies := Nat.mul_le_mul_right (new.ids.count x) (show f.ids.count slot.anchor ≤ 1 by omega)
  rw [count_insert]
  omega

theorem mem_of_mem_insert {slot : Slot} {new : RoseTree Node} {x : Nat} (member : x ∈ (f.insert slot new).ids) :
    x ∈ f.ids ∨ x ∈ new.ids := by
  rw [← List.count_pos_iff, count_insert] at member
  by_cases old : x ∈ f.ids
  · exact .inl old
  · rw [List.count_eq_zero_of_not_mem old, Nat.zero_add] at member
    exact .inr (List.count_pos_iff.mp (Nat.pos_of_mul_pos_left member))

theorem Sound.setValue (sound : f.Sound) (id : Nat) (value : Value) : (f.setValue id value).Sound := by
  have same : (f.setValue id value).ids = f.ids := by
    simp only [ids, Forest.setValue, List.flatMap_map, RoseTree.ids_setValueAmong]
  exact ⟨same ▸ sound.nodup, same ▸ sound.lt_fresh⟩

theorem Sound.add (sound : f.Sound) (value : Value) (slot : Slot) : (f.add value slot).Sound := by
  have new : (RoseTree.node (⟨f.fresh, value⟩ : Node) []).ids = [f.fresh] := rfl
  constructor
  · refine nodup_insert (List.nodup_append.mpr ⟨sound.nodup, by simp [new], ?_⟩)
    intro a old b fresh
    rw [new, List.mem_singleton] at fresh
    exact fresh ▸ Nat.ne_of_lt (sound.lt_fresh a old)
  · intro x member
    rcases mem_of_mem_insert member with old | fresh
    · exact Nat.lt_succ_of_lt (sound.lt_fresh x old)
    · rw [new, List.mem_singleton] at fresh
      exact fresh ▸ Nat.lt_succ_self _

theorem Sound.attach (sound : f.Sound) (id : Nat) (slot : Slot) : (f.attach id slot).Sound := by
  unfold Forest.attach
  split
  · exact sound
  · next tree found =>
    obtain ⟨p, member, rfl, rfl⟩ := exists_place_of_tree? found
    have parts := perm_prune sound.nodup member
    refine ⟨nodup_insert (parts.nodup_iff.mp sound.nodup), fun x inside => sound.lt_fresh x ?_⟩
    exact parts.mem_iff.mpr (List.mem_append.mpr (mem_of_mem_insert inside))

theorem Sound.settle (sound : f.Sound) : f.settle.Sound := by
  have step : ∀ (ties : List (Nat × Slot)) (f : Forest), f.Sound →
      (ties.foldl (fun f (tie : Nat × Slot) => f.attach tie.1 tie.2) f).Sound := by
    intro ties
    induction ties with
    | nil => exact fun f sound => sound
    | cons tie ties ih => exact fun f sound => ih _ (sound.attach tie.1 tie.2)
  exact step _ _ ⟨sound.nodup, sound.lt_fresh⟩

theorem Sound.detach (sound : f.Sound) (id : Nat) : (f.detach id).Sound := by
  unfold Forest.detach
  split
  · exact sound
  · next tree found =>
    obtain ⟨p, member, rfl, rfl⟩ := exists_place_of_tree? found
    have parts : f.ids.Perm ((f.prune p.id).ids ++ p.tree.ids) := perm_prune sound.nodup member
    refine Sound.settle ⟨?_, fun x inside => sound.lt_fresh x ?_⟩
    · simpa [ids, RoseTree.idsAll] using parts.nodup_iff.mp sound.nodup
    · rw [parts.mem_iff]
      simpa [ids, RoseTree.idsAll] using inside

theorem Sound.move (sound : f.Sound) (id : Nat) (slot : Slot) : (f.move id slot).Sound := by
  have detached := sound.detach id
  unfold Forest.move
  dsimp only
  split
  · exact ⟨detached.nodup, detached.lt_fresh⟩
  · split
    · exact detached.attach id slot
    · exact detached

end Edits

theorem sound_ofTree (t : RoseTree Value) : (ofTree t).Sound := by
  obtain ⟨numbers, last⟩ := RoseTree.ids_number 0 t
  have same : (ofTree t).ids = List.range' 0 t.size := by simpa [ids, ofTree, RoseTree.idsAll] using numbers
  constructor
  · rw [same]
    exact List.nodup_range'
  · intro id member
    rw [same, List.mem_range'_1] at member
    have next : (ofTree t).fresh = 0 + t.size := last
    exact next ▸ member.2

/-- The identities tell the nodes apart, so that each is found in its own place. -/
theorem Sound.place?_eq (sound : f.Sound) {p : Place} (member : p ∈ f.places) : f.place? p.id = some p := by
  have nodup := sound.nodup
  rw [← map_id_places] at nodup
  rw [place?]
  generalize f.places = places at member nodup ⊢
  induction places with
  | nil => cases member
  | cons q places ih =>
    obtain ⟨absent, nodup⟩ := List.nodup_cons.mp nodup
    rcases List.mem_cons.mp member with rfl | member
    · exact List.find?_cons_of_pos (by simp)
    · have other : q.id ≠ p.id := fun same => absent (same ▸ List.mem_map_of_mem member)
      rw [List.find?_cons_of_neg (by simpa using other)]
      exact ih member nodup

end Forest

/-- What can be done to a forest. -/
inductive Edit where
  | setValue (id : Nat) (value : Value)
  | detach (id : Nat)
  | add (value : Value) (slot : Slot)
  | move (id : Nat) (slot : Slot)

def Forest.edit (f : Forest) : Edit → Forest
  | .setValue id value => f.setValue id value
  | .detach id => f.detach id
  | .add value slot => f.add value slot
  | .move id slot => f.move id slot

theorem Forest.Sound.edit {f : Forest} (sound : f.Sound) : (e : Edit) → (f.edit e).Sound
  | .setValue id value => sound.setValue id value
  | .detach id => sound.detach id
  | .add value slot => sound.add value slot
  | .move id slot => sound.move id slot

theorem Forest.Sound.edits {f : Forest} (sound : f.Sound) (edits : List Edit) : (edits.foldl Forest.edit f).Sound := by
  induction edits generalizing f with
  | nil => exact sound
  | cons e edits ih => exact ih (sound.edit e)

end Frontmark.Markup
