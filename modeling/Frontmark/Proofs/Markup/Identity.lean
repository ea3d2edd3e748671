import Frontmark.Markup.Forest
import Mathlib.Data.List.Nodup
import Mathlib.Data.List.Perm.Basic

/-! The identities of the nodes of a tree, and what each change of the tree does to them.

A tree is put in once for every node with the identity of the slot (`RoseTree.count_insertAmong`), and taking one
out divides the identities in two (`RoseTree.perm_pruneAmong`). -/

set_option autoImplicit false

namespace Frontmark.Markup

mutual

def RoseTree.ids : RoseTree Node → List Nat
  | .node n cs => n.id :: RoseTree.idsAll cs

def RoseTree.idsAll : List (RoseTree Node) → List Nat
  | [] => []
  | t :: ts => t.ids ++ RoseTree.idsAll ts

end

namespace RoseTree

theorem ids_eq (t : RoseTree Node) : t.ids = t.id :: idsAll t.children := by
  cases t with
  | node n cs => rw [ids, id, value, children]

theorem id_mem_ids (t : RoseTree Node) : t.id ∈ t.ids := by
  simp [ids_eq]

@[simp] theorem idsAll_append (first rest : List (RoseTree Node)) :
    idsAll (first ++ rest) = idsAll first ++ idsAll rest := by
  induction first with
  | nil => rfl
  | cons t ts ih => simp [idsAll, ih]

section SetValue

variable (id : Nat) (value : Value)

mutual

theorem ids_setValue : (t : RoseTree Node) → (t.setValue id value).ids = t.ids
  | .node n cs => by
    rw [setValue, ids, ids, ids_setValueAmong cs]
    split
    · next same => rw [same]
    · rfl

theorem ids_setValueAmong : (ts : List (RoseTree Node)) → idsAll (setValueAmong id value ts) = idsAll ts
  | [] => rfl
  | t :: ts => by rw [setValueAmong, idsAll, idsAll, ids_setValue t, ids_setValueAmong ts]

end

end SetValue

section Insert

variable (slot : Slot) (new : RoseTree Node) (x : Nat)

@[simp] theorem id_insert (t : RoseTree Node) : (insert slot new t).id = t.id := by
  cases t with
  | node n cs => rw [insert]; rfl

/-- How often a new tree is put in beside a node; wherever else the slot may be, it is below the node. -/
def besides (t : RoseTree Node) : Nat :=
  if slot.anchor = t.id then if slot.side = .before ∨ slot.side = .after then 1 else 0 else 0

theorem count_insertBeside (t : RoseTree Node) :
    (idsAll (slot.insertBeside new t)).count x = t.ids.count x + t.besides slot * new.ids.count x := by
  unfold Slot.insertBeside besides
  split
  · cases slot.side <;> simp [idsAll, Nat.add_comm]
  · simp [idsAll]

mutual

theorem count_insert : (t : RoseTree Node) →
    (insert slot new t).ids.count x + t.besides slot * new.ids.count x =
      t.ids.count x + t.ids.count slot.anchor * new.ids.count x
  | .node n cs => by
    have inner := count_insertAmong cs
    rw [insert, ids, ids, Slot.insertUnder, besides, List.count_cons, List.count_cons, List.count_cons]
    by_cases same : slot.anchor = n.id
    · have here : slot.anchor = (node n cs).id := same
      cases slot.side <;> simp [idsAll, inner, ← here, ← same, Nat.add_mul] <;> omega
    · have other : ¬ slot.anchor = (node n cs).id := same
      simp [inner, same, other, Ne.symm same]
      omega

theorem count_insertAmong : (ts : List (RoseTree Node)) →
    (idsAll (insertAmong slot new ts)).count x =
      (idsAll ts).count x + (idsAll ts).count slot.anchor * new.ids.count x
  | [] => by simp [insertAmong, idsAll]
  | t :: ts => by
    have own := count_insert t
    have beside := count_insertBeside slot new x (insert slot new t)
    have same : (insert slot new t).besides slot = t.besides slot := by simp [besides]
    rw [same] at beside
    rw [insertAmong, idsAll_append, idsAll, List.count_append, List.count_append, List.count_append, beside, own,
      count_insertAmong ts, Nat.add_mul]
    omega

end

end Insert

section Places

variable {p : Place} {parent next : Option Nat}

mutual

theorem places_append (parent next : Option Nat) (others : List Place) :
    (t : RoseTree Node) → t.places parent next others = t.places parent next [] ++ others
  | .node n cs => by
    rw [places, places, placesAmong_append (some n.id) others cs, List.cons_append]

theorem placesAmong_append (parent : Option Nat) (others : List Place) :
    (ts : List (RoseTree Node)) → placesAmong parent others ts = placesAmong parent [] ts ++ others
  | [] => rfl
  | t :: ts => by
    rw [placesAmong, placesAmong, places_append _ _ _ t, places_append _ _ (placesAmong parent [] ts) t,
      placesAmong_append parent others ts, List.append_assoc]

end

theorem mem_places {t : RoseTree Node} :
    p ∈ t.places parent next [] ↔ p = ⟨t, parent, next⟩ ∨ p ∈ placesAmong (some t.id) [] t.children := by
  cases t with
  | node n cs => rw [places, List.mem_cons]; rfl

theorem mem_placesAmong_cons {t : RoseTree Node} {ts : List (RoseTree Node)} :
    p ∈ placesAmong parent [] (t :: ts) ↔
      p ∈ t.places parent (ts.head?.map RoseTree.id) [] ∨ p ∈ placesAmong parent [] ts := by
  rw [placesAmong, places_append, List.mem_append]

mutual

theorem map_id_places (parent next : Option Nat) : (t : RoseTree Node) → (t.places parent next []).map Place.id = t.ids
  | .node n cs => by
    rw [places, List.map_cons, map_id_placesAmong (some n.id) cs, ids]
    rfl

theorem map_id_placesAmong (parent : Option Nat) :
    (ts : List (RoseTree Node)) → (placesAmong parent [] ts).map Place.id = idsAll ts
  | [] => rfl
  | t :: ts => by
    rw [placesAmong, places_append, List.map_append, map_id_places parent _ t, map_id_placesAmong parent ts, idsAll]

end

theorem id_mem_of_mem_placesAmong {ts : List (RoseTree Node)} (found : p ∈ placesAmong parent [] ts) :
    p.id ∈ idsAll ts := by
  rw [← map_id_placesAmong parent]
  exact List.mem_map_of_mem found

mutual

theorem ids_sublist_of_mem_places (parent next : Option Nat) :
    (t : RoseTree Node) → p ∈ t.places parent next [] → p.tree.ids.Sublist t.ids
  | .node n cs, found => by
    rcases mem_places.mp found with rfl | below
    · exact List.Sublist.refl _
    · exact (ids_sublist_of_mem_placesAmong (some n.id) cs below).cons _

theorem ids_sublist_of_mem_placesAmong (parent : Option Nat) :
    (ts : List (RoseTree Node)) → p ∈ placesAmong parent [] ts → p.tree.ids.Sublist (idsAll ts)
  | t :: ts, found => by
    rw [idsAll]
    rcases mem_placesAmong_cons.mp found with found | found
    · exact (ids_sublist_of_mem_places parent _ t found).trans (List.sublist_append_left _ _)
    · exact (ids_sublist_of_mem_placesAmong parent ts found).trans (List.sublist_append_right _ _)

end

mutual

theorem mem_places_trans {q : Place} (parent next : Option Nat) : (t : RoseTree Node) → p ∈ t.places parent next [] →
    q ∈ p.tree.places p.parent p.next [] → q ∈ t.places parent next []
  | .node n cs, found, below => by
    rcases mem_places.mp found with rfl | inside
    · exact below
    · exact mem_places.mpr (.inr (mem_placesAmong_trans (some n.id) cs inside below))

/-- The places in the tree of a place are places, too. -/
theorem mem_placesAmong_trans {q : Place} (parent : Option Nat) : (ts : List (RoseTree Node)) →
    p ∈ placesAmong parent [] ts → q ∈ p.tree.places p.parent p.next [] → q ∈ placesAmong parent [] ts
  | t :: ts, found, below => by
    rw [mem_placesAmong_cons] at found ⊢
    exact found.imp (mem_places_trans parent _ t · below) (mem_placesAmong_trans parent ts · below)

end

mutual

theorem length_ids : (t : RoseTree Node) → t.ids.length = t.size
  | .node n cs => by rw [ids, List.length_cons, length_idsAll cs, size, Nat.add_comm]

theorem length_idsAll : (ts : List (RoseTree Node)) → (idsAll ts).length = sizeAll ts
  | [] => rfl
  | t :: ts => by rw [idsAll, List.length_append, length_ids t, length_idsAll ts, sizeAll]

end

end Places

section Prune

variable {id : Nat}

mutual

theorem prune_of_notMem : (t : RoseTree Node) → id ∉ idsAll t.children → t.prune id = t
  | .node n cs, absent => by rw [prune, pruneAmong_of_notMem cs absent]

theorem pruneAmong_of_notMem : (ts : List (RoseTree Node)) → id ∉ idsAll ts → pruneAmong id ts = ts
  | [], _ => rfl
  | t :: ts, absent => by
    simp only [idsAll, ids_eq, List.cons_append, List.mem_cons, List.mem_append, not_or] at absent
    rw [pruneAmong, if_neg (Ne.symm absent.1), prune_of_notMem t absent.2.1, pruneAmong_of_notMem ts absent.2.2]

end

variable {p : Place} {parent : Option Nat}

mutual

theorem perm_prune : (t : RoseTree Node) → t.ids.Nodup → p ∈ placesAmong (some t.id) [] t.children →
    t.ids.Perm ((t.prune p.id).ids ++ p.tree.ids)
  | .node n cs, nodup, found => by
    rw [prune, ids, ids, List.cons_append]
    exact (perm_pruneAmong cs (List.nodup_cons.mp nodup).2 found).cons n.id

/-- Pruning divides the identities: those of the tree that is taken out, and all others. -/
theorem perm_pruneAmong {parent : Option Nat} : (ts : List (RoseTree Node)) → (idsAll ts).Nodup →
    p ∈ placesAmong parent [] ts → (idsAll ts).Perm (idsAll (pruneAmong p.id ts) ++ p.tree.ids)
  | t :: ts, nodup, found => by
    obtain ⟨nodupHead, nodupTail, apart⟩ := List.nodup_append.mp nodup
    have other : ∀ a ∈ t.ids, a ∉ idsAll ts := fun a first second => apart a first a second rfl
    rw [idsAll, pruneAmong]
    rcases mem_placesAmong_cons.mp found with found | found
    · rcases mem_places.mp found with rfl | below
      · have here : t.id = Place.id ⟨t, parent, ts.head?.map RoseTree.id⟩ := rfl
        rw [if_pos here]
        exact List.perm_append_comm
      · have inside := id_mem_of_mem_placesAmong below
        have notRoot : t.id ≠ p.id := by
          intro same
          rw [ids_eq, same] at nodupHead
          exact (List.nodup_cons.mp nodupHead).1 inside
        rw [if_neg notRoot, pruneAmong_of_notMem ts (other _ (by simp [ids_eq, inside])), idsAll]
        refine ((perm_prune t nodupHead below).append_right _).trans ?_
        rw [List.append_assoc, List.append_assoc]
        exact List.perm_append_comm.append_left _
    · have inside := id_mem_of_mem_placesAmong found
      have outside : p.id ∉ t.ids := fun first => other _ first inside
      rw [ids_eq, List.mem_cons, not_or] at outside
      rw [if_neg (Ne.symm outside.1), prune_of_notMem t outside.2, idsAll, List.append_assoc]
      exact (perm_pruneAmong ts nodupTail found).append_left _

end

end Prune

section Number

mutual

theorem ids_number (first : Nat) : (t : RoseTree Value) →
    (t.number first).1.ids = List.range' first t.size ∧ (t.number first).2 = first + t.size
  | .node v cs => by
    obtain ⟨inner, last⟩ := idsAll_numberAll (first + 1) cs
    constructor
    · rw [number, ids, size, inner, Nat.add_comm 1, List.range'_succ]
    · rw [number, size]
      dsimp only
      omega

theorem idsAll_numberAll (first : Nat) : (ts : List (RoseTree Value)) →
    idsAll (numberAll first ts).1 = List.range' first (sizeAll ts) ∧ (numberAll first ts).2 = first + sizeAll ts
  | [] => ⟨rfl, rfl⟩
  | t :: ts => by
    obtain ⟨head, next⟩ := ids_number first t
    obtain ⟨tail, last⟩ := idsAll_numberAll (first + t.size) ts
    rw [← next] at tail last
    constructor
    · rw [numberAll, idsAll, sizeAll, head, tail, next, List.range'_append_1]
    · rw [numberAll, sizeAll]
      dsimp only
      omega

end

end Number

end RoseTree

end Frontmark.Markup
