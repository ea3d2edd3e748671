import Frontmark.Proofs.Markup.Walk

/-! Walks through a forest that is edited between their visits.

Main statement: whatever has been visited and edited before, a walker that stands where a visit of its tree is due,
as the tree is now, makes the visits of the tree from there on. -/

set_option autoImplicit false

namespace Frontmark.Markup

mutual

theorem RoseTree.mem_ids_of_mem_visits {visit : Visit} : (t : RoseTree Node) → visit ∈ t.visits → visit.id ∈ t.ids
  | .node n cs, member => by
    have own : Visit.id ⟨.node n cs, visit.entering⟩ = n.id := rfl
    rw [RoseTree.visits] at member
    rw [RoseTree.ids]
    split at member
    · simp only [List.mem_cons, List.mem_append, List.not_mem_nil, or_false] at member
      rcases member with rfl | below | rfl
      · exact List.mem_cons_self
      · exact List.mem_cons_of_mem _ (RoseTree.mem_idsAll_of_mem_visitsAll cs below)
      · exact List.mem_cons_self
    · rw [List.mem_singleton.mp member]
      exact List.mem_cons_self

theorem RoseTree.mem_idsAll_of_mem_visitsAll {visit : Visit} : (ts : List (RoseTree Node)) →
    visit ∈ RoseTree.visitsAll ts → visit.id ∈ RoseTree.idsAll ts
  | t :: ts, member => by
    rw [RoseTree.visitsAll, List.mem_append] at member
    rw [RoseTree.idsAll, List.mem_append]
    exact member.imp (RoseTree.mem_ids_of_mem_visits t) (RoseTree.mem_idsAll_of_mem_visitsAll ts)

end

theorem RoseTree.contains_eq_true {t : RoseTree Node} {id : Nat} (member : id ∈ t.ids) : t.contains id = true := by
  rw [← t.map_id_places none none] at member
  obtain ⟨p, place, same⟩ := List.mem_map.mp member
  exact List.any_eq_true.mpr ⟨p, place, by simpa using same⟩

/-- A forest and a walker in it. -/
structure Journey where
  forest : Forest
  walker : Walker

namespace Journey

inductive Move where
  | walk (root : Nat)
  | visit
  | edit (e : Edit)

/-- A new walk begins, the walk makes its next visit, or the forest is edited. -/
def after (j : Journey) : Move → Journey
  | .walk root => { j with walker := .start root }
  | .visit =>
    match j.walker.step j.forest.place? with
    | none => j
    | some (_, walker) => { j with walker }
  | .edit e => { j with forest := j.forest.edit e }

theorem sound_after {j : Journey} (sound : j.forest.Sound) (m : Move) : (j.after m).forest.Sound := by
  cases m with
  | walk root => exact sound
  | visit =>
    unfold after
    dsimp only
    split <;> exact sound
  | edit e => exact sound.edit e

theorem sound_foldl {j : Journey} (sound : j.forest.Sound) (moves : List Move) :
    (moves.foldl after j).forest.Sound := by
  induction moves generalizing j with
  | nil => exact sound
  | cons m moves ih => exact ih (sound_after sound m)

/-- After any journey: where the walker stands at a visit that its tree has now, it makes this visit and those that
the tree lists after it, and no more. A new walk makes all visits of its tree and does not leave the tree. -/
theorem run_after_moves (t : RoseTree Value) (start : Nat) (moves : List Move) {tree : RoseTree Node} :
    let j := moves.foldl after ⟨Forest.ofTree t, .start start⟩
    j.forest.tree? j.walker.root = some tree →
    (∀ made visit rest, tree.visits = made ++ visit :: rest →
      j.walker.current = some visit.id → j.walker.entering = visit.entering →
      ∀ limit, (j.walker.run j.forest.place? limit).1 = (visit :: rest).take limit ∧
        (rest.length < limit → (j.walker.run j.forest.place? limit).2.step j.forest.place? = none)) ∧
    (j.forest.visits j.walker.root = tree.visits ∧
      ∀ limit, ((Walker.start j.walker.root).run j.forest.place? limit).1 = tree.visits.take limit) ∧
    ∀ visit ∈ tree.visits, tree.contains visit.id = true := by
  intro j found
  have sound : j.forest.Sound := sound_foldl (Forest.sound_ofTree t) moves
  obtain ⟨p, member, same, rfl⟩ := Forest.exists_place_of_tree? found
  obtain ⟨entering, leads⟩ := sound.exists_leads member
  rw [same] at leads
  have ended : Walker.step j.forest.place? ⟨j.walker.root, none, entering⟩ = none := rfl
  refine ⟨?_, ⟨?_, fun limit => (leads.run_eq ended limit).1⟩, ?_⟩
  · intro made visit rest cut current way limit
    have here : j.walker = ⟨j.walker.root, some visit.id, visit.entering⟩ := by rw [← current, ← way]
    rw [cut] at leads
    have resumed := leads.resume (Forest.faithful_place? j.forest)
    rw [Walker.start, ← here] at resumed
    obtain ⟨made, last⟩ := resumed.run_eq ended limit
    refine ⟨made, fun enough => ?_⟩
    rw [last enough, ended]
  · rw [← same]
    exact sound.visits_eq member
  · intro visit inside
    exact RoseTree.contains_eq_true (RoseTree.mem_ids_of_mem_visits p.tree inside)

/-- A walk is about to enter the text of the first paragraph when another paragraph is moved in front of that, the
first one becomes emphasis, and a new text is put in after its own. -/
theorem run_after_moves_shifted :
    let t : RoseTree Value := .node .document
      [.node .paragraph [.node (.text "a") []], .node .paragraph [.node (.text "b") []]]
    let tree : RoseTree Node := .node ⟨0, .document⟩
      [.node ⟨3, .paragraph⟩ [.node ⟨4, .text "b"⟩ []],
        .node ⟨1, .emph⟩ [.node ⟨2, .text "a"⟩ [], .node ⟨5, .text "c"⟩ []]]
    let j := [Move.visit, .visit, .edit (.move 3 ⟨.before, 1⟩), .edit (.setValue 1 .emph),
      .edit (.add (.text "c") ⟨.after, 2⟩)].foldl after ⟨Forest.ofTree t, .start 0⟩
    j.forest.tree? j.walker.root = some tree ∧
      (j.walker.run j.forest.place? 9).1.map (fun visit => (visit.id, visit.entering)) =
        [(2, true), (5, true), (1, false), (0, false)] := by
  intro t tree j
  have found : j.forest.tree? j.walker.root = some tree := by decide +kernel
  have current : j.walker.current = some 2 ∧ j.walker.entering = true := by decide +kernel
  have cut : tree.visits = tree.visits.take 5 ++ ⟨.node ⟨2, .text "a"⟩ [], true⟩ :: tree.visits.drop 6 := by rfl
  have resumed := ((run_after_moves t 0 _ found).1 _ _ _ cut current.1 current.2 9).1
  refine ⟨found, ?_⟩
  rw [resumed]
  rfl

end Journey

end Frontmark.Markup
