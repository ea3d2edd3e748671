import Frontmark.Markup.Walker
import Frontmark.Proofs.Markup.Editing

/-! Walks through a forest that is left alone while they last.

`Walker.Leads` is a run of single steps. Main statement: a walk from a node leads through all visits of its tree and
ends there (`Forest.Sound.exists_leads`). Since a walker keeps nothing but its position, any walker that stands
where one of these visits is due makes the same visits from there on. -/

set_option autoImplicit false

namespace Frontmark.Markup

theorem RoseTree.visits_eq (t : RoseTree Node) :
    t.visits = if t.opens then ⟨t, true⟩ :: (RoseTree.visitsAll t.children ++ [⟨t, false⟩]) else [⟨t, true⟩] := by
  cases t with
  | node n cs => rw [RoseTree.visits]; rfl

mutual

theorem RoseTree.length_visits_le : (t : RoseTree Node) → t.visits.length ≤ 2 * t.ids.length
  | .node n cs => by
    have inner := RoseTree.length_visitsAll_le cs
    rw [RoseTree.visits, RoseTree.ids]
    split <;> simp <;> omega

/-- No node is visited more than twice. -/
theorem RoseTree.length_visitsAll_le : (ts : List (RoseTree Node)) →
    (RoseTree.visitsAll ts).length ≤ 2 * (RoseTree.idsAll ts).length
  | [] => Nat.le_refl _
  | t :: ts => by
    have first := RoseTree.length_visits_le t
    have rest := RoseTree.length_visitsAll_le ts
    rw [RoseTree.visitsAll, RoseTree.idsAll, List.length_append, List.length_append]
    omega

end

namespace Walker

/-- Step by step the walk makes exactly these visits on its way from one position to another. -/
inductive Leads (find : Nat → Option Place) : Walker → List Visit → Walker → Prop where
  | done (w : Walker) : Leads find w [] w
  | next {w w' last : Walker} {visit : Visit} {visits : List Visit} : w.step find = some (visit, w') →
      Leads find w' visits last → Leads find w (visit :: visits) last

variable {find : Nat → Option Place} {w w' last : Walker} {visit : Visit} {visits more : List Visit}

theorem Leads.trans (first : Leads find w visits w') (rest : Leads find w' more last) :
    Leads find w (visits ++ more) last := by
  induction first with
  | done w => exact rest
  | next step _ ih => exact .next step (ih rest)

theorem step_of_current {p : Place} (known : find p.id = some p) (root : Nat) (entering : Bool) :
    step find ⟨root, some p.id, entering⟩ = some (⟨p.tree, entering⟩, advance ⟨root, some p.id, entering⟩ p) := by
  simp [step, known]

section Run

theorem runFrom_eq (find : Nat → Option Place) (limit : Nat) (made : List Visit) (w : Walker) :
    w.runFrom find limit made = (made.reverse ++ (w.run find limit).1, (w.run find limit).2) := by
  rw [run]
  induction limit generalizing made w with
  | zero => simp [runFrom]
  | succ limit ih =>
    rw [runFrom, runFrom]
    cases w.step find with
    | none => simp
    | some result => simp [ih (result.1 :: made), ih [result.1]]

theorem run_succ (step : w.step find = some (visit, w')) (limit : Nat) :
    w.run find (limit + 1) = (visit :: (w'.run find limit).1, (w'.run find limit).2) := by
  rw [run, runFrom, step]
  simp [runFrom_eq find limit [visit]]

theorem run_of_ended (ended : w.step find = none) (limit : Nat) : w.run find limit = ([], w) := by
  cases limit with
  | zero => rfl
  | succ limit => simp [run, runFrom, ended]

/-- Asked for any number of visits, a walk that leads to an end makes that many of its visits, as far as there are
so many; after the last one it stays at its end. -/
theorem Leads.run_eq (leads : Leads find w visits last) (ended : last.step find = none) (limit : Nat) :
    (w.run find limit).1 = visits.take limit ∧ (visits.length ≤ limit → (w.run find limit).2 = last) := by
  induction leads generalizing limit with
  | done w => simp [run_of_ended ended]
  | next step _ ih =>
    cases limit with
    | zero => simp [run, runFrom]
    | succ limit => simpa [run_succ step] using ih ended limit

end Run

section Resume

/-- The place found for an identity is that of the node. -/
def Faithful (find : Nat → Option Place) : Prop :=
  ∀ id p, find id = some p → p.id = id

/-- A visit is made at the place where the walker stands. -/
theorem exists_place_of_step (faithful : Faithful find) (step : w.step find = some (visit, w')) :
    ∃ p, find p.id = some p ∧ w = ⟨w.root, some p.id, w.entering⟩ ∧ visit = ⟨p.tree, w.entering⟩ ∧ w' = w.advance p := by
  obtain ⟨root, current, entering⟩ := w
  cases current with
  | none => cases step
  | some id =>
    rw [Walker.step, Option.bind_some] at step
    split at step
    · cases step
    · next p found =>
      simp only [Option.some.injEq, Prod.mk.injEq] at step
      obtain rfl := faithful id p found
      exact ⟨p, found, rfl, step.1.symm, step.2.symm⟩

theorem exists_of_step (faithful : Faithful find) (step : w.step find = some (visit, w')) :
    w = ⟨w.root, some visit.id, visit.entering⟩ ∧ w'.root = w.root := by
  obtain ⟨p, -, position, rfl, rfl⟩ := exists_place_of_step faithful step
  refine ⟨position, ?_⟩
  unfold advance
  split
  · split <;> rfl
  · split
    · rfl
    · split <;> rfl

/-- A walker that stands where a visit is due is no different from the one that has made all visits before. -/
theorem Leads.resume (faithful : Faithful find) (leads : Leads find w (visits ++ visit :: more) last) :
    Leads find ⟨w.root, some visit.id, visit.entering⟩ (visit :: more) last := by
  generalize whole : visits ++ visit :: more = all at leads
  induction leads generalizing visits with
  | done w => simp at whole
  | next step rest ih =>
    obtain ⟨position, sameRoot⟩ := exists_of_step faithful step
    cases visits with
    | nil =>
      obtain ⟨rfl, rfl⟩ := List.cons.inj whole
      rw [← position]
      exact .next step rest
    | cons first visits => exact sameRoot ▸ ih (List.cons.inj whole).2

end Resume

section Tree

variable {root : Nat}

/-- Where a walk goes on when all of a tree is visited that is not its own. -/
def past (root : Nat) (parent next : Option Nat) : Walker :=
  match next with
  | some sibling => ⟨root, some sibling, true⟩
  | none => ⟨root, parent, false⟩

theorem advance_of_not_opens {p : Place} {entering : Bool} (closed : (entering && p.tree.opens) = false)
    (other : p.tree.id ≠ root) : advance ⟨root, some p.id, entering⟩ p = past root p.parent p.next := by
  unfold advance past
  cases p.next with
  | some sibling => simp [closed, other]
  | none => simp [closed, other]

theorem advance_of_root {p : Place} {entering : Bool} (closed : (entering && p.tree.opens) = false)
    (own : p.tree.id = root) : advance ⟨root, some p.id, entering⟩ p = ⟨root, none, entering⟩ := by
  unfold advance
  rw [closed, if_neg (by simp), if_pos own]

/-- A node that opens is entered, its children are visited, and it is left next. -/
theorem leads_inside {p : Place} (known : find p.id = some p) (opens : p.tree.opens = true)
    (below : ∀ c cs, p.tree.children = c :: cs →
      Leads find ⟨root, some c.id, true⟩ (RoseTree.visitsAll p.tree.children) ⟨root, some p.id, false⟩) :
    Leads find ⟨root, some p.id, true⟩ (⟨p.tree, true⟩ :: RoseTree.visitsAll p.tree.children) ⟨root, some p.id, false⟩ := by
  refine .next (step_of_current known root true) ?_
  unfold advance
  rw [Bool.true_and, if_pos opens]
  cases inner : p.tree.children with
  | nil => exact .done _
  | cons c cs =>
    have children := below c cs inner
    rwa [inner] at children

mutual

theorem leads_visits (parent next : Option Nat) : (t : RoseTree Node) →
    (∀ p ∈ t.places parent next [], find p.id = some p) → root ∉ t.ids →
    Leads find ⟨root, some t.id, true⟩ t.visits (past root parent next)
  | .node n cs, known, outside => by
    let p : Place := ⟨.node n cs, parent, next⟩
    have here : find p.id = some p := known p (RoseTree.mem_places.mpr (.inl rfl))
    have other : p.tree.id ≠ root := fun same => outside (same ▸ RoseTree.id_mem_ids _)
    rw [RoseTree.visits_eq]
    split
    · next opens =>
      have below := fun c rest (inner : cs = c :: rest) => leads_visitsAll n.id cs c rest inner
        (fun q member => known q (RoseTree.mem_places.mpr (.inr member))) (fun inside => outside (List.mem_cons_of_mem _ inside))
      refine (leads_inside here opens below).trans (.next (step_of_current here root false) ?_)
      rw [advance_of_not_opens (by simp) other]
      exact .done _
    · next leaf =>
      refine .next (step_of_current here root true) ?_
      rw [advance_of_not_opens (by simpa using leaf) other]
      exact .done _

/-- Siblings are visited in order, and then their parent is left. -/
theorem leads_visitsAll (parent : Nat) : (ts : List (RoseTree Node)) → (c : RoseTree Node) →
    (cs : List (RoseTree Node)) → ts = c :: cs →
    (∀ p ∈ RoseTree.placesAmong (some parent) [] ts, find p.id = some p) → root ∉ RoseTree.idsAll ts →
    Leads find ⟨root, some c.id, true⟩ (RoseTree.visitsAll ts) ⟨root, some parent, false⟩
  | t :: ts, _, _, rfl, known, outside => by
    rw [RoseTree.idsAll, List.mem_append, not_or] at outside
    have first := leads_visits (some parent) (ts.head?.map RoseTree.id) t
      (fun p member => known p (RoseTree.mem_placesAmong_cons.mpr (.inl member))) outside.1
    rw [RoseTree.visitsAll]
    refine first.trans ?_
    cases rest : ts with
    | nil => exact .done _
    | cons c cs =>
      have start : past root (some parent) (ts.head?.map RoseTree.id) = ⟨root, some c.id, true⟩ := by rw [rest]; rfl
      rw [← rest, start]
      exact leads_visitsAll parent ts c cs rest
        (fun p member => known p (RoseTree.mem_placesAmong_cons.mpr (.inr member))) outside.2

end

/-- The walk that starts at a node ends when all of the node's tree is visited. -/
theorem exists_leads_of_places {p : Place} (known : ∀ q ∈ p.tree.places p.parent p.next [], find q.id = some q)
    (nodup : p.tree.ids.Nodup) :
    ∃ entering, Leads find (start p.id) p.tree.visits ⟨p.id, none, entering⟩ := by
  have here : find p.id = some p := known p (RoseTree.mem_places.mpr (.inl rfl))
  rw [RoseTree.ids_eq, List.nodup_cons] at nodup
  rw [RoseTree.visits_eq, start]
  split
  · next opens =>
    have below := fun c cs (inner : p.tree.children = c :: cs) => leads_visitsAll p.id p.tree.children c cs inner
      (fun q member => known q (RoseTree.mem_places.mpr (.inr member))) nodup.1
    refine ⟨false, (leads_inside here opens below).trans (.next (step_of_current here p.id false) ?_)⟩
    have ended : advance ⟨p.id, some p.id, false⟩ p = ⟨p.id, none, false⟩ := advance_of_root rfl rfl
    exact ended ▸ .done _
  · next leaf =>
    refine ⟨true, .next (step_of_current here p.id true) ?_⟩
    have ended : advance ⟨p.id, some p.id, true⟩ p = ⟨p.id, none, true⟩ := advance_of_root (by simpa using leaf) rfl
    exact ended ▸ .done _

end Tree

end Walker

namespace Forest

variable {f : Forest}

theorem faithful_place? (f : Forest) : Walker.Faithful f.place? :=
  fun _ _ found => (mem_of_place? found).2

theorem ids_sublist_of_mem_places {p : Place} (member : p ∈ f.places) : p.tree.ids.Sublist f.ids := by
  rw [places_eq] at member
  obtain ⟨ts, family, member⟩ := List.mem_flatMap.mp member
  exact (RoseTree.ids_sublist_of_mem_placesAmong none ts member).trans (List.sublist_flatten_of_mem (List.mem_map_of_mem family))

theorem Sound.exists_leads (sound : f.Sound) {p : Place} (member : p ∈ f.places) :
    ∃ entering, Walker.Leads f.place? (.start p.id) p.tree.visits ⟨p.id, none, entering⟩ := by
  refine Walker.exists_leads_of_places ?_ (sound.nodup.sublist (ids_sublist_of_mem_places member))
  intro q below
  refine sound.place?_eq ?_
  rw [places_eq] at member ⊢
  obtain ⟨ts, family, member⟩ := List.mem_flatMap.mp member
  exact List.mem_flatMap.mpr ⟨ts, family, RoseTree.mem_placesAmong_trans none ts member below⟩

section Visits

theorem size_eq (f : Forest) : f.size = f.ids.length := by
  rw [size, ids]
  induction f.families with
  | nil => rfl
  | cons ts families ih => rw [List.foldr_cons, ih, List.flatMap_cons, List.length_append, RoseTree.length_idsAll]

theorem index_get? (f : Forest) (below : ∀ id ∈ f.ids, id < f.fresh) (id : Nat) : (f.index[id]?).join = f.place? id := by
  have bounded : ∀ p ∈ f.places, p.id < f.fresh := by
    intro p member
    exact below p.id (map_id_places f ▸ List.mem_map_of_mem member)
  -- places are entered from the last one to the first, so the first one of an identity stays
  have entered : ∀ (places : List Place), (∀ p ∈ places, p.id < f.fresh) →
      let index := places.foldr (fun p index => index.setIfInBounds p.id (some p)) (Array.replicate f.fresh none)
      index.size = f.fresh ∧ (index[id]?).join = places.find? (·.id = id) := by
    intro places bounded
    induction places with
    | nil =>
      refine ⟨Array.size_replicate, ?_⟩
      rw [List.foldr_nil, Array.getElem?_replicate]
      split <;> rfl
    | cons p places ih =>
      obtain ⟨first, rest⟩ := List.forall_mem_cons.mp bounded
      obtain ⟨size, ih⟩ := ih rest
      rw [List.foldr_cons]
      refine ⟨by simpa using size, ?_⟩
      rw [Array.getElem?_setIfInBounds, size, if_pos first]
      by_cases same : p.id = id
      · simp [same]
      · simpa [same] using ih
  exact (entered f.places bounded).2

/-- The walk of a whole tree makes the visits that the tree lists. -/
theorem Sound.visits_eq (sound : f.Sound) {p : Place} (member : p ∈ f.places) : f.visits p.id = p.tree.visits := by
  obtain ⟨entering, leads⟩ := sound.exists_leads member
  have enough : p.tree.visits.length ≤ 2 * f.size := by
    have := (ids_sublist_of_mem_places member).length_le
    have := p.tree.length_visits_le
    rw [size_eq]
    omega
  have indexed : (fun id => (f.index[id]?).join) = f.place? := funext (index_get? f sound.lt_fresh)
  have ran := (leads.run_eq rfl (2 * f.size)).1
  rw [List.take_of_length_le enough] at ran
  rw [visits, indexed]
  exact ran

end Visits

end Forest

end Frontmark.Markup
