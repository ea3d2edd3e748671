import Frontmark.Markup.Render
import Frontmark.Proofs.Markup.Walk

/-! What a rendering reports of itself.

`RoseTree.reached` has the nodes that a walk comes to, by recursion on the tree. Main statement: a rendering reports the
extensions among them, one by one and nothing of all other nodes, and at its end how many visits it has made and how long
its text is (`Forest.Sound.reports_rendering`). -/

set_option autoImplicit false

namespace Frontmark.Markup

mutual

/-- The nodes that a walk comes to, each with its tree, in the order in which they are entered: a node, and what is below
it only if it opens. -/
def RoseTree.reached : RoseTree Node → List (RoseTree Node)
  | t@(.node n cs) => t :: if n.value.kind.opens (!cs.isEmpty) then RoseTree.reachedAll cs else []

def RoseTree.reachedAll : List (RoseTree Node) → List (RoseTree Node)
  | [] => []
  | t :: ts => t.reached ++ RoseTree.reachedAll ts

end

namespace RoseTree

theorem reached_eq (t : RoseTree Node) : t.reached = t :: if t.opens then reachedAll t.children else [] := by
  cases t with
  | node n cs => rw [reached]; rfl

mutual

theorem map_entered_visits : (t : RoseTree Node) → (t.visits.filter Visit.entering).map Visit.tree = t.reached
  | .node n cs => by
    have inner := map_entered_visitsAll cs
    rw [visits, reached]
    split <;> simp [inner]

/-- Every node that a walk comes to is entered once. -/
theorem map_entered_visitsAll : (ts : List (RoseTree Node)) →
    ((visitsAll ts).filter Visit.entering).map Visit.tree = reachedAll ts
  | [] => rfl
  | t :: ts => by
    rw [visitsAll, reachedAll, List.filter_append, List.map_append, map_entered_visits t, map_entered_visitsAll ts]

end

mutual

theorem length_visits : (t : RoseTree Node) → t.visits.length = t.reached.length + t.reached.countP RoseTree.opens
  | .node n cs => by
    have inner := length_visitsAll cs
    rw [visits_eq, reached_eq]
    split
    · next opens =>
      rw [List.countP_cons_of_pos opens, children, List.length_cons, List.length_cons, List.length_append,
        List.length_singleton, inner]
      omega
    · next closed => simp [List.countP_cons_of_neg closed]

/-- The nodes that open are left again, so each of them counts twice. -/
theorem length_visitsAll : (ts : List (RoseTree Node)) →
    (visitsAll ts).length = (reachedAll ts).length + (reachedAll ts).countP RoseTree.opens
  | [] => rfl
  | t :: ts => by
    rw [visitsAll, reachedAll, List.length_append, List.length_append, List.countP_append, length_visits t,
      length_visitsAll ts]
    omega

end

end RoseTree

/-- Extensions are just what has no text of its own on entering. -/
theorem Value.entering?_eq_none_iff (value : Value) : value.entering? = none ↔ value.kind = .other := by
  cases value <;> simp [Value.entering?, Value.kind]

/-- What the visits report, each with the node that it is about. -/
def reportsOf (visits : List Visit) : List (Nat × Report) :=
  visits.filterMap fun visit => visit.report?.map fun report => (visit.id, report)

theorem map_snd_reportsOf (visits : List Visit) : (reportsOf visits).map Prod.snd = visits.filterMap Visit.report? := by
  rw [reportsOf, List.map_filterMap]
  refine congrArg (visits.filterMap ·) (funext fun visit => ?_)
  rw [Option.map_map]
  exact Option.map_id'

theorem Visit.report?_eq (visit : Visit) :
    visit.report? = if visit.entering = true ∧ visit.kind = .other then some (.skipped .other) else none := by
  have silent : visit.value.entering?.isNone = true ↔ visit.kind = .other := by
    rw [Option.isNone_iff_eq_none]
    exact visit.value.entering?_eq_none_iff
  by_cases other : visit.kind = .other
  · rw [report?, silent.mpr other, other]
    simp
  · rw [report?, Bool.eq_false_iff.mpr (mt silent.mp other)]
    simp [other]

/-- Extensions are reported when they are entered, and nothing else is. -/
theorem reportsOf_eq (visits : List Visit) : reportsOf visits =
    (((visits.filter Visit.entering).map Visit.tree).filter (·.kind = .other)).map fun t => (t.id, .skipped .other) := by
  induction visits with
  | nil => rfl
  | cons visit visits ih =>
    have head : reportsOf (visit :: visits) = reportsOf [visit] ++ reportsOf visits := by
      rw [reportsOf, reportsOf, reportsOf, ← List.filterMap_append, List.singleton_append]
    have own : reportsOf [visit] =
        if visit.entering = true ∧ visit.kind = .other then [(visit.id, .skipped .other)] else [] := by
      by_cases reported : visit.entering = true ∧ visit.kind = .other
      · simp [reportsOf, Visit.report?_eq, reported]
      · simp [reportsOf, Visit.report?_eq, reported]
    have same : visit.tree.kind = visit.kind := rfl
    rw [head, own, ih]
    cases entering : visit.entering with
    | false => simp [entering]
    | true =>
      by_cases other : visit.kind = .other
      · simp [entering, other, same, Visit.id]
      · simp [entering, other, same]

namespace Forest

variable {f : Forest} {p : Place}

theorem Sound.reportsOf_visits (sound : f.Sound) (member : p ∈ f.places) :
    reportsOf (f.visits p.id) = (p.tree.reached.filter (·.kind = .other)).map fun t => (t.id, .skipped .other) := by
  rw [reportsOf_eq, sound.visits_eq member, RoseTree.map_entered_visits]

theorem Sound.reports_rendering (sound : f.Sound) (member : p ∈ f.places) :
    (f.rendering p.id).reports = (reportsOf (f.visits p.id)).map Prod.snd ++
      [.rendered (p.tree.reached.length + p.tree.reached.countP RoseTree.opens) (f.render p.id).utf8ByteSize] := by
  have count : (f.visits p.id).length = p.tree.reached.length + p.tree.reached.countP RoseTree.opens := by
    rw [sound.visits_eq member, RoseTree.length_visits]
  rw [map_snd_reportsOf, ← count]
  rfl

end Forest

end Frontmark.Markup
