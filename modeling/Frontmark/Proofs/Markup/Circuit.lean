import Frontmark.Proofs.Markup.Traversal
import Mathlib.Data.List.ProdSigma

/-! Walks from any position.

A walker does not know where it has been, and edits may leave it where no walk from its root comes to. The circuit of a
forest passes each node twice, in front of what is below it and behind that, whether a walk opens it or not. Every step
leads onward in the circuit (`Forest.exists_ahead_of_step`). Main statement: so every walk ends, and makes no visit twice
(`Forest.run_ends`). -/

set_option autoImplicit false

namespace Frontmark.Markup

/-- A node, and on which side of its children. -/
abbrev Station := Nat × Bool

def Visit.station (v : Visit) : Station :=
  (v.id, v.entering)

def Walker.station? (w : Walker) : Option Station :=
  w.current.map fun id => (id, w.entering)

/-- Where a walk goes on that is done with a node. -/
def Place.onward (p : Place) : Option Station :=
  match p.next with
  | some sibling => some (sibling, true)
  | none => p.parent.map fun parent => (parent, false)

mutual

def RoseTree.circuit : RoseTree Node → List Station
  | .node n cs => (n.id, true) :: (RoseTree.circuitAll cs ++ [(n.id, false)])

def RoseTree.circuitAll : List (RoseTree Node) → List Station
  | [] => []
  | t :: ts => t.circuit ++ RoseTree.circuitAll ts

end

namespace RoseTree

theorem circuit_eq (t : RoseTree Node) : t.circuit = (t.id, true) :: (circuitAll t.children ++ [(t.id, false)]) := by
  cases t with
  | node n cs => rw [circuit]; rfl

mutual

theorem perm_circuit : (t : RoseTree Node) → t.circuit.Perm (t.ids ×ˢ [true, false])
  | .node n cs => by
    rw [circuit, ids, List.product_cons]
    refine .cons _ (List.perm_append_comm.trans ?_)
    exact .cons _ (perm_circuitAll cs)

/-- The circuit comes to each node twice. -/
theorem perm_circuitAll : (ts : List (RoseTree Node)) → (circuitAll ts).Perm (idsAll ts ×ˢ [true, false])
  | [] => .nil
  | t :: ts => by
    have split : (t.ids ++ idsAll ts) ×ˢ [true, false] = (t.ids ×ˢ [true, false]) ++ (idsAll ts ×ˢ [true, false]) :=
      List.flatMap_append
    rw [circuitAll, idsAll, split]
    exact (perm_circuit t).append (perm_circuitAll ts)

end

section Onward

variable {p : Place}

/-- The place has both its stations in a circuit, its children between them and the station at which the walk goes on
behind them. -/
def Passes (circuit : List Station) (p : Place) : Prop :=
  ∃ before after, circuit = before ++ (p.id, true) :: (circuitAll p.tree.children ++ (p.id, false) :: after) ∧
    ∀ station ∈ p.onward, station ∈ after

theorem Passes.prepend {circuit : List Station} (passes : Passes circuit p) (earlier : List Station) :
    Passes (earlier ++ circuit) p := by
  obtain ⟨before, after, rfl, onward⟩ := passes
  exact ⟨earlier ++ before, after, by simp, onward⟩

mutual

theorem passes_places (parent next : Option Nat) (later : List Station) : (t : RoseTree Node) →
    (∀ station ∈ Place.onward ⟨t, parent, next⟩, station ∈ later) → p ∈ t.places parent next [] →
    Passes (t.circuit ++ later) p
  | .node n cs, onward, found => by
    rw [circuit_eq, List.cons_append, List.append_assoc]
    rcases mem_places.mp found with rfl | below
    · exact ⟨[], later, rfl, onward⟩
    · -- from the last of the children the walk goes on where it leaves their parent
      have leaving : ∀ parent ∈ some n.id, (parent, false) ∈ (n.id, false) :: later := by simp
      exact (passes_placesAmong (some n.id) _ cs leaving below).prepend [(n.id, true)]

/-- In a circuit that goes on with the station of the parent, all places are passed. -/
theorem passes_placesAmong (parent : Option Nat) (later : List Station) : (ts : List (RoseTree Node)) →
    (∀ id ∈ parent, (id, false) ∈ later) → p ∈ placesAmong parent [] ts → Passes (circuitAll ts ++ later) p
  | t :: ts, leaving, found => by
    rw [circuitAll, List.append_assoc]
    rcases mem_placesAmong_cons.mp found with first | rest
    · refine passes_places parent _ (circuitAll ts ++ later) t ?_ first
      cases ts with
      | nil => simpa [Place.onward, circuitAll] using leaving
      | cons u us => simp [Place.onward, circuitAll, circuit_eq]
    · exact (passes_placesAmong parent later ts leaving rest).prepend t.circuit

end

end Onward

end RoseTree

namespace Walker

variable {p : Place} {root : Nat} {entering : Bool} {station : Station} {circuit : List Station}

/-- A walker that does not go inside turns to where the place says, or ends. -/
theorem onward_of_advance (closed : (entering && p.tree.opens) = false)
    (turned : station ∈ (advance ⟨root, some p.id, entering⟩ p).station?) : station ∈ p.onward := by
  by_cases own : p.tree.id = root
  · rw [advance_of_root closed own] at turned
    cases turned
  · rw [advance_of_not_opens closed own] at turned
    unfold past at turned
    unfold Place.onward
    cases next : p.next with
    | none => simpa [next, station?] using turned
    | some sibling => simpa [next, station?] using turned

/-- A walker that goes inside turns to a child or to the other side of the node. -/
theorem inside_of_advance (opens : p.tree.opens = true)
    (turned : station ∈ (advance ⟨root, some p.id, true⟩ p).station?) :
    station ∈ RoseTree.circuitAll p.tree.children ++ [(p.id, false)] := by
  unfold advance at turned
  rw [Bool.true_and, if_pos opens] at turned
  cases children : p.tree.children with
  | nil =>
    obtain rfl : (p.id, false) = station := by simpa [children, station?] using turned
    simp
  | cons c cs =>
    obtain rfl : (c.id, true) = station := by simpa [children, station?] using turned
    simp [RoseTree.circuitAll, RoseTree.circuit_eq]

/-- Wherever a walker turns at a place, it is to a station ahead of its own. -/
theorem exists_ahead_of_advance (passes : RoseTree.Passes circuit p) (root : Nat) (entering : Bool) :
    ∃ before after, circuit = before ++ (p.id, entering) :: after ∧
      ∀ station ∈ (advance ⟨root, some p.id, entering⟩ p).station?, station ∈ after := by
  obtain ⟨before, after, cut, onward⟩ := passes
  cases entering with
  | true =>
    refine ⟨before, _, cut, fun station turned => ?_⟩
    by_cases opens : p.tree.opens = true
    · have inside := inside_of_advance opens turned
      simp only [List.mem_append, List.mem_cons, List.not_mem_nil, or_false] at inside ⊢
      exact inside.imp_right .inl
    · have ahead := onward station (onward_of_advance (by simpa using opens) turned)
      simp [ahead]
  | false =>
    refine ⟨before ++ (p.id, true) :: RoseTree.circuitAll p.tree.children, after, by simp [cut], ?_⟩
    exact fun station turned => onward station (onward_of_advance rfl turned)

end Walker

namespace Forest

variable {f : Forest} {w w' : Walker} {visit : Visit}

def circuit (f : Forest) : List Station :=
  f.families.flatMap RoseTree.circuitAll

theorem perm_circuit (f : Forest) : f.circuit.Perm (f.ids ×ˢ [true, false]) := by
  rw [circuit, ids]
  induction f.families with
  | nil => exact .nil
  | cons ts families ih =>
    rw [List.flatMap_cons, List.flatMap_cons]
    refine ((RoseTree.perm_circuitAll ts).append ih).trans (.of_eq ?_)
    exact List.flatMap_append.symm

theorem nodup_circuit (nodup : f.ids.Nodup) : f.circuit.Nodup :=
  f.perm_circuit.nodup_iff.mpr (nodup.product (by decide))

theorem length_circuit (f : Forest) : f.circuit.length = 2 * f.size := by
  rw [f.perm_circuit.length_eq, List.length_product, size_eq, Nat.mul_comm]
  rfl

theorem passes_circuit {p : Place} (member : p ∈ f.places) : RoseTree.Passes f.circuit p := by
  rw [places_eq] at member
  obtain ⟨ts, family, inside⟩ := List.mem_flatMap.mp member
  obtain ⟨before, after, cut⟩ := List.append_of_mem family
  rw [circuit, cut, List.flatMap_append, List.flatMap_cons]
  exact (RoseTree.passes_placesAmong none _ ts (by simp) inside).prepend _

/-- Each step makes the visit that is due, and leads to a station ahead of it or to none at all. -/
theorem exists_ahead_of_step (step : w.step f.place? = some (visit, w')) :
    w.station? = some visit.station ∧
    ∃ before after, f.circuit = before ++ visit.station :: after ∧ ∀ station ∈ w'.station?, station ∈ after := by
  obtain ⟨p, found, position, rfl, rfl⟩ := Walker.exists_place_of_step f.faithful_place? step
  refine ⟨by rw [position]; rfl, ?_⟩
  rw [position]
  exact Walker.exists_ahead_of_advance (passes_circuit (mem_of_place? found).1) w.root w.entering

/-- From a walker that stands in the rest of the circuit, a walk leads to its end through stations of this rest, in their
order. -/
theorem exists_leads_ahead (nodup : f.circuit.Nodup) (rest : List Station) (suffix : rest <:+ f.circuit) (w : Walker)
    (ahead : ∀ station ∈ w.station?, station ∈ rest) :
    ∃ made last, Walker.Leads f.place? w made last ∧ last.step f.place? = none ∧
      (made.map Visit.station).Sublist rest := by
  -- The rest grows shorter by one station at a time, whether the walker stands at it or passes over it.
  induction rest generalizing w with
  | nil =>
    refine ⟨[], w, .done w, ?_, List.nil_sublist _⟩
    cases step : w.step f.place? with
    | none => rfl
    | some result => exact absurd (ahead _ (exists_ahead_of_step step).1) List.not_mem_nil
  | cons station rest ih =>
    have suffix' : rest <:+ f.circuit := (List.suffix_cons station rest).trans suffix
    cases step : w.step f.place? with
    | none => exact ⟨[], w, .done w, step, List.nil_sublist _⟩
    | some result =>
      obtain ⟨visit, w'⟩ := result
      obtain ⟨here, before, after, cut, onward⟩ := exists_ahead_of_step step
      rcases List.mem_cons.mp (ahead _ here) with rfl | later
      · -- no station comes twice in the circuit, so what is behind the visit is this rest
        have same : after = rest := by
          obtain ⟨earlier, whole⟩ := suffix
          rw [cut, List.nodup_middle, List.nodup_cons, List.mem_append, not_or] at nodup
          rw [cut] at whole
          exact ((List.append_cons_inj_of_notMem nodup.1.1 nodup.1.2).mp whole.symm).2.2
        obtain ⟨made, last, leads, ended, sublist⟩ := ih suffix' w' (same ▸ onward)
        exact ⟨visit :: made, last, .next step leads, ended, sublist.cons_cons _⟩
      · have stands : ∀ station ∈ w.station?, station ∈ rest := by simpa [here] using later
        obtain ⟨made, last, leads, ended, sublist⟩ := ih suffix' w stands
        exact ⟨made, last, leads, ended, sublist.cons _⟩

/-- Wherever in a forest a walker stands, and whatever node it takes for its root: it makes certain visits, none of them
twice, and then no more. There are at most two for each node of the forest. -/
theorem run_ends (nodup : f.ids.Nodup) (w : Walker) :
    ∃ made : List Visit, (made.map Visit.station).Nodup ∧ made.length ≤ 2 * f.size ∧
      ∀ limit, (w.run f.place? limit).1 = made.take limit ∧
        (made.length ≤ limit → (w.run f.place? limit).2.step f.place? = none) := by
  have within : ∃ made last, Walker.Leads f.place? w made last ∧ last.step f.place? = none ∧
      (made.map Visit.station).Sublist f.circuit := by
    cases step : w.step f.place? with
    | none => exact ⟨[], w, .done w, step, List.nil_sublist _⟩
    | some result =>
      obtain ⟨here, before, after, cut, -⟩ := exists_ahead_of_step step
      refine exists_leads_ahead (nodup_circuit nodup) f.circuit (List.suffix_refl _) w ?_
      simp [here, cut]
  obtain ⟨made, last, leads, ended, sublist⟩ := within
  refine ⟨made, sublist.nodup (nodup_circuit nodup), ?_, fun limit => ?_⟩
  · rw [← length_circuit, ← List.length_map]
    exact sublist.length_le
  · obtain ⟨visits, stop⟩ := leads.run_eq ended limit
    refine ⟨visits, fun enough => ?_⟩
    rw [stop enough, ended]

/-- A walk of a paragraph is about to enter a text in it when the text is moved to another paragraph and this becomes a
break. The walk goes on from there, leaves the break and what is above its own root, and ends. -/
theorem run_ends_displaced :
    let t : RoseTree Value := .node .document
      [.node .paragraph [.node (.text "a") [], .node .emph [.node (.text "b") []]], .node .paragraph []]
    let j := [Journey.Move.visit, .edit (.move 2 ⟨.last, 5⟩), .edit (.setValue 5 .thematicBreak)].foldl Journey.after
      ⟨Forest.ofTree t, .start 1⟩
    j.forest.ids.Nodup ∧
      (j.walker.run j.forest.place? 9).1.map Visit.station = [(2, true), (5, false), (0, false)] ∧
      ∀ limit, 12 ≤ limit → (j.walker.run j.forest.place? limit).2.step j.forest.place? = none := by
  intro t j
  have nodup : j.forest.ids.Nodup := by decide +kernel
  obtain ⟨made, -, few, ran⟩ := run_ends nodup j.walker
  have size : j.forest.size = 6 := by decide +kernel
  refine ⟨nodup, by decide +kernel, fun limit enough => (ran limit).2 ?_⟩
  omega

end Forest

end Frontmark.Markup
