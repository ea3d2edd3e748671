import Frontmark.Markup.View
import Frontmark.Proofs.Markup.Traversal
import Frontmark.Proofs.Text.Quoted

/-! The depth that a view counts while it walks.

A view raises its count when it enters a node that opens and lowers it when it leaves one. `View.Counts` says what the
count is at each stop of a walk. Main statement: it is the number of the node's ancestors, and so both views indent a
node alike wherever they show it (`View.depth_page`). -/

set_option autoImplicit false

namespace Frontmark.Markup

open Frontmark.Text (lines terminated)

/-- A visit and how deep its node stands. -/
structure Stop where
  depth : Nat
  visit : Visit

namespace RoseTree

mutual

/-- The visits of a tree whose root stands at this depth. -/
def stops (depth : Nat) : RoseTree Node → List Stop
  | t@(.node n cs) =>
    if n.value.kind.opens (!cs.isEmpty) then ⟨depth, t, true⟩ :: (stopsAll (depth + 1) cs ++ [⟨depth, t, false⟩])
    else [⟨depth, t, true⟩]

def stopsAll (depth : Nat) : List (RoseTree Node) → List Stop
  | [] => []
  | t :: ts => t.stops depth ++ stopsAll depth ts

end

theorem stops_eq (depth : Nat) (t : RoseTree Node) :
    t.stops depth = if t.opens then ⟨depth, t, true⟩ :: (stopsAll (depth + 1) t.children ++ [⟨depth, t, false⟩])
      else [⟨depth, t, true⟩] := by
  cases t with
  | node n cs => rw [stops]; rfl

mutual

theorem map_visit_stops (depth : Nat) : (t : RoseTree Node) → (t.stops depth).map Stop.visit = t.visits
  | .node n cs => by
    have inner := map_visit_stopsAll (depth + 1) cs
    rw [stops, visits]
    split <;> simp [inner]

theorem map_visit_stopsAll (depth : Nat) : (ts : List (RoseTree Node)) → (stopsAll depth ts).map Stop.visit = visitsAll ts
  | [] => rfl
  | t :: ts => by rw [stopsAll, visitsAll, List.map_append, map_visit_stops depth t, map_visit_stopsAll depth ts]

end

section Ancestors

/-- The places of the nodes below which a node stands. -/
def ancestors (t : RoseTree Node) (id : Nat) : List Place :=
  (t.places none none []).filter fun p => id ∈ idsAll p.tree.children

/-- How many of the places are above the node. -/
def countAbove (id : Nat) (places : List Place) : Nat :=
  places.countP fun p => id ∈ idsAll p.tree.children

variable {id : Nat} {parent next : Option Nat}

theorem mem_ids_of_below {t : RoseTree Node} (below : id ∈ idsAll t.children) : id ∈ t.ids := by
  rw [ids_eq]
  exact List.mem_cons_of_mem _ below

theorem countAbove_places_of_notMem {t : RoseTree Node} (outside : id ∉ t.ids) :
    countAbove id (t.places parent next []) = 0 := by
  refine List.countP_eq_zero.mpr fun p member below => outside ?_
  exact (ids_sublist_of_mem_places parent next t member).subset (mem_ids_of_below (of_decide_eq_true below))

theorem countAbove_placesAmong_of_notMem {ts : List (RoseTree Node)} (outside : id ∉ idsAll ts) :
    countAbove id (placesAmong parent [] ts) = 0 := by
  refine List.countP_eq_zero.mpr fun p member below => outside ?_
  exact (ids_sublist_of_mem_placesAmong parent ts member).subset (mem_ids_of_below (of_decide_eq_true below))

theorem countAbove_places (n : Node) (cs : List (RoseTree Node)) :
    countAbove id (places parent next [] (.node n cs)) =
      countAbove id (placesAmong (some n.id) [] cs) + if id ∈ idsAll cs then 1 else 0 := by
  rw [places, countAbove, List.countP_cons]
  exact congrArg _ (if_congr decide_eq_true_iff rfl rfl)

theorem countAbove_placesAmong (t : RoseTree Node) (ts : List (RoseTree Node)) :
    countAbove id (placesAmong parent [] (t :: ts)) =
      countAbove id (t.places parent (ts.head?.map RoseTree.id) []) + countAbove id (placesAmong parent [] ts) := by
  rw [placesAmong, places_append, countAbove, List.countP_append, countAbove, countAbove]

variable {stop : Stop}

theorem mem_ids_of_mem_stops {depth : Nat} {t : RoseTree Node} (member : stop ∈ t.stops depth) : stop.visit.id ∈ t.ids :=
  mem_ids_of_mem_visits t (map_visit_stops depth t ▸ List.mem_map_of_mem member)

theorem mem_idsAll_of_mem_stopsAll {depth : Nat} {ts : List (RoseTree Node)} (member : stop ∈ stopsAll depth ts) :
    stop.visit.id ∈ idsAll ts :=
  mem_idsAll_of_mem_visitsAll ts (map_visit_stopsAll depth ts ▸ List.mem_map_of_mem member)

-- By induction on the tree. No place beside a subtree is above one of its nodes, so the siblings of a stop's node and of
-- its ancestors count for nothing, and each step down adds one to both sides.
mutual

theorem depth_of_mem_stops (depth : Nat) (parent next : Option Nat) : (t : RoseTree Node) → t.ids.Nodup →
    stop ∈ t.stops depth → stop.depth = depth + countAbove stop.visit.id (t.places parent next [])
  | .node n cs, nodup, member => by
    obtain ⟨absent, nodup⟩ := List.nodup_cons.mp nodup
    rw [countAbove_places]
    -- a node is not below itself, and neither is any of its children above it
    have own (entering : Bool) : (⟨depth, .node n cs, entering⟩ : Stop).depth =
        depth + (countAbove n.id (placesAmong (some n.id) [] cs) + if n.id ∈ idsAll cs then 1 else 0) := by
      rw [countAbove_placesAmong_of_notMem absent, if_neg absent]
      rfl
    have below (inside : stop ∈ stopsAll (depth + 1) cs) : stop.depth =
        depth + (countAbove stop.visit.id (placesAmong (some n.id) [] cs) + if stop.visit.id ∈ idsAll cs then 1 else 0) := by
      rw [depth_of_mem_stopsAll (depth + 1) (some n.id) cs nodup inside, if_pos (mem_idsAll_of_mem_stopsAll inside)]
      omega
    rw [stops] at member
    split at member
    · simp only [List.mem_cons, List.mem_append, List.not_mem_nil, or_false] at member
      rcases member with rfl | inside | rfl
      · exact own true
      · exact below inside
      · exact own false
    · rw [List.mem_singleton.mp member]
      exact own true

theorem depth_of_mem_stopsAll (depth : Nat) (parent : Option Nat) : (ts : List (RoseTree Node)) → (idsAll ts).Nodup →
    stop ∈ stopsAll depth ts → stop.depth = depth + countAbove stop.visit.id (placesAmong parent [] ts)
  | t :: ts, nodup, member => by
    obtain ⟨nodupHead, nodupTail, apart⟩ := List.nodup_append.mp nodup
    rw [countAbove_placesAmong]
    rcases List.mem_append.mp member with first | rest
    · have outside : stop.visit.id ∉ idsAll ts := fun inside => apart _ (mem_ids_of_mem_stops first) _ inside rfl
      rw [depth_of_mem_stops depth parent _ t nodupHead first, countAbove_placesAmong_of_notMem outside, Nat.add_zero]
    · have outside : stop.visit.id ∉ t.ids := fun inside => apart _ inside _ (mem_idsAll_of_mem_stopsAll rest) rfl
      rw [depth_of_mem_stopsAll depth parent ts nodupTail rest, countAbove_places_of_notMem outside, Nat.zero_add]

end

/-- From the root, the depth of a stop counts the ancestors of its node. -/
theorem depth_eq_length_ancestors {t : RoseTree Node} (nodup : t.ids.Nodup) (member : stop ∈ t.stops 0) :
    stop.depth = (t.ancestors stop.visit.id).length := by
  rw [depth_of_mem_stops 0 none none t nodup member, Nat.zero_add, ancestors, ← List.countP_eq_length_filter, countAbove]

end Ancestors

end RoseTree

namespace View

/-- A count is right at every stop on its way from one number to another: it is the depth of a node that is entered,
and one more than that of a node that is left. -/
inductive Counts : Nat → List Stop → Nat → Prop where
  | done (depth : Nat) : Counts depth [] depth
  | enter {depth last : Nat} {visit : Visit} {stops : List Stop} : visit.entering = true →
      Counts (if visit.opens then depth + 1 else depth) stops last → Counts depth (⟨depth, visit⟩ :: stops) last
  | leave {depth last : Nat} {visit : Visit} {stops : List Stop} : visit.entering = false →
      Counts depth stops last → Counts (depth + 1) (⟨depth, visit⟩ :: stops) last

variable {depth middle last : Nat} {made stops : List Stop} {stop : Stop}

theorem Counts.trans (first : Counts depth made middle) (rest : Counts middle stops last) :
    Counts depth (made ++ stops) last := by
  induction first with
  | done => exact rest
  | enter entering _ ih => exact .enter entering (ih rest)
  | leave leaving _ ih => exact .leave leaving (ih rest)

theorem Counts.exists_middle (counts : Counts depth (made ++ stops) last) :
    ∃ middle, Counts depth made middle ∧ Counts middle stops last := by
  induction made generalizing depth with
  | nil => exact ⟨depth, .done depth, counts⟩
  | cons stop made ih =>
    cases counts with
    | enter entering counts =>
      obtain ⟨middle, first, rest⟩ := ih counts
      exact ⟨middle, .enter entering first, rest⟩
    | leave leaving counts =>
      obtain ⟨middle, first, rest⟩ := ih counts
      exact ⟨middle, .leave leaving first, rest⟩

theorem Counts.eq_of_stop (counts : Counts depth (stop :: stops) last) :
    depth = if stop.visit.entering then stop.depth else stop.depth + 1 := by
  cases counts with
  | enter entering _ => rw [if_pos entering]
  | leave leaving _ => rw [if_neg (by simp [leaving])]

mutual

theorem counts_stops (depth : Nat) : (t : RoseTree Node) → Counts depth (t.stops depth) depth
  | .node n cs => by
    have inner := counts_stopsAll (depth + 1) cs
    rw [RoseTree.stops_eq]
    split
    · next opens =>
      refine .enter rfl ?_
      rw [Visit.opens, Bool.true_and, if_pos opens]
      exact inner.trans (.leave rfl (.done depth))
    · next closed =>
      refine .enter rfl ?_
      rw [Visit.opens, Bool.true_and, if_neg closed]
      exact .done depth

/-- After a tree, or several trees beside each other, the count is what it was before. -/
theorem counts_stopsAll (depth : Nat) : (ts : List (RoseTree Node)) → Counts depth (RoseTree.stopsAll depth ts) depth
  | [] => .done depth
  | t :: ts => (counts_stops depth t).trans (counts_stopsAll depth ts)

end

section Page

variable (view : View)

/-- The indented lines that a view has for the stops of a walk. -/
def rows (stops : List Stop) : List (List Char) :=
  stops.filterMap fun stop => (view.line? stop.visit).map fun line => (indent stop.depth ++ line).toList

theorem rows_cons (stop : Stop) (stops : List Stop) : view.rows (stop :: stops) = view.rows [stop] ++ view.rows stops := by
  rw [rows, rows, rows, ← List.filterMap_append, List.singleton_append]

/-- A page goes on with the row of a visit, at the depth that the count gives its node, and after it with the other rows. -/
theorem toList_text_add (page : Page) (visit : Visit) (stops : List Stop) {depth : Nat}
    (count : (if visit.entering then page.depth else page.depth - 1) = depth) :
    (page.add view visit).text.toList ++ terminated (view.rows stops) =
      page.text.toList ++ terminated (view.rows (⟨depth, visit⟩ :: stops)) := by
  cases shown : view.line? visit with
  | none => simp [Page.add, rows, shown]
  | some line => simp [Page.add, rows, shown, count, String.toList_append]

/-- A page that is kept through a walk holds the rows of its stops, and its depth is the count. -/
theorem Counts.foldl_add (counts : Counts depth stops last) {page : Page} (start : page.depth = depth) :
    let after := (stops.map Stop.visit).foldl (Page.add view) page
    after.depth = last ∧ after.text.toList = page.text.toList ++ terminated (view.rows stops) := by
  induction counts generalizing page with
  | done => exact ⟨start, (List.append_nil _).symm⟩
  | @enter depth last visit stops entering _ ih =>
    have next : (page.add view visit).depth = if visit.opens then depth + 1 else depth := by
      simp [Page.add, entering, start]
    obtain ⟨ended, more⟩ := ih next
    exact ⟨ended, more.trans (toList_text_add view page visit stops (by rw [if_pos entering, start]))⟩
  | @leave depth last visit stops leaving _ ih =>
    -- the count is one more than the depth here, so taking one away is exact
    have count : (if visit.entering then page.depth else page.depth - 1) = depth := by
      rw [if_neg (by simp [leaving]), start, Nat.add_sub_cancel]
    have next : (page.add view visit).depth = depth := by
      simp [Page.add, leaving, Visit.opens, start]
    obtain ⟨ended, more⟩ := ih next
    exact ⟨ended, more.trans (toList_text_add view page visit stops count)⟩

theorem newline_notMem_name (kind : Kind) : '\n' ∉ kind.name.toList := by
  cases kind <;> decide

/-- What stands behind the name of a node in the view of the tree: its literal in quotes, if it has one. -/
def appended (literal? : Option String) : String :=
  match literal? with
  | none => ""
  | some literal => " " ++ Text.Quoted.quote literal

/-- The line of a visit in the view of events. -/
def eventRow (depth : Nat) (entering : Bool) (kind : Kind) : List Char :=
  (indent depth).toList ++ ((if entering then "enter " else "leave ") ++ kind.name).toList

/-- The line of a node in the view of the tree. -/
def nodeRow (depth : Nat) (kind : Kind) (literal? : Option String) : List Char :=
  (indent depth).toList ++ (kind.name.toList ++ (appended literal?).toList)

theorem line?_tree (visit : Visit) :
    tree.line? visit = if visit.entering then some (visit.kind.name ++ appended visit.value.literal?) else none :=
  rfl

theorem newline_notMem_appended (literal? : Option String) : '\n' ∉ (appended literal?).toList := by
  cases literal? with
  | none => exact List.not_mem_nil
  | some literal => simpa [appended, String.toList_append] using Text.Quoted.newline_notMem_quote literal

theorem newline_notMem_line {visit : Visit} {line : String} (shown : view.line? visit = some line) : '\n' ∉ line.toList := by
  cases view with
  | events =>
    obtain rfl := Option.some.inj shown
    cases entering : visit.entering <;> simpa [String.toList_append] using newline_notMem_name visit.kind
  | tree =>
    rw [line?_tree, Option.ite_none_right_eq_some] at shown
    obtain rfl := Option.some.inj shown.2
    simpa [String.toList_append] using ⟨newline_notMem_name visit.kind, newline_notMem_appended visit.value.literal?⟩

theorem newline_notMem_rows {row : List Char} (member : row ∈ view.rows stops) : '\n' ∉ row := by
  obtain ⟨stop, -, written⟩ := List.mem_filterMap.mp member
  obtain ⟨line, shown, rfl⟩ := Option.map_eq_some_iff.mp written
  simpa [String.toList_append, indent] using newline_notMem_line view shown

theorem rows_events (stops : List Stop) :
    events.rows stops = stops.map fun stop => eventRow stop.depth stop.visit.entering stop.visit.kind := by
  simp [rows, line?, eventRow, String.toList_append]

theorem rows_tree (stops : List Stop) :
    tree.rows stops = (stops.filter fun stop => stop.visit.entering).map fun stop =>
      nodeRow stop.depth stop.visit.kind stop.visit.value.literal? := by
  induction stops with
  | nil => rfl
  | cons stop stops ih =>
    rw [rows_cons, ih]
    cases entering : stop.visit.entering <;> simp [rows, line?_tree, entering, nodeRow, String.toList_append]

end Page

end View

theorem Forest.Sound.toList_page {f : Forest} {p : Place} (sound : f.Sound) (member : p ∈ f.places) (view : View) :
    (view.page f p.id).toList = terminated (view.rows (p.tree.stops 0)) := by
  have start : (⟨"", 0⟩ : View.Page).depth = 0 := rfl
  have kept := ((View.counts_stops 0 p.tree).foldl_add view start).2
  rw [RoseTree.map_visit_stops, ← sound.visits_eq member] at kept
  exact kept

/-- No row has a line break in it, so the lines of a page are its rows. -/
theorem Forest.Sound.lines_page {f : Forest} {p : Place} (sound : f.Sound) (member : p ∈ f.places) (view : View) :
    lines (view.page f p.id).toList = view.rows (p.tree.stops 0) ++ [[]] := by
  rw [sound.toList_page member, ← List.append_nil (terminated _),
    Text.lines_terminated_append fun row => View.newline_notMem_rows view]
  rfl

namespace View

/-- Whatever a forest has come from, and wherever in it a walk begins: when a node is entered, either view has counted the
nodes of the tree above it, and one more when a node is left; at the end it has counted down to nothing. So a visit has
as many indents as its node has ancestors, and the lines of the tree are those of the events in which a node is
entered, with the literals. -/
theorem depth_page (t : RoseTree Value) (edits : List Edit) {root : Nat} {tree : RoseTree Node} :
    let f := edits.foldl Forest.edit (Forest.ofTree t)
    let counted (view : View) (visits : List Visit) := (visits.foldl (Page.add view) ⟨"", 0⟩).depth
    let above (visit : Visit) := (tree.ancestors visit.id).length
    f.tree? root = some tree →
    (∀ view made visit rest, f.visits root = made ++ visit :: rest →
      counted view made = if visit.entering then above visit else above visit + 1) ∧
    (∀ view, counted view (f.visits root) = 0) ∧
    lines (events.page f root).toList =
      (f.visits root).map (fun visit => eventRow (above visit) visit.entering visit.kind) ++ [[]] ∧
    lines (View.tree.page f root).toList = ((f.visits root).filter Visit.entering).map
      (fun visit => nodeRow (above visit) visit.kind visit.value.literal?) ++ [[]] := by
  intro f counted above found
  have sound : f.Sound := (Forest.sound_ofTree t).edits edits
  obtain ⟨p, member, rfl, rfl⟩ := Forest.exists_place_of_tree? found
  have nodup : p.tree.ids.Nodup := sound.nodup.sublist (Forest.ids_sublist_of_mem_places member)
  have visits : f.visits p.id = (p.tree.stops 0).map Stop.visit := by
    rw [sound.visits_eq member, RoseTree.map_visit_stops]
  have depth : ∀ stop ∈ p.tree.stops 0, stop.depth = above stop.visit := fun stop inside =>
    RoseTree.depth_eq_length_ancestors nodup inside
  have start : (⟨"", 0⟩ : Page).depth = 0 := rfl
  have counts := counts_stops 0 p.tree
  rw [visits]
  refine ⟨?_, fun view => (counts.foldl_add view start).1, ?_, ?_⟩
  · intro view made visit rest parts
    obtain ⟨made, more, whole, rfl, tail⟩ := List.map_eq_append_iff.mp parts
    obtain ⟨stop, rest, rfl, rfl, rfl⟩ := List.map_eq_cons_iff.mp tail
    rw [whole] at counts
    obtain ⟨middle, first, after⟩ := counts.exists_middle
    rw [← depth stop (by simp [whole]), ← after.eq_of_stop]
    exact (first.foldl_add view start).1
  · rw [sound.lines_page member, rows_events, List.map_map]
    refine congrArg (· ++ [[]]) (List.map_congr_left fun stop inside => ?_)
    rw [depth stop inside]
    rfl
  · rw [sound.lines_page member, rows_tree, List.filter_map, List.map_map]
    refine congrArg (· ++ [[]]) (List.map_congr_left fun stop inside => ?_)
    rw [depth stop (List.mem_of_mem_filter inside)]
    rfl

/-- A walk from a paragraph of an edited document, with an extension that has just got a child. -/
theorem depth_page_paragraph :
    let t : RoseTree Value := .node .document
      [.node .paragraph [.node (.link "/u" "") [.node (.text "a\n") []], .node (.extension .underline) []]]
    let f := [Edit.add .softBreak ⟨.last, 4⟩].foldl Forest.edit (Forest.ofTree t)
    let tree : RoseTree Node := .node ⟨1, .paragraph⟩
      [.node ⟨2, .link "/u" ""⟩ [.node ⟨3, .text "a\n"⟩ []],
        .node ⟨4, .extension .underline⟩ [.node ⟨5, .softBreak⟩ []]]
    f.tree? 1 = some tree ∧ lines (View.tree.page f 1).toList =
      ["paragraph", "  link \"/u\"", "    text \"a\\n\"", "  other", "    softbreak", ""].map String.toList := by
  intro t f tree
  have found : f.tree? 1 = some tree := by decide +kernel
  refine ⟨found, ?_⟩
  rw [(depth_page t _ found).2.2.2]
  decide +kernel

end View

end Frontmark.Markup
