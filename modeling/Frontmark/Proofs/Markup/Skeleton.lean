import Frontmark.Proofs.Markup.Depth
import Frontmark.Proofs.Markup.Structural
import Frontmark.Proofs.Text.Runs

/-! What the views of a tree tell of it.

A `skeleton` keeps the nodes that a walk visits, each with a label. Its `outline` is the labels in the order of the walk
with their depths, and belongs to no other skeleton. Main statement: trees with the same view are those with the same
skeleton, of kinds for the view of events, and of kinds and literals for the view of the tree (`View.page_eq_iff`). -/

set_option autoImplicit false

namespace Frontmark.Markup

/-- The value without those of its attributes that no view shows. -/
def Value.outward : Value → Value
  | .list _ => .list {}
  | .item _ => .item {}
  | .heading .. => .heading 0 false
  | .codeBlock _ literal _ => .codeBlock "" literal false
  | .code literal _ => .code literal 0
  | .link url _ => .link url ""
  | .image url _ => .image url ""
  | .extension _ => .extension .table
  | v => v

namespace RoseTree

variable {α β : Type}

mutual

/-- The nodes that a walk visits: a node keeps its children if it opens. -/
def skeleton (label : Value → α) : RoseTree Value → RoseTree α
  | .node v cs => .node (label v) (if v.kind.opens (!cs.isEmpty) then skeletonAll label cs else [])

def skeletonAll (label : Value → α) : List (RoseTree Value) → List (RoseTree α)
  | [] => []
  | t :: ts => t.skeleton label :: skeletonAll label ts

end

mutual

/-- The labels in the order in which their nodes are entered, with the depths of these. -/
def outline (depth : Nat) : RoseTree α → List (Nat × α)
  | .node a cs => (depth, a) :: outlineAll (depth + 1) cs

def outlineAll (depth : Nat) : List (RoseTree α) → List (Nat × α)
  | [] => []
  | t :: ts => t.outline depth ++ outlineAll depth ts

end

section Skeleton

mutual

theorem skeleton_comp (f : α → β) (label : Value → α) : (t : RoseTree Value) →
    t.skeleton (f ∘ label) = (t.skeleton label).map f
  | .node v cs => by
    rw [skeleton, skeleton, map]
    split
    · rw [skeletonAll_comp f label cs]; rfl
    · rfl

theorem skeletonAll_comp (f : α → β) (label : Value → α) : (ts : List (RoseTree Value)) →
    skeletonAll (f ∘ label) ts = mapAll f (skeletonAll label ts)
  | [] => rfl
  | t :: ts => by rw [skeletonAll, skeletonAll, mapAll, skeleton_comp f label t, skeletonAll_comp f label ts]

end

/-- Labels that can be made from each other tell the same of a tree. -/
theorem skeleton_eq_iff {label : Value → α} {label' : Value → β} (f : α → β) (g : β → α)
    (forth : label' = f ∘ label) (back : label = g ∘ label') (t u : RoseTree Value) :
    t.skeleton label = u.skeleton label ↔ t.skeleton label' = u.skeleton label' := by
  constructor
  · intro same
    rw [forth, skeleton_comp, skeleton_comp, same]
  · intro same
    rw [back, skeleton_comp, skeleton_comp, same]

end Skeleton

section Outline

theorem lt_of_mem_head?_outlineAll {depth : Nat} {ts : List (RoseTree α)} {rest : List (Nat × α)}
    (shallow : ∀ row ∈ rest.head?, row.1 < depth) : ∀ row ∈ (outlineAll depth ts ++ rest).head?, row.1 < depth + 1 := by
  cases ts with
  | nil => exact fun row first => Nat.lt_succ_of_lt (shallow row first)
  | cons t ts =>
    obtain ⟨a, cs⟩ := t
    intro row first
    obtain rfl : (depth, a) = row := by simpa [outlineAll, outline] using first
    exact Nat.lt_succ_self depth

/-- What is deeper than the rows that follow belongs to the same trees. -/
theorem outlineAll_append_inj {depth : Nat} {rest rest' : List (Nat × α)} (shallow : ∀ row ∈ rest.head?, row.1 < depth)
    (shallow' : ∀ row ∈ rest'.head?, row.1 < depth) : (ts us : List (RoseTree α)) →
    outlineAll depth ts ++ rest = outlineAll depth us ++ rest' → ts = us ∧ rest = rest'
  | [], [], same => ⟨rfl, same⟩
  | [], .node b ds :: us, same => by
    -- the rest would begin with a row that is too deep for it
    have deep := shallow (depth, b) (by rw [show rest = _ from same]; rfl)
    exact absurd deep (Nat.lt_irrefl depth)
  | .node a cs :: ts, [], same => by
    have deep := shallow' (depth, a) (by rw [show rest' = _ from same.symm]; rfl)
    exact absurd deep (Nat.lt_irrefl depth)
  | .node a cs :: ts, .node b ds :: us, same => by
    simp only [outlineAll, outline, List.cons_append, List.append_assoc, List.cons.injEq, Prod.mk.injEq,
      true_and] at same
    obtain ⟨rfl, same⟩ := same
    -- the siblings and what comes after them are the shallow rest behind the children
    obtain ⟨rfl, later⟩ := outlineAll_append_inj (lt_of_mem_head?_outlineAll shallow)
      (lt_of_mem_head?_outlineAll shallow') cs ds same
    obtain ⟨rfl, rfl⟩ := outlineAll_append_inj shallow shallow' ts us later
    exact ⟨rfl, rfl⟩

theorem outline_injective (depth : Nat) : Function.Injective (outline depth : RoseTree α → List (Nat × α)) := by
  intro t u same
  have alone (t : RoseTree α) : outlineAll depth [t] ++ [] = t.outline depth := by simp [outlineAll]
  have nothing : ∀ row ∈ ([] : List (Nat × α)).head?, row.1 < depth := by simp
  exact List.head_eq_of_cons_eq (outlineAll_append_inj nothing nothing [t] [u] (by rw [alone, alone, same])).1

end Outline

section Stops

mutual

/-- The stops at which a node is entered make up the outline of the skeleton. -/
theorem map_entered_stops (label : Value → α) (depth : Nat) : (t : RoseTree Node) →
    ((t.stops depth).filter fun stop => stop.visit.entering).map (fun stop => (stop.depth, label stop.visit.value)) =
      (t.plain.skeleton label).outline depth
  | .node n cs => by
    have own (entering : Bool) : Visit.value ⟨.node n cs, entering⟩ = n.value := rfl
    have inner := map_entered_stopsAll label (depth + 1) cs
    rw [plain, map, skeleton, isEmpty_mapAll, stops]
    split
    · simp [outline, own, inner]
    · simp [outline, outlineAll, own]

theorem map_entered_stopsAll (label : Value → α) (depth : Nat) : (ts : List (RoseTree Node)) →
    ((stopsAll depth ts).filter fun stop => stop.visit.entering).map (fun stop => (stop.depth, label stop.visit.value)) =
      outlineAll depth (skeletonAll label (mapAll Node.value ts))
  | [] => rfl
  | t :: ts => by
    rw [stopsAll, List.filter_append, List.map_append, map_entered_stops label depth t, map_entered_stopsAll label depth ts,
      mapAll, skeletonAll, outlineAll, plain]

end

mutual

/-- All stops, with those at which a node is left, as the skeleton of kinds has them. -/
def tour (depth : Nat) : RoseTree Kind → List (Nat × Bool × Kind)
  | .node kind cs =>
    (depth, true, kind) :: if kind.opens (!cs.isEmpty) then tourAll (depth + 1) cs ++ [(depth, false, kind)] else []

def tourAll (depth : Nat) : List (RoseTree Kind) → List (Nat × Bool × Kind)
  | [] => []
  | t :: ts => t.tour depth ++ tourAll depth ts

end

theorem isEmpty_skeletonAll (label : Value → α) (ts : List (RoseTree Value)) :
    (skeletonAll label ts).isEmpty = ts.isEmpty := by
  cases ts <;> rfl

/-- A node that does not open does not open either when its children are left out. -/
theorem opens_of_not_opens {kind : Kind} {hasChild : Bool} (closed : ¬ kind.opens hasChild = true) :
    kind.opens false = false := by
  cases kind <;> simp_all [Kind.opens, Kind.isContainer]

mutual

theorem map_stops (depth : Nat) : (t : RoseTree Node) →
    (t.stops depth).map (fun stop => (stop.depth, stop.visit.entering, stop.visit.kind)) =
      (t.plain.skeleton Value.kind).tour depth
  | .node n cs => by
    have own (entering : Bool) : Visit.kind ⟨.node n cs, entering⟩ = n.value.kind := rfl
    have inner := map_stopsAll (depth + 1) cs
    have kept := isEmpty_mapAll Node.value cs
    rw [plain, map, skeleton, kept, stops]
    split
    · next opens => simp [tour, isEmpty_skeletonAll, kept, opens, own, inner]
    · next closed => simp [tour, opens_of_not_opens closed, own]

theorem map_stopsAll (depth : Nat) : (ts : List (RoseTree Node)) →
    (stopsAll depth ts).map (fun stop => (stop.depth, stop.visit.entering, stop.visit.kind)) =
      tourAll depth (skeletonAll Value.kind (mapAll Node.value ts))
  | [] => rfl
  | t :: ts => by
    rw [stopsAll, List.map_append, map_stops depth t, map_stopsAll depth ts, mapAll, skeletonAll, tourAll, plain]

end

end Stops

end RoseTree

namespace View

section Rows

theorem indent_append_inj {depth depth' : Nat} {s s' : List Char} (stop : s.head? ≠ some ' ') (stop' : s'.head? ≠ some ' ')
    (same : (indent depth).toList ++ s = (indent depth').toList ++ s') : depth = depth' ∧ s = s' := by
  simp only [indent, String.toList_ofList] at same
  have spaces := congrArg (List.takeWhile (· = ' ')) same
  rw [Text.takeWhile_run _ stop, Text.takeWhile_run _ stop'] at spaces
  have length := congrArg List.length spaces
  simp only [List.length_replicate] at length
  obtain rfl : depth = depth' := by omega
  exact ⟨rfl, List.append_cancel_left same⟩

theorem head?_name (kind : Kind) : kind.name.toList.head? ≠ some ' ' ∧ kind.name.toList ≠ [] := by
  cases kind <;> decide

theorem space_notMem_name (kind : Kind) : ' ' ∉ kind.name.toList := by
  cases kind <;> decide

/-- The kind with this name. -/
def kindOfName? (name : String) : Option Kind :=
  [Kind.document, .blockQuote, .list, .item, .paragraph, .heading, .codeBlock, .htmlBlock, .thematicBreak, .text,
    .softBreak, .lineBreak, .code, .htmlInline, .emph, .strong, .link, .image, .other].find? (·.name = name)

theorem name_injective : Function.Injective Kind.name := by
  have found (kind : Kind) : kindOfName? kind.name = some kind := by cases kind <;> decide
  intro kind kind' same
  rw [← Option.some.injEq, ← found kind, same, found kind']

theorem head?_name_append (kind : Kind) (rest : List Char) : (kind.name.toList ++ rest).head? ≠ some ' ' := by
  rw [List.head?_append_of_ne_nil _ (head?_name kind).2]
  exact (head?_name kind).1

theorem eventRow_inj {depth depth' : Nat} {entering entering' : Bool} {kind kind' : Kind}
    (same : eventRow depth entering kind = eventRow depth' entering' kind') :
    depth = depth' ∧ entering = entering' ∧ kind = kind' := by
  have visible (entering : Bool) (kind : Kind) :
      ((if entering then "enter " else "leave ") ++ kind.name).toList.head? ≠ some ' ' := by
    cases entering <;> simp
  obtain ⟨rfl, line⟩ := indent_append_inj (visible entering kind) (visible entering' kind') same
  cases entering <;> cases entering'
  · exact ⟨rfl, rfl, name_injective (String.toList_inj.mp (by simpa using line))⟩
  · simp at line
  · simp at line
  · exact ⟨rfl, rfl, name_injective (String.toList_inj.mp (by simpa using line))⟩

theorem appended_injective : Function.Injective appended := by
  intro literal? literal?' same
  cases literal? with
  | none =>
    cases literal?' with
    | none => rfl
    | some literal' => simp [appended] at same
  | some literal =>
    cases literal?' with
    | none => simp [appended] at same
    | some literal' =>
      have quoted : Text.Quoted.quote literal = Text.Quoted.quote literal' := by
        simpa [appended, ← String.toList_inj] using same
      rw [Text.Quoted.quote_injective quoted]

/-- The name of a kind is what stands before the first space. -/
theorem takeWhile_name (kind : Kind) (literal? : Option String) :
    (kind.name.toList ++ (appended literal?).toList).takeWhile (· ≠ ' ') = kind.name.toList := by
  have inside : ∀ c ∈ kind.name.toList, decide (c ≠ ' ') = true := fun c member =>
    decide_eq_true fun space => space_notMem_name kind (space ▸ member)
  rw [List.takeWhile_append_of_pos inside]
  cases literal? <;> simp [appended]

theorem nodeRow_inj {depth depth' : Nat} {kind kind' : Kind} {literal? literal?' : Option String}
    (same : nodeRow depth kind literal? = nodeRow depth' kind' literal?') :
    depth = depth' ∧ kind = kind' ∧ literal? = literal?' := by
  obtain ⟨rfl, line⟩ := indent_append_inj (head?_name_append kind _) (head?_name_append kind' _) same
  have names := congrArg (List.takeWhile (· ≠ ' ')) line
  rw [takeWhile_name, takeWhile_name] at names
  obtain rfl := name_injective (String.toList_inj.mp names)
  exact ⟨rfl, rfl, appended_injective (String.toList_inj.mp (List.append_cancel_left line))⟩

end Rows

section Page

variable {t u : RoseTree Node}

theorem rows_events_eq_iff : events.rows (t.stops 0) = events.rows (u.stops 0) ↔
    t.plain.skeleton Value.kind = u.plain.skeleton Value.kind := by
  have rows (t : RoseTree Node) : events.rows (t.stops 0) =
      ((t.plain.skeleton Value.kind).tour 0).map fun row => eventRow row.1 row.2.1 row.2.2 := by
    rw [rows_events, ← RoseTree.map_stops, List.map_map]
    rfl
  -- without the stops at which nodes are left, the tour is the outline
  have outline (t : RoseTree Node) : (((t.plain.skeleton Value.kind).tour 0).filter fun row => row.2.1).map
      (fun row => (row.1, row.2.2)) = (t.plain.skeleton Value.kind).outline 0 := by
    rw [← RoseTree.map_stops, List.filter_map, List.map_map, ← RoseTree.map_entered_stops]
    rfl
  constructor
  · intro same
    rw [rows, rows] at same
    have tours := List.map_injective_iff.mpr (fun row row' found => ?_) same
    · exact RoseTree.outline_injective 0 (by rw [← outline, tours, outline])
    · obtain ⟨depth, entering, kind⟩ := eventRow_inj found
      exact Prod.ext depth (Prod.ext entering kind)
  · intro same
    rw [rows, rows, same]

theorem rows_tree_eq_iff : tree.rows (t.stops 0) = tree.rows (u.stops 0) ↔
    t.plain.skeleton (fun v => (v.kind, v.literal?)) = u.plain.skeleton (fun v => (v.kind, v.literal?)) := by
  have rows (t : RoseTree Node) : tree.rows (t.stops 0) =
      ((t.plain.skeleton fun v => (v.kind, v.literal?)).outline 0).map fun row => nodeRow row.1 row.2.1 row.2.2 := by
    rw [rows_tree, ← RoseTree.map_entered_stops, List.map_map]
    rfl
  constructor
  · intro same
    rw [rows, rows] at same
    refine RoseTree.outline_injective 0 (List.map_injective_iff.mpr (fun row row' found => ?_) same)
    obtain ⟨depth, kind, literal⟩ := nodeRow_inj found
    exact Prod.ext depth (Prod.ext kind literal)
  · intro same
    rw [rows, rows, same]

end Page

/-- The value as far as its kind and its literal tell. -/
def outwardOf : Kind × Option String → Value
  | (.document, _) => .document
  | (.blockQuote, _) => .blockQuote
  | (.list, _) => .list {}
  | (.item, _) => .item {}
  | (.paragraph, _) => .paragraph
  | (.heading, _) => .heading 0 false
  | (.codeBlock, literal?) => .codeBlock "" (literal?.getD "") false
  | (.htmlBlock, literal?) => .htmlBlock (literal?.getD "")
  | (.thematicBreak, _) => .thematicBreak
  | (.text, literal?) => .text (literal?.getD "")
  | (.softBreak, _) => .softBreak
  | (.lineBreak, _) => .lineBreak
  | (.code, literal?) => .code (literal?.getD "") 0
  | (.htmlInline, literal?) => .htmlInline (literal?.getD "")
  | (.emph, _) => .emph
  | (.strong, _) => .strong
  | (.link, literal?) => .link (literal?.getD "") ""
  | (.image, literal?) => .image (literal?.getD "") ""
  | (.other, _) => .extension .table

/-- Kind and literal are what is outward of a value. -/
theorem skeleton_outward_eq_iff (t u : RoseTree Value) :
    t.skeleton (fun v => (v.kind, v.literal?)) = u.skeleton (fun v => (v.kind, v.literal?)) ↔
      t.skeleton Value.outward = u.skeleton Value.outward := by
  have back : Value.outward = outwardOf ∘ fun v => (v.kind, v.literal?) := by
    funext v
    cases v <;> rfl
  have kept : (fun v : Value => (v.kind, v.literal?)) = (fun v => (v.kind, v.literal?)) ∘ Value.outward := by
    funext v
    cases v <;> rfl
  exact RoseTree.skeleton_eq_iff outwardOf (fun v => (v.kind, v.literal?)) back kept t u

/-- Of a tree, wherever it stands in whatever forest, the view of events tells just the kinds of the nodes that a walk
visits, and the view of the tree their literals, too, whatever characters are in these. -/
theorem page_eq_iff (t t' : RoseTree Value) (edits edits' : List Edit) {root root' : Nat} {tree tree' : RoseTree Node} :
    let f := edits.foldl Forest.edit (Forest.ofTree t)
    let f' := edits'.foldl Forest.edit (Forest.ofTree t')
    f.tree? root = some tree → f'.tree? root' = some tree' →
    (events.page f root = events.page f' root' ↔ tree.plain.skeleton Value.kind = tree'.plain.skeleton Value.kind) ∧
    (View.tree.page f root = View.tree.page f' root' ↔
      tree.plain.skeleton Value.outward = tree'.plain.skeleton Value.outward) := by
  intro f f' found found'
  have sound : f.Sound := (Forest.sound_ofTree t).edits edits
  have sound' : f'.Sound := (Forest.sound_ofTree t').edits edits'
  obtain ⟨p, member, rfl, rfl⟩ := Forest.exists_place_of_tree? found
  obtain ⟨p', member', rfl, rfl⟩ := Forest.exists_place_of_tree? found'
  have same_iff (view : View) : view.page f p.id = view.page f' p'.id ↔
      view.rows (p.tree.stops 0) = view.rows (p'.tree.stops 0) := by
    constructor
    · intro same
      have cut := congrArg (fun page => Text.lines page.toList) same
      rwa [sound.lines_page member, sound'.lines_page member', List.append_left_inj] at cut
    · intro same
      rw [← String.toList_inj, sound.toList_page member, sound'.toList_page member', same]
  exact ⟨(same_iff events).trans rows_events_eq_iff,
    (same_iff View.tree).trans (rows_tree_eq_iff.trans (skeleton_outward_eq_iff _ _))⟩

/-- A literal that imitates the lines of a view is told from the nodes that it imitates, and children of a leaf are not
told at all. -/
theorem page_eq_iff_imitated :
    let text (s : String) : RoseTree Value := .node (.text s) []
    let t : RoseTree Value := .node .document [.node .paragraph [text "a", text "b"]]
    let t' : RoseTree Value := .node .document [.node .paragraph [text "a\"\n    text \"b"]]
    let t'' : RoseTree Value := .node .document [.node .paragraph [text "a", .node (.text "b") [text "c"]]]
    (∀ u ∈ [t, t', t''], (Forest.ofTree u).tree? 0 = some (u.number 0).1) ∧
      View.tree.page (Forest.ofTree t) 0 ≠ View.tree.page (Forest.ofTree t') 0 ∧
      View.tree.page (Forest.ofTree t) 0 = View.tree.page (Forest.ofTree t'') 0 := by
  intro text t t' t''
  have found : ∀ u ∈ [t, t', t''], (Forest.ofTree u).tree? 0 = some (u.number 0).1 := by decide +kernel
  have first := (page_eq_iff t t' [] [] (found t (by simp)) (found t' (by simp))).2
  have second := (page_eq_iff t t'' [] [] (found t (by simp)) (found t'' (by simp))).2
  rw [RoseTree.plain_number, RoseTree.plain_number] at first second
  exact ⟨found, mt first.mp (by decide +kernel), second.mpr (by decide +kernel)⟩

end View

end Frontmark.Markup
