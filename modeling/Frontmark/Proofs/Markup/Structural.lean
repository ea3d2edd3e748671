import Frontmark.Proofs.Markup.Output
import Frontmark.Proofs.Markup.Walk

/-! What a rendering says of the shape of its tree.

`RoseTree.spell` is the text of a tree, one construct after another. Main statement: wherever a node stands in a
forest, what a walk from it writes is the text of its tree, without the line break at the very end. -/

set_option autoImplicit false

namespace Frontmark.Markup

namespace RoseTree

mutual

/-- What each construct writes before its children, in their place and after them. -/
def spell : RoseTree Value → String
  | .node v cs =>
    match v with
    | .document | .list _ | .image .. | .extension _ => spellAll cs
    | .paragraph => spellAll cs ++ "

"
    | .blockQuote => "> " ++ spellAll cs
    | .item style => (if style.ordered then if style.delimiter = .period then "1. " else "1) " else "* ") ++ spellAll cs
    | .heading level _ => String.ofList (List.replicate level '#') ++ " " ++ spellAll cs
    | .emph => "*" ++ spellAll cs ++ "*"
    | .strong => "**" ++ spellAll cs ++ "**"
    | .link url _ => "[" ++ spellAll cs ++ "](" ++ url ++ ")"
    | .text literal | .htmlBlock literal => literal
    | .softBreak | .lineBreak => "
"
    | .code literal _ => "`" ++ literal ++ "`"
    | .htmlInline _ => "`"
    | .codeBlock info literal _ => "``` " ++ info ++ "
" ++ literal ++ "```

"
    | .thematicBreak => "---

"

def spellAll : List (RoseTree Value) → String
  | [] => ""
  | t :: ts => t.spell ++ spellAll ts

end

theorem spellAll_append (ts us : List (RoseTree Value)) : spellAll (ts ++ us) = spellAll ts ++ spellAll us := by
  induction ts with
  | nil => simp [spellAll]
  | cons t ts ih => simp [spellAll, ih, String.append_assoc]

/-- Of the children of a node nothing but their text counts. -/
theorem spell_congr (v : Value) {cs ds : List (RoseTree Value)} (same : spellAll cs = spellAll ds) :
    spell (.node v cs) = spell (.node v ds) := by
  cases v <;> simp [spell, same]

mutual

theorem out_eq_spell : (t : RoseTree Value) → t.out = t.spell
  | .node v cs => by
    have inner := outAll_eq_spellAll cs
    rw [out]
    cases v with
    | extension construct =>
      cases cs with
      | nil => simp [Value.entering?, Value.kind, Kind.opens, Kind.isContainer, spell, spellAll]
      | cons c cs => simp [Value.entering?, Value.leaving?, Value.kind, Kind.opens, Kind.isContainer, spell, inner]
    | item style =>
      cases delimiter : style.delimiter <;> cases ordered : style.ordered <;>
        simp [Value.entering?, Value.leaving?, Value.kind, Kind.opens, Kind.isContainer, ListStyle.marker, spell, inner,
          delimiter, ordered]
    | _ =>
      simp [Value.entering?, Value.leaving?, Value.kind, Kind.opens, Kind.isContainer, spell, inner, String.append_assoc]

theorem outAll_eq_spellAll : (ts : List (RoseTree Value)) → outAll ts = spellAll ts
  | [] => rfl
  | t :: ts => by rw [outAll, spellAll, out_eq_spell t, outAll_eq_spellAll ts]

end

theorem isEmpty_mapAll {α β : Type} (f : α → β) (ts : List (RoseTree α)) : (mapAll f ts).isEmpty = ts.isEmpty := by
  cases ts <;> rfl

mutual

theorem written_visits : (t : RoseTree Node) → written t.visits = t.plain.out.toList
  | .node n cs => by
    have inner := written_visitsAll cs
    rw [plain, map, out, isEmpty_mapAll, visits]
    split
    · simp only [written, List.flatMap_cons, List.flatMap_append, List.flatMap_nil, String.toList_append]
      rw [written] at inner
      rw [inner]
      simp [Visit.text, Visit.value, value]
    · simp [written, Visit.text, Visit.value, value]

/-- A walk writes a tree by entering it, writing its children and leaving it, if it opens. -/
theorem written_visitsAll : (ts : List (RoseTree Node)) →
    written (visitsAll ts) = (outAll (mapAll Node.value ts)).toList
  | [] => rfl
  | t :: ts => by
    have first := written_visits t
    have rest := written_visitsAll ts
    rw [visitsAll, mapAll, outAll, String.toList_append, ← rest, ← plain, ← first, written, List.flatMap_append]
    rfl

end

mutual

theorem plain_number (first : Nat) : (t : RoseTree Value) → (t.number first).1.plain = t
  | .node v cs => by rw [number, plain, map, mapAll_numberAll (first + 1) cs]

theorem mapAll_numberAll (first : Nat) : (ts : List (RoseTree Value)) → mapAll Node.value (numberAll first ts).1 = ts
  | [] => rfl
  | t :: ts => by rw [numberAll, mapAll, ← plain, plain_number first t, mapAll_numberAll _ ts]

end

end RoseTree

theorem Forest.Sound.render_eq {f : Forest} (sound : f.Sound) {p : Place} (member : p ∈ f.places) :
    f.render p.id = dropLineBreak p.tree.plain.out := by
  have whole : (f.visits p.id).foldl (fun text visit => text ++ visit.text) "" = p.tree.plain.out := by
    rw [sound.visits_eq member, ← String.toList_inj, toList_foldl_text, RoseTree.written_visits]
    rfl
  rw [← whole]
  rfl

theorem render_eq (t : RoseTree Value) : render t = dropLineBreak t.out := by
  let root : Place := ⟨(t.number 0).1, none, none⟩
  have member : root ∈ (Forest.ofTree t).places := by
    rw [Forest.places_eq]
    simp [Forest.ofTree, RoseTree.mem_placesAmong_cons, RoseTree.mem_places, root]
  have first : root.id = 0 := by
    cases t
    rfl
  have whole := (Forest.sound_ofTree t).render_eq member
  rw [first, RoseTree.plain_number] at whole
  exact whole

theorem dropLineBreak_append (start : String) : dropLineBreak (start ++ "\n") = start := by
  simp [dropLineBreak]

theorem dropLineBreak_of_ne {text : String} (open_ : ∀ start, text ≠ start ++ "\n") : dropLineBreak text = text := by
  refine if_neg fun ended => ?_
  obtain ⟨start, whole⟩ := List.getLast?_eq_some_iff.mp ended
  refine open_ (String.ofList start) (String.toList_inj.mp ?_)
  simp [whole]

/-- Texts without a line break at their end, or with two of them there, are told apart. -/
theorem eq_of_dropLineBreak_eq {s t : String} (ends : ∀ start, s = start ++ "\n" → ∃ more, start = more ++ "\n")
    (ends' : ∀ start, t = start ++ "\n" → ∃ more, start = more ++ "\n") (same : dropLineBreak s = dropLineBreak t) :
    s = t := by
  by_cases open_ : ∀ start, s ≠ start ++ "\n" <;> by_cases open' : ∀ start, t ≠ start ++ "\n"
  · rwa [dropLineBreak_of_ne open_, dropLineBreak_of_ne open'] at same
  · push Not at open'
    obtain ⟨start, rfl⟩ := open'
    obtain ⟨more, rfl⟩ := ends' start rfl
    rw [dropLineBreak_of_ne open_, dropLineBreak_append] at same
    exact absurd same (open_ more)
  · push Not at open_
    obtain ⟨start, rfl⟩ := open_
    obtain ⟨more, rfl⟩ := ends start rfl
    rw [dropLineBreak_of_ne open', dropLineBreak_append] at same
    exact absurd same.symm (open' more)
  · push Not at open_ open'
    obtain ⟨start, rfl⟩ := open_
    obtain ⟨start', rfl⟩ := open'
    rw [dropLineBreak_append, dropLineBreak_append] at same
    rw [same]

/-- Whatever a forest has come from, and wherever in it a node stands: the rendering of the node is the text of its
tree, less one line break at the end if there is one. The shape alone decides on that text. -/
theorem render_subtree (t : RoseTree Value) (edits : List Edit) {root : Nat} {tree : RoseTree Node} :
    let f := edits.foldl Forest.edit (Forest.ofTree t)
    let out := tree.plain.out
    f.tree? root = some tree →
    (∀ start, out = start ++ "\n" → f.render root = start) ∧
    ((∀ start, out ≠ start ++ "\n") → f.render root = out) ∧
    out = tree.plain.spell := by
  intro f out found
  obtain ⟨p, member, rfl, rfl⟩ := Forest.exists_place_of_tree? found
  have whole : f.render p.id = dropLineBreak out := ((Forest.sound_ofTree t).edits edits).render_eq member
  refine ⟨?_, ?_, RoseTree.out_eq_spell _⟩
  · intro start ended
    rw [whole, ended, dropLineBreak_append]
  · intro open_
    rw [whole, dropLineBreak_of_ne open_]

/-- A paragraph between two others, in which a code span and a footnote have been given children: those of the
extension are written, those of the code are not. -/
theorem render_subtree_middle :
    let text (s : String) : RoseTree Value := .node (.text s) []
    let t : RoseTree Value := .node .document
      [.node .paragraph [text "a"],
        .node .paragraph [.node (.code "b" 1) [text "c"], .node (.extension (.footnoteReference "d")) [text "e"],
          .node (.extension .table) []],
        .node .paragraph [text "f"]]
    let f := [Edit.add (.text "g") ⟨.last, 3⟩].foldl Forest.edit (Forest.ofTree t)
    (f.tree? 3).isSome ∧ f.render 3 = "\x60b\x60eg\n" := by
  intro text t f
  obtain ⟨tree, found⟩ : ∃ tree, f.tree? 3 = some tree := Option.isSome_iff_exists.mp (by decide +kernel)
  have shape : tree.plain.out = "\x60b\x60eg\n" ++ "\n" := by
    have same : (f.tree? 3).map (fun tree => tree.plain.out) = some ("\x60b\x60eg\n" ++ "\n") := by decide +kernel
    rwa [found, Option.map_some, Option.some.injEq] at same
  exact ⟨by rw [found]; rfl, (render_subtree t _ found).1 _ shape⟩

end Frontmark.Markup
