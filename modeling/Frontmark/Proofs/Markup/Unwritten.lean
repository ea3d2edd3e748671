import Frontmark.Proofs.Markup.Structural
import Mathlib.Logic.Relation

/-! What of a tree its rendering does not show.

`Replaces` lists what can stand in place of a node without any difference, and `Rewrites` does such a replacement at any
position. Main statement: no series of replacements changes the rendering of the whole tree (`render_eq_of_rewrites`). -/

set_option autoImplicit false

namespace Frontmark.Markup

/-- Values that differ only in what is never written. -/
inductive Value.Alike : Value → Value → Prop where
  | extension (c d : Extension) : Alike (.extension c) (.extension d)
  | htmlInline (literal literal' : String) : Alike (.htmlInline literal) (.htmlInline literal')
  | link (url title title' : String) : Alike (.link url title) (.link url title')
  | image (url title url' title' : String) : Alike (.image url title) (.image url' title')
  | code (literal : String) (ticks ticks' : Nat) : Alike (.code literal ticks) (.code literal ticks')
  | codeBlock (info literal : String) (fenced fenced' : Bool) :
      Alike (.codeBlock info literal fenced) (.codeBlock info literal fenced')
  | heading (level : Nat) (setext setext' : Bool) : Alike (.heading level setext) (.heading level setext')
  | list (style style' : ListStyle) : Alike (.list style) (.list style')
  | item (style : ListStyle) (start : Nat) (tight : Bool) : Alike (.item style) (.item { style with start, tight })
  | hardBreak : Alike .softBreak .lineBreak
  | softBreak : Alike .lineBreak .softBreak

/-- Values of nodes of which nothing but their children is written. -/
inductive Value.Silent : Value → Prop where
  | document : Silent .document
  | list (style : ListStyle) : Silent (.list style)
  | image (url title : String) : Silent (.image url title)
  | extension (construct : Extension) : Silent (.extension construct)

/-- The kinds of which no children are visited. -/
def leafKinds : List Kind :=
  [.text, .softBreak, .lineBreak, .code, .htmlInline, .codeBlock, .htmlBlock, .thematicBreak]

namespace RoseTree

/-- What can stand in place of a node: a value that is alike, anything below a leaf, the children of a silent node, or a
text in two parts. -/
inductive Replaces : RoseTree Value → List (RoseTree Value) → Prop where
  | value {v w : Value} (cs : List (RoseTree Value)) : v.Alike w → Replaces (.node v cs) [.node w cs]
  | leaf {v : Value} (cs ds : List (RoseTree Value)) : v.kind ∈ leafKinds →
      Replaces (.node v cs) [.node v ds]
  | children {v : Value} (cs : List (RoseTree Value)) : v.Silent → Replaces (.node v cs) cs
  | parts (first rest : String) (cs ds es : List (RoseTree Value)) :
      Replaces (.node (.text (first ++ rest)) cs) [.node (.text first) ds, .node (.text rest) es]

/-- One replacement among siblings, or at any depth below one of them. -/
inductive Rewrites : List (RoseTree Value) → List (RoseTree Value) → Prop where
  | here {t : RoseTree Value} {us : List (RoseTree Value)} (before after : List (RoseTree Value)) : Replaces t us →
      Rewrites (before ++ t :: after) (before ++ us ++ after)
  | inside {cs ds : List (RoseTree Value)} (before : List (RoseTree Value)) (v : Value) (after : List (RoseTree Value)) :
      Rewrites cs ds → Rewrites (before ++ .node v cs :: after) (before ++ .node v ds :: after)

theorem spell_eq_of_alike {v w : Value} (alike : v.Alike w) (cs : List (RoseTree Value)) :
    spell (.node v cs) = spell (.node w cs) := by
  cases alike <;> simp [spell]

/-- Whatever is below a leaf, the leaf has its own text only. -/
theorem spell_leaf {v : Value} (leaf : v.kind ∈ leafKinds) (cs ds : List (RoseTree Value)) :
    spell (.node v cs) = spell (.node v ds) := by
  cases v with
  | text | softBreak | lineBreak | code | htmlInline | codeBlock | htmlBlock | thematicBreak => rfl
  | _ => simp [Value.kind, leafKinds] at leaf

theorem spell_silent {v : Value} (silent : v.Silent) (cs : List (RoseTree Value)) : spell (.node v cs) = spellAll cs := by
  cases silent <;> simp [spell]

theorem Replaces.spellAll_eq {t : RoseTree Value} {us : List (RoseTree Value)} (replaces : Replaces t us) :
    spellAll us = t.spell := by
  cases replaces with
  | value cs alike => simp [spellAll, spell_eq_of_alike alike cs]
  | leaf cs ds leaf => simp [spellAll, spell_leaf leaf cs ds]
  | children cs silent => exact (spell_silent silent _).symm
  | parts first rest cs ds es => simp [spellAll, spell]

theorem Rewrites.spellAll_eq {ts us : List (RoseTree Value)} (rewrites : Rewrites ts us) : spellAll ts = spellAll us := by
  induction rewrites with
  | here before after replaces =>
    rw [spellAll_append, spellAll_append, spellAll_append, spellAll, replaces.spellAll_eq, String.append_assoc]
  | inside before v after _ ih =>
    rw [spellAll_append, spellAll_append, spellAll, spellAll, spell_congr v ih]

theorem spellAll_eq_of_series {ts us : List (RoseTree Value)} (series : Relation.EqvGen Rewrites ts us) :
    spellAll ts = spellAll us := by
  induction series with
  | rel ts us rewrites => exact rewrites.spellAll_eq
  | refl ts => rfl
  | symm ts us _ ih => exact ih.symm
  | trans ts us vs _ _ first second => exact first.trans second

end RoseTree

open RoseTree (Rewrites)

/-- Replacements one after the other, made or taken back wherever in the tree, leave its rendering as it is. -/
theorem render_eq_of_rewrites {t u : RoseTree Value} (series : Relation.EqvGen Rewrites [t] [u]) : render t = render u := by
  have same := RoseTree.spellAll_eq_of_series series
  simp only [RoseTree.spellAll, String.append_empty] at same
  rw [render_eq, render_eq, RoseTree.out_eq_spell, RoseTree.out_eq_spell, same]

/-- A list and an image are dissolved, a strikethrough in the image with it, its text is put in two parts, and a line is
broken the other way. -/
theorem render_eq_of_rewrites_dissolved :
    let text (s : String) : RoseTree Value := .node (.text s) []
    let t : RoseTree Value := .node .document [.node (.list {}) [.node (.item {}) [.node .paragraph
      [.node (.image "/u" "") [.node (.extension .strikethrough) [text "ab"]], .node .softBreak [], .node (.code "c" 1) []]]]]
    let u : RoseTree Value := .node .document [.node (.item { start := 3, tight := true }) [.node .paragraph
      [text "a", text "b", .node .lineBreak [], .node (.code "c" 2) [text "d"]]]]
    Relation.EqvGen Rewrites [t] [u] ∧ render t = render u ∧ render u = "* ab\n`c`\n" := by
  intro text t u
  -- All replacements but the first two are in the paragraph, three levels down.
  have line {cs ds : List (RoseTree Value)} (item : Value) (rewrites : Rewrites cs ds) : Relation.EqvGen Rewrites
      [.node .document [.node item [.node .paragraph cs]]] [.node .document [.node item [.node .paragraph ds]]] :=
    .rel _ _ (.inside [] _ [] (.inside [] _ [] (.inside [] _ [] rewrites)))
  have series : Relation.EqvGen Rewrites [t] [u] := by
    refine .trans _ _ _ (.rel _ _ (.inside [] _ [] (.here [] [] (.children _ (.list _))))) ?_
    refine .trans _ _ _ (.rel _ _ (.inside [] _ [] (.here [] [] (.value _ (.item _ 3 true))))) ?_
    refine .trans _ _ _ (line _ (.here [] _ (.children _ (.image _ _)))) ?_
    refine .trans _ _ _ (line _ (.here [] _ (.children _ (.extension _)))) ?_
    refine .trans _ _ _ (line _ (.here [] _ (.parts "a" "b" _ [] []))) ?_
    refine .trans _ _ _ (line _ (.here [text "a", text "b"] _ (.value _ .hardBreak))) ?_
    refine .trans _ _ _ (line _ (.here [text "a", text "b", .node .lineBreak []] _ (.value _ (.code _ _ 2)))) ?_
    exact line _ (.here [text "a", text "b", .node .lineBreak []] _ (.leaf _ [text "d"] (by decide)))
  exact ⟨series, render_eq_of_rewrites series, by decide +kernel⟩

end Frontmark.Markup
