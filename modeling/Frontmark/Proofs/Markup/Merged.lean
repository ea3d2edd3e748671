import Frontmark.Proofs.Body.Calm

/-! Trees up to what is sure not to show: where a text is divided, and which items make up one list.

Main statement: a tree and its merged form have the same rendering (`render_merged`). -/

set_option autoImplicit false

namespace Frontmark.Markup

open Frontmark.Body (joinTexts spellAll_joinTexts)

namespace RoseTree

mutual

/-- What stands in place of a tree among merged trees: its items in place of a list. -/
def spliced : RoseTree Value → List (RoseTree Value)
  | .node v cs =>
    match v with
    | .list _ => splicedAll cs
    | _ => [.node v (joinTexts (splicedAll cs))]

def splicedAll : List (RoseTree Value) → List (RoseTree Value)
  | [] => []
  | t :: ts => t.spliced ++ splicedAll ts

end

/-- The tree with neighbouring texts as one text, and without the lists below its root, whose items are left. -/
def merged : RoseTree Value → RoseTree Value
  | .node v cs => .node v (joinTexts (splicedAll cs))

theorem splicedAll_append (ts us : List (RoseTree Value)) : splicedAll (ts ++ us) = splicedAll ts ++ splicedAll us := by
  induction ts with
  | nil => rfl
  | cons t ts ih => rw [List.cons_append, splicedAll, ih, splicedAll, List.append_assoc]

mutual

theorem spellAll_spliced : (t : RoseTree Value) → spellAll t.spliced = t.spell
  | .node v cs => by
    have inner := spellAll_splicedAll cs
    have whole : spellAll [.node v (joinTexts (splicedAll cs))] = spell (.node v cs) := by
      rw [spellAll, spellAll, String.append_empty]
      exact spell_congr v ((spellAll_joinTexts _).trans inner)
    cases v with
    | list style => exact inner
    | _ => exact whole

theorem spellAll_splicedAll : (ts : List (RoseTree Value)) → spellAll (splicedAll ts) = spellAll ts
  | [] => rfl
  | t :: ts => by rw [splicedAll, spellAll_append, spellAll, spellAll_spliced t, spellAll_splicedAll ts]

end

theorem spell_merged (t : RoseTree Value) : t.merged.spell = t.spell := by
  obtain ⟨v, cs⟩ := t
  exact spell_congr v ((spellAll_joinTexts _).trans (spellAll_splicedAll cs))

end RoseTree

theorem render_merged (t : RoseTree Value) : render t.merged = render t := by
  rw [render_eq, render_eq, RoseTree.out_eq_spell, RoseTree.out_eq_spell, RoseTree.spell_merged]

end Frontmark.Markup
