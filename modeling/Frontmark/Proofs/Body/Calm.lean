import Frontmark.Body.Footnote
import Frontmark.Body.Tidy
import Frontmark.Proofs.Markup.Structural

/-! Trees that the last touch to a document leaves alone, as far as their text goes.

Main statements: nothing in a calm tree has to do with footnotes (`moveFootnotes_eq`), and what is done to its texts
does not show (`spell_tidy`). -/

set_option autoImplicit false

namespace Frontmark.Markup

/-- No part of the value is a footnote, and no text of it a check box or a mail address that becomes a link. -/
def Value.Calm (o : Options) : Value → Prop
  | .text literal => '[' ∉ literal.toList ∧ (o.autolink = true → '@' ∉ literal.toList)
  | .extension _ => False
  | _ => True

mutual

def RoseTree.Calm (o : Options) : RoseTree Value → Prop
  | .node v cs => v.Calm o ∧ RoseTree.CalmAll o cs

def RoseTree.CalmAll (o : Options) : List (RoseTree Value) → Prop
  | [] => True
  | t :: ts => t.Calm o ∧ RoseTree.CalmAll o ts

end

namespace RoseTree

variable {o : Options}

theorem calmAll_append {ts us : List (RoseTree Value)} : CalmAll o (ts ++ us) ↔ CalmAll o ts ∧ CalmAll o us := by
  induction ts with
  | nil => simp [CalmAll]
  | cons t ts ih => simp [CalmAll, ih, and_assoc]

end RoseTree

end Frontmark.Markup

namespace Frontmark.Body

open Frontmark.Inline (textTree)
open Frontmark.Text
open Frontmark.Markup (RoseTree Value)
open Frontmark.Markup.RoseTree (Calm CalmAll calmAll_append spell spell_congr spellAll spellAll_append)

variable {o : Options}

section Footnotes

mutual

theorem definitions_eq_nil : (t : RoseTree Value) → t.Calm o → definitions t = []
  | .node v cs, calm => by
    have inner := definitionsAmong_eq_nil cs calm.2
    cases v with
    | extension e => exact absurd calm.1 id
    | _ => exact inner

theorem definitionsAmong_eq_nil : (ts : List (RoseTree Value)) → CalmAll o ts → definitionsAmong ts = []
  | [], _ => rfl
  | t :: ts, calm => by
    rw [definitionsAmong, definitions_eq_nil t calm.1, definitionsAmong_eq_nil ts calm.2]
    rfl

end

mutual

theorem references_eq_nil : (t : RoseTree Value) → t.Calm o → references t = []
  | .node v cs, calm => by
    have inner := referencesAmong_eq_nil cs calm.2
    cases v with
    | extension e => exact absurd calm.1 id
    | _ => exact inner

theorem referencesAmong_eq_nil : (ts : List (RoseTree Value)) → CalmAll o ts → referencesAmong ts = []
  | [], _ => rfl
  | t :: ts, calm => by
    rw [referencesAmong, references_eq_nil t calm.1, referencesAmong_eq_nil ts calm.2]
    rfl

end

mutual

theorem plainReferences_eq (defined : List String) : (t : RoseTree Value) → t.Calm o → plainReferences defined t = t
  | .node v cs, calm => by
    have inner := plainReferencesAmong_eq defined cs calm.2
    cases v with
    | extension e => exact absurd calm.1 id
    | _ => exact congrArg (RoseTree.node _) inner

theorem plainReferencesAmong_eq (defined : List String) :
    (ts : List (RoseTree Value)) → CalmAll o ts → plainReferencesAmong defined ts = ts
  | [], _ => rfl
  | t :: ts, calm => by
    rw [plainReferencesAmong, plainReferences_eq defined t calm.1, plainReferencesAmong_eq defined ts calm.2]

end

mutual

theorem withoutDefinitions_eq : (t : RoseTree Value) → t.Calm o → withoutDefinitions t = t
  | .node v cs, calm => by rw [withoutDefinitions, withoutDefinitionsAmong_eq cs calm.2]

theorem withoutDefinitionsAmong_eq : (ts : List (RoseTree Value)) → CalmAll o ts → withoutDefinitionsAmong ts = ts
  | [], _ => rfl
  | t :: ts, calm => by
    have other : isDefinition t = false := by
      obtain ⟨v, cs⟩ := t
      cases v with
      | extension e => exact absurd calm.1.1 id
      | _ => rfl
    rw [withoutDefinitionsAmong, other, withoutDefinitions_eq t calm.1, withoutDefinitionsAmong_eq ts calm.2]
    rfl

end

theorem moveFootnotes_eq {t : RoseTree Value} (calm : t.Calm o) : moveFootnotes t = t := by
  rw [moveFootnotes]
  simp only [plainReferences_eq _ t calm, definitions_eq_nil t calm, references_eq_nil t calm, withoutDefinitions_eq t calm]
  obtain ⟨v, cs⟩ := t
  simp [firsts]

end Footnotes

section Texts

variable {ts : List (RoseTree Value)}

theorem spellAll_joinTexts (ts : List (RoseTree Value)) : spellAll (joinTexts ts) = spellAll ts := by
  induction ts with
  | nil => rfl
  | cons t ts ih =>
    unfold joinTexts
    split
    · rename_i first _ second _ more joined
      rw [joined] at ih
      simp only [spellAll, spell] at ih ⊢
      rw [← ih, String.append_assoc]
    · rw [spellAll, spellAll, ih]

theorem calmAll_joinTexts (calm : CalmAll o ts) : CalmAll o (joinTexts ts) := by
  induction ts with
  | nil => trivial
  | cons t ts ih =>
    have rest := ih calm.2
    unfold joinTexts
    split
    · rename_i first _ second _ more joined
      rw [joined] at rest
      obtain ⟨⟨bracket, at_⟩, -⟩ := calm.1
      obtain ⟨⟨⟨bracket', at_'⟩, -⟩, others⟩ := rest
      refine ⟨⟨⟨?_, ?_⟩, trivial⟩, others⟩
      · simp [bracket, bracket']
      · simpa [or_imp, not_or] using fun autolink => ⟨at_ autolink, at_' autolink⟩
    · exact ⟨calm.1, rest⟩

theorem checkBox?_eq_none {text : List Char} (bracket : '[' ∉ text) : checkBox? text = none := by
  rw [checkBox?]
  split
  · rename_i mark rest whole
    have inside : '[' ∈ dropGaps text := whole ▸ List.mem_cons_self
    exact absurd ((List.dropWhile_sublist isGap).subset inside) bracket
  · rfl

theorem markTask_eq {t : RoseTree Value} (calm : t.Calm o) : markTask t = t := by
  unfold markTask
  split
  · rename_i style texts others
    have inner : CalmAll o (joinTexts texts) := calmAll_joinTexts calm.2.1.2
    split
    · rename_i literal _ rest whole
      rw [whole] at inner
      rw [checkBox?_eq_none inner.1.1.1]
    · rfl
  · rfl

mutual

theorem markTasks_eq : (t : RoseTree Value) → t.Calm o → markTasks t = t
  | .node v cs, calm => by
    have inner := markTasksAmong_eq cs calm.2
    have whole : markTask (.node v (markTasksAmong cs)) = .node v cs := by rw [inner, markTask_eq calm]
    cases v with
    | link | image => rfl
    | _ => exact whole

theorem markTasksAmong_eq : (ts : List (RoseTree Value)) → CalmAll o ts → markTasksAmong ts = ts
  | [], _ => rfl
  | t :: ts, calm => by rw [markTasksAmong, markTasks_eq t calm.1, markTasksAmong_eq ts calm.2]

end

theorem firstMail?_eq_none {text : List Char} (at_ : '@' ∉ text) (before : List Char) (depth : Int) :
    firstMail? before depth text = none := by
  induction text generalizing before depth with
  | nil => rfl
  | cons c text ih =>
    have other : c ≠ '@' := (List.ne_of_not_mem_cons at_).symm
    rw [firstMail?]
    simp [other, ih (List.not_mem_of_not_mem_cons at_)]

theorem linkMails_eq {text : List Char} (at_ : '@' ∉ text) (limit : Nat) : linkMails limit text = [textTree text] := by
  cases limit with
  | zero => rfl
  | succ limit => rw [linkMails, firstMail?_eq_none at_]

theorem linkMailsIn_keeps {t : RoseTree Value} (calm : t.Calm o) :
    spellAll (linkMailsIn o t) = spell t ∧ CalmAll o (linkMailsIn o t) := by
  unfold linkMailsIn
  split
  · rename_i literal cs
    split
    · rename_i autolink
      rw [linkMails_eq (calm.1.2 autolink)]
      refine ⟨by simp [spellAll, spell, textTree], ⟨?_, trivial⟩, trivial⟩
      rw [Value.Calm, String.toList_ofList]
      exact calm.1
    · exact ⟨by simp [spellAll], calm, trivial⟩
  · exact ⟨by simp [spellAll], calm, trivial⟩

theorem flatMap_linkMailsIn_keeps (calm : CalmAll o ts) :
    spellAll (ts.flatMap (linkMailsIn o)) = spellAll ts ∧ CalmAll o (ts.flatMap (linkMailsIn o)) := by
  induction ts with
  | nil => exact ⟨rfl, trivial⟩
  | cons t ts ih =>
    obtain ⟨same, first⟩ := linkMailsIn_keeps calm.1
    obtain ⟨same', rest⟩ := ih calm.2
    rw [List.flatMap_cons, spellAll_append, same, same']
    exact ⟨rfl, calmAll_append.mpr ⟨first, rest⟩⟩

mutual

theorem joinAll_keeps : (t : RoseTree Value) → t.Calm o →
    spell (joinAll o t) = spell t ∧ Calm o (joinAll o t)
  | .node v cs, calm => by
    obtain ⟨same, inner⟩ := joinAmong_keeps cs calm.2
    have same₁ := spellAll_joinTexts (joinAmong o cs)
    have inner₁ := calmAll_joinTexts inner
    obtain ⟨same₂, inner₂⟩ := flatMap_linkMailsIn_keeps inner₁
    have whole := spell_congr v (same₂.trans (same₁.trans same))
    cases v with
    | link | image => exact ⟨rfl, calm⟩
    | _ => exact ⟨whole, calm.1, inner₂⟩

theorem joinAmong_keeps : (ts : List (RoseTree Value)) → CalmAll o ts →
    spellAll (joinAmong o ts) = spellAll ts ∧ CalmAll o (joinAmong o ts)
  | [], _ => ⟨rfl, trivial⟩
  | t :: ts, calm => by
    obtain ⟨same, first⟩ := joinAll_keeps t calm.1
    obtain ⟨same', rest⟩ := joinAmong_keeps ts calm.2
    rw [joinAmong, spellAll, spellAll, same, same']
    exact ⟨rfl, first, rest⟩

end

theorem spell_tidy {t : RoseTree Value} (calm : t.Calm o) : spell (tidy o t) = spell t := by
  rw [tidy, markTasks_eq t calm, ite_self]
  exact (joinAll_keeps t calm).1

end Texts

end Frontmark.Body
