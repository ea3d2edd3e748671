import Frontmark.Body.Reader
import Frontmark.Proofs.Inline.Lines

/-! The text that drafts tell once their own text is read.

Main statements: drafts tell one text after the other (`Tells.append`), and lines in a paragraph or in a heading tell
themselves (`Tells.paragraph`, `Tells.heading`). -/

set_option autoImplicit false

namespace Frontmark.Body

open Frontmark.Block (Draft Part)
open Frontmark.Inline (IsLine lineChars)
open Frontmark.Markup (ListStyle RoseTree Value)
open Frontmark.Markup.RoseTree (CalmAll calmAll_append spell spellAll spellAll_append)
open Frontmark.Text

/-- Whatever there is to spend, the drafts become calm trees with this text. -/
def Tells (o : Options) (drafts : List Draft) (text : List Char) : Prop :=
  ∀ quota, ∃ trees, fillAmong ⟨o, []⟩ quota drafts = (trees, quota) ∧ (spellAll trees).toList = text ∧ CalmAll o trees

variable {o : Options} {drafts : List Draft} {text : List Char} {lines : List (List Inline.Part)}

theorem Tells.nil : Tells o [] [] :=
  fun _ => ⟨[], rfl, rfl, trivial⟩

theorem fillAmong_append (ctx : Inline.Context) (quota : Nat) (drafts more : List Draft) :
    fillAmong ctx quota (drafts ++ more) =
      ((fillAmong ctx quota drafts).1 ++ (fillAmong ctx (fillAmong ctx quota drafts).2 more).1,
        (fillAmong ctx (fillAmong ctx quota drafts).2 more).2) := by
  induction drafts generalizing quota with
  | nil => rfl
  | cons t drafts ih => simp [fillAmong, ih]

theorem Tells.append {more : List Draft} {text' : List Char} (first : Tells o drafts text) (second : Tells o more text') :
    Tells o (drafts ++ more) (text ++ text') := by
  intro quota
  obtain ⟨trees, filled, spelled, calm⟩ := first quota
  obtain ⟨trees', filled', spelled', calm'⟩ := second quota
  refine ⟨trees ++ trees', ?_, ?_, calmAll_append.mpr ⟨calm, calm'⟩⟩
  · rw [fillAmong_append, filled, filled']
  · rw [spellAll_append, String.toList_append, spelled, spelled']

/-- Children are collected with the latest first. -/
theorem Tells.push {children : List Draft} {t : Draft} {text' : List Char} (told : Tells o children.reverse text)
    (latest : Tells o [t] text') : Tells o (t :: children).reverse (text ++ text') := by
  rw [List.reverse_cons]
  exact told.append latest

/-- A block without content. -/
theorem Tells.leaf {v : Value} (silent : holdsText v = false) (calm : v.Calm o) :
    Tells o [.node ⟨v, []⟩ []] (spell (.node v [])).toList := by
  intro quota
  refine ⟨[.node v []], ?_, by simp [spellAll], ⟨calm, trivial⟩, trivial⟩
  simp [fillAmong, fill, silent]

section Containers

theorem Tells.inside {v : Value} (silent : holdsText v = false) (calm : v.Calm o) {start : List Char}
    (spelled : ∀ cs, (spell (.node v cs)).toList = start ++ (spellAll cs).toList) (inner : Tells o drafts text) :
    Tells o [.node ⟨v, []⟩ drafts] (start ++ text) := by
  intro quota
  obtain ⟨trees, filled, rfl, calm'⟩ := inner quota
  refine ⟨[.node v trees], ?_, by simp [spellAll, spelled], ⟨calm, calm'⟩, trivial⟩
  simp [fillAmong, fill, silent, filled]

theorem Tells.blockQuote (inner : Tells o drafts text) :
    Tells o [.node ⟨.blockQuote, []⟩ drafts] ("> ".toList ++ text) :=
  .inside (v := .blockQuote) rfl trivial (fun _ => by simp [spell]) inner

theorem Tells.item (style : ListStyle) (inner : Tells o drafts text) :
    Tells o [.node ⟨.item style, []⟩ drafts] (style.marker.toList ++ text) := by
  refine .inside (v := .item style) rfl trivial (fun cs => ?_) inner
  rw [spell, ListStyle.marker, String.toList_append]
  cases style.delimiter <;> rfl

theorem Tells.list (style : ListStyle) (inner : Tells o drafts text) : Tells o [.node ⟨.list style, []⟩ drafts] text := by
  change Tells o _ ([] ++ text)
  exact .inside (v := .list style) rfl trivial (fun _ => by simp [spell]) inner

end Containers

section Lines

/-- The source of a block of lines, as it is collected. -/
def sourceOf (lines : List (List Inline.Part)) : List Char :=
  terminated (lines.map lineChars)

theorem dropSpacesEnd_sourceOf (some_ : lines ≠ []) (all : ∀ line ∈ lines, IsLine o line) :
    dropSpacesEnd (sourceOf lines) = joined (lines.map lineChars) := by
  obtain ⟨before, last, rfl⟩ : ∃ before last, lines = before ++ [last] :=
    ⟨_, _, (List.dropLast_append_getLast some_).symm⟩
  have isLine : IsLine o last := all last (by simp)
  have whole : joined ((before ++ [last]).map lineChars) = terminated (before.map lineChars) ++ lineChars last := by
    rw [List.map_append, joined_append _ (by simp), List.map_singleton, joined_singleton]
  have visible : ∀ c ∈ (joined ((before ++ [last]).map lineChars)).getLast?, isSpace c = false := by
    obtain ⟨c, more, first, -⟩ := isLine.first_visible
    rw [whole, List.getLast?_append_of_ne_nil _ (by simp [first])]
    exact isLine.last_visible
  rw [sourceOf, terminated_eq_joined (by simp), dropSpacesEnd, List.reverse_append, List.reverse_singleton,
    List.singleton_append, List.dropWhile_cons_of_pos (by decide), ← dropSpacesEnd, dropSpacesEnd_of_last visible]

theorem Tells.paragraph (some_ : lines ≠ []) (all : ∀ line ∈ lines, IsLine o line) :
    Tells o [.node ⟨.paragraph, sourceOf lines⟩ []] (joined (lines.map lineChars) ++ "\n\n".toList) := by
  intro quota
  obtain ⟨trees, read_, spelled, calm⟩ :=
    Inline.read_lines ⟨o, []⟩ quota some_ all (dropSpacesEnd_sourceOf some_ all)
  refine ⟨[.node .paragraph trees], ?_, by simp [spellAll, spell, spelled], ⟨trivial, calm⟩, trivial⟩
  simp [fillAmong, fill, holdsText, read_]

theorem Tells.heading {line : List Inline.Part} (isLine : IsLine o line) (level : Nat) :
    Tells o [.node ⟨.heading level false, lineChars line⟩ []] (List.replicate level '#' ++ ' ' :: lineChars line) := by
  intro quota
  have trimmed : dropSpacesEnd (lineChars line) = joined ([line].map lineChars) := by
    rw [List.map_singleton, joined_singleton, dropSpacesEnd_of_last isLine.last_visible]
  obtain ⟨trees, read_, spelled, calm⟩ := Inline.read_lines ⟨o, []⟩ quota (by simp) (by simpa using isLine) trimmed
  rw [List.map_singleton, joined_singleton] at spelled
  refine ⟨[.node (.heading level false) trees], ?_, by simp [spellAll, spell, spelled], ⟨trivial, calm⟩, trivial⟩
  simp [fillAmong, fill, holdsText, read_]

end Lines

end Frontmark.Body
