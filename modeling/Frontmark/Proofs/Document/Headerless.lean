import Frontmark.Document
import Frontmark.Proofs.Header.Split
import Frontmark.Proofs.Markup.Output

/-! Documents without a header that are written and read again.

Nothing marks a body as one when it is written. Main statement: what is read is all body again, unless the
rendering happens to be a text with a metadata block; and the node that writes its beginning tells which bodies
are safe from that. -/

set_option autoImplicit false

namespace Frontmark.Document

open Frontmark.Header (HasBlock Opens byteOrderMark dropMark fences isSome_header_iff split split_eq_none)
open Frontmark.Markup (Forest ListStyle RoseTree Value Visit exists_first_written render written)
open Frontmark.Text

/-- The characters with which a text with a metadata block can begin. -/
def leads : List Char :=
  ['-', '=', byteOrderMark]

/-- Whether the text of a node can be the beginning of a metadata block. -/
def CanOpen : Value → Prop
  | .thematicBreak => True
  | .text literal | .htmlBlock literal => ∃ c ∈ leads, literal.toList.head? = some c
  | _ => False

theorem exists_lead_of_fence {opener : List Char} (member : opener ∈ fences) :
    ∃ c ∈ leads, ∃ rest, opener = c :: rest := by
  have other : opener = "---".toList ∨ opener = "= yaml =".toList := by simpa [fences] using member
  rcases other with rfl | rfl
  · exact ⟨'-', by simp [leads], _, rfl⟩
  · exact ⟨'=', by simp [leads], _, rfl⟩

theorem exists_lead_of_opens {text opener : List Char} {later : List (List Char)}
    (opens : Opens (dropMark text) opener later) : ∃ c ∈ leads, ∃ rest, text = c :: rest := by
  by_cases marked : text.head? = some byteOrderMark
  · exact ⟨byteOrderMark, by simp [leads], text.tail, (List.cons_head?_tail marked).symm⟩
  · have same : dropMark text = text := if_neg marked
    obtain ⟨c, lead, start, rfl⟩ := exists_lead_of_fence opens.1
    have line : ∃ more, text.takeWhile (· ≠ '\n') = c :: more := by
      rw [same] at opens
      rcases opens.2 with cut | cut
      · exact ⟨start, takeWhile_eq_of_lines cut⟩
      · exact ⟨start ++ ['\r'], takeWhile_eq_of_lines cut⟩
    obtain ⟨more, line⟩ := line
    refine ⟨c, lead, more ++ text.dropWhile (· ≠ '\n'), ?_⟩
    rw [← List.cons_append, ← line, List.takeWhile_append_dropWhile]

theorem canOpen_of_entering {value : Value} {c : Char} {rest : List Char}
    (starts : (value.entering?.getD "").toList = c :: rest) (lead : c ∈ leads) : CanOpen value := by
  cases value with
  | thematicBreak => exact trivial
  | text literal | htmlBlock literal =>
    simp only [Value.entering?, Option.getD_some] at starts
    exact ⟨c, lead, by rw [starts, List.head?_cons]⟩
  | document | paragraph | list | image | extension => simp [Value.entering?] at starts
  | item style =>
    -- the marker depends on the style of the list, but it begins with a digit or a star
    simp only [Value.entering?, ListStyle.marker, Option.getD_some] at starts
    split at starts
    · split at starts
      all_goals
        simp only [String.reduceToList, List.cons.injEq] at starts
        exact absurd (starts.1 ▸ lead) (by decide)
    · simp only [String.reduceToList, List.cons.injEq] at starts
      exact absurd (starts.1 ▸ lead) (by decide)
  | heading level setext =>
    cases level with
    | zero =>
      simp [Value.entering?] at starts
      exact absurd (starts.1 ▸ lead) (by decide)
    | succ level =>
      simp [Value.entering?, List.replicate_succ] at starts
      exact absurd (starts.1 ▸ lead) (by decide)
  | _ =>
    simp [Value.entering?] at starts
    exact absurd (starts.1 ▸ lead) (by decide)

theorem not_lead_of_leaving {value : Value} {c : Char} {rest : List Char}
    (starts : (value.leaving?.getD "").toList = c :: rest) : c ∉ leads := by
  cases value with
  | paragraph | link | strong | emph =>
    simp [Value.leaving?] at starts
    exact starts.1 ▸ (by decide)
  | _ => simp [Value.leaving?] at starts

/-- Only few nodes write a text that begins like a metadata block, and only when they are entered. -/
theorem canOpen_of_lead {visit : Visit} {c : Char} {rest : List Char} (starts : visit.text.toList = c :: rest)
    (lead : c ∈ leads) : visit.entering ∧ CanOpen visit.value := by
  unfold Visit.text at starts
  cases entering : visit.entering with
  | false =>
    rw [entering, if_neg (by simp)] at starts
    exact absurd lead (not_lead_of_leaving starts)
  | true =>
    rw [entering, if_pos rfl] at starts
    exact ⟨rfl, canOpen_of_entering starts lead⟩

/-- A body whose rendering begins a metadata block begins with a node that can. -/
theorem exists_canOpen_of_opens {body : RoseTree Value} {opener : List Char} {later : List (List Char)}
    (opens : Opens (dropMark (render body).toList) opener later) :
    ∃ silent visit more, (Forest.ofTree body).visits 0 = silent ++ visit :: more ∧ (∀ v ∈ silent, v.text = "") ∧
      visit.entering ∧ CanOpen visit.value := by
  obtain ⟨c, lead, rest, start⟩ := exists_lead_of_opens opens
  obtain ⟨last, -, whole⟩ := (Forest.ofTree body).exists_written 0
  -- a line break that is dropped at the end leaves the first character where it is
  have first : written ((Forest.ofTree body).visits 0) = c :: (rest ++ last) := by
    rw [whole]
    exact congrArg (· ++ last) start
  obtain ⟨silent, visit, more, after, visits, quiet, starts⟩ := exists_first_written first
  exact ⟨silent, visit, more, visits, quiet, canOpen_of_lead starts lead⟩

/-- A document without a header is read again without one exactly if its rendering is not a text with a metadata
block. Then nothing is refused, whatever reads the body. The first node that writes anything is a break or begins
like a fence if that goes wrong. -/
theorem headerless_reread_iff (body : RoseTree Value) (bodyBegin : Nat) :
    let out := toMarkdown ⟨none, body, bodyBegin⟩
    (split out = ⟨none, render body, 1⟩ ↔ ¬ HasBlock (render body).toList) ∧
    (split out = ⟨none, render body, 1⟩ → ∀ (read : BodyReader) (o : Options),
      readBy read o out = .ok ⟨none, read o (render body), 1⟩) ∧
    (split out = ⟨none, render body, 1⟩ ∨
      ∃ silent visit more, (Forest.ofTree body).visits 0 = silent ++ visit :: more ∧ (∀ v ∈ silent, v.text = "") ∧
        visit.entering ∧ CanOpen visit.value) := by
  intro out
  have same : out = render body := rfl
  have kept : split out = ⟨none, render body, 1⟩ ↔ ¬ HasBlock (render body).toList := by
    rw [same, ← isSome_header_iff]
    constructor
    · intro whole
      simp [whole]
    · intro absent
      exact split_eq_none (mt (isSome_header_iff _).mpr absent)
  refine ⟨kept, ?_, ?_⟩
  · intro whole read o
    simp [readBy, divide, whole, Header.validate, ofSplit, Except.map]
  · by_cases hasBlock : HasBlock (render body).toList
    · obtain ⟨opener, later, opens, -⟩ := hasBlock
      exact .inr (exists_canOpen_of_opens opens)
    · exact .inl (kept.mpr hasBlock)

/-- The breaks around a paragraph are read as the fences of a header, and what stands between them need not even
be well-formed as one. -/
theorem headerless_reread_breaks :
    let body (literal : String) : RoseTree Value := .node .document
      [.node .thematicBreak [], .node .paragraph [.node (.text literal) []], .node .thematicBreak []]
    render (body "a") = "---\n\na\n\n---\n" ∧
      split (toMarkdown ⟨none, body "a", 1⟩) = ⟨some "a", "", 6⟩ ∧
      split (toMarkdown ⟨none, body "[a", 1⟩) = ⟨some "[a", "", 6⟩ ∧
      (read {} (toMarkdown ⟨none, body "[a", 1⟩)).toOption.isNone := by
  decide +kernel

end Frontmark.Document
