import Frontmark.Proofs.Header.Split

/-! Where the body of a text starts.

The head of a text ends with a line break unless nothing follows it, so the lines of the body are the last lines of
the text, and the line breaks of the head say how many lines precede them. -/

set_option autoImplicit false

namespace Frontmark.Header

open Frontmark.Text

/-- The lines of a text that begins with whole lines. -/
theorem drop_lines_append {head : List Char} (last : head.getLast? = some '\n') (body : List Char) :
    (lines (head ++ body)).drop (head.count '\n') = lines body := by
  obtain ⟨start, rfl⟩ := List.getLast?_eq_some_iff.mp last
  have length : (start ++ ['\n']).count '\n' = (lines start).length := by simp [length_lines]
  rw [List.append_assoc, List.singleton_append, lines_append_cons, length, List.drop_left]

/-- The lines before the last ones make up the rest of the text. -/
theorem terminated_take_append {text body : List Char} {n : Nat} (last : (lines text).drop n = lines body) :
    terminated ((lines text).take n) ++ body = text :=
  calc terminated ((lines text).take n) ++ body
    _ = joined ((lines text).take n ++ lines body) := by rw [joined_append _ (lines_ne_nil body), joined_lines]
    _ = text := by rw [← last, List.take_append_drop, joined_lines]

section Gap

variable {text gap body : List Char}

/-- What the gap leaves is no blank line. -/
theorem IsGap.not_blank_firstLine (isGap : IsGap text gap body) (more : body ≠ []) :
    ¬ Blank (body.takeWhile (· ≠ '\n')) := by
  intro blank
  have parts : body.takeWhile (· ≠ '\n') ++ body.dropWhile (· ≠ '\n') = body := List.takeWhile_append_dropWhile
  have ended := List.head?_dropWhile_not (· ≠ '\n') body
  cases cut : body.dropWhile (· ≠ '\n') with
  | nil =>
    -- the body is blank to its end, and so the text would have been all gap
    rw [cut, List.append_nil] at parts
    refine more (isGap.whole ?_)
    rw [← isGap.parts, blank_append, ← parts]
    exact ⟨isGap.blank, blank⟩
  | cons c rest =>
    rw [cut] at ended parts
    obtain rfl : c = '\n' := by simpa using ended
    have longer := isGap.longest (gap ++ body.takeWhile (· ≠ '\n')) rest (by rw [List.append_assoc, parts, isGap.parts])
      (blank_append.mpr ⟨isGap.blank, blank⟩)
    rw [List.length_append] at longer
    omega

/-- A gap that begins with a blank line ends with a line break, if anything follows. -/
theorem IsGap.getLast?_eq (isGap : IsGap text gap body) (blank : Blank (text.takeWhile (· ≠ '\n'))) (more : body ≠ []) :
    gap.getLast? = some '\n' := by
  have visible : ¬ Blank text := fun blank => more (isGap.whole blank)
  rcases isGap.ended visible with rfl | last
  · obtain rfl : body = text := isGap.parts
    exact absurd blank (isGap.not_blank_firstLine more)
  · exact last

end Gap

/-- A text with a metadata block is cut behind a line break, unless there is nothing to cut off. -/
theorem exists_head_of_fits {text : String} {gap body : List Char} {l : Layout} (fits : l.Fits (dropMark text.toList))
    (isGap : IsGap l.rest gap body) :
    ∃ head, split text = ⟨some (String.ofList (trim l.between)), String.ofList body, 1 + head.count '\n'⟩ ∧
      head ++ body = text.toList ∧ (body ≠ [] → head.getLast? = some '\n') := by
  obtain ⟨lead, whole, -, found⟩ := locate_of_fits fits isGap
  refine ⟨_, by rw [split, found], ?_, fun more => ?_⟩
  · rw [← whole, fits.text_eq, ← isGap.parts]
    simp [Block.head, Layout.between]
  · rw [Block.head, List.getLast?_append, isGap.getLast?_eq fits.blank_firstLine more, Option.some_or]

/-- The body of a text is on its last lines, and `bodyBegin` counts to the first of them: what precedes are that many
lines less one, each with its line break. Below a header the body begins with a line that has something on it, and
a text with no body ends on the line that is counted. -/
theorem split_bodyBegin (text : String) :
    let s := split text
    let body := s.body.toList
    (body ≠ [] → lines body = (lines text.toList).drop (s.bodyBegin - 1) ∧
      terminated ((lines text.toList).take (s.bodyBegin - 1)) ++ body = text.toList) ∧
    (s.header.isSome → body ≠ [] → ¬ Blank (body.takeWhile (· ≠ '\n'))) ∧
    (s.header.isSome → body = [] → s.bodyBegin = 1 + text.toList.count '\n') ∧
    1 ≤ s.bodyBegin ∧ s.bodyBegin ≤ 1 + text.toList.count '\n' := by
  intro s body
  by_cases hasBlock : HasBlock text.toList
  · obtain ⟨l, fits⟩ := Layout.exists_fits hasBlock
    obtain ⟨gap, rest, isGap⟩ := fits.exists_gap
    obtain ⟨head, found, whole, ended⟩ := exists_head_of_fits fits isGap
    have same : body = rest := by simp only [body, s, found, String.toList_ofList]
    have begin_ : s.bodyBegin = 1 + head.count '\n' := by simp only [s, found]
    have total : head.count '\n' + rest.count '\n' = text.toList.count '\n' := by rw [← whole, List.count_append]
    rw [same, begin_, Nat.add_sub_cancel_left]
    refine ⟨fun more => ?_, fun _ more => isGap.not_blank_firstLine more, fun _ none => ?_, by omega, by omega⟩
    · have last := drop_lines_append (ended more) rest
      rw [whole] at last
      exact ⟨last.symm, terminated_take_append last⟩
    · rw [← total, none, List.count_nil, Nat.add_zero]
  · have found : s = ⟨none, text, 1⟩ := split_eq_none hasBlock
    have same : body = text.toList := by simp only [body, found]
    rw [same, found]
    exact ⟨fun _ => ⟨rfl, rfl⟩, nofun, nofun, Nat.le_refl 1, Nat.le_add_right ..⟩

/-- A mark, blank lines with carriage returns, and an indented body. -/
example : let s := split "\ufeff---\r\na: 1\r\n---  \r\n\r\n  Body\r\n"
    s.bodyBegin = 5 ∧ s.body = "  Body\r\n" := by decide +kernel

end Frontmark.Header
