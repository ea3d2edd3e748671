import Frontmark.Text.Blank
import Frontmark.Proofs.Text.Lines
import Mathlib.Data.List.TakeWhile

/-! Texts of blanks, and what trimming a text leaves of it. -/

set_option autoImplicit false

namespace Frontmark.Text

def Blank (text : List Char) : Prop :=
  ∀ c ∈ text, isBlank c = true

instance (text : List Char) : Decidable (Blank text) :=
  inferInstanceAs (Decidable (∀ c ∈ text, isBlank c = true))

@[simp] theorem Blank.nil : Blank [] := by
  simp [Blank]

@[simp] theorem blank_cons {c : Char} {text : List Char} : Blank (c :: text) ↔ isBlank c = true ∧ Blank text := by
  simp [Blank]

@[simp] theorem blank_append {first rest : List Char} : Blank (first ++ rest) ↔ Blank first ∧ Blank rest := by
  simp [Blank, or_imp, forall_and]

@[simp] theorem isBlank_newline : isBlank '\n' = true := by
  decide

theorem trimStart_append {start : List Char} (blank : Blank start) (text : List Char) :
    trimStart (start ++ text) = trimStart text :=
  List.dropWhile_append_of_pos blank

theorem trimEnd_append (text : List Char) {last : List Char} (blank : Blank last) :
    trimEnd (text ++ last) = trimEnd text := by
  have reversed : ∀ c ∈ last.reverse, isBlank c = true := fun c member => blank c (List.mem_reverse.mp member)
  rw [trimEnd, List.reverse_append, List.dropWhile_append_of_pos reversed, trimEnd]

theorem Blank.trimStart {text : List Char} (blank : Blank text) : trimStart text = [] :=
  List.dropWhile_eq_nil_iff.mpr blank

theorem exists_trimStart (text : List Char) : ∃ start, Blank start ∧ start ++ trimStart text = text :=
  ⟨text.takeWhile isBlank, fun _ member => List.mem_takeWhile_imp member, List.takeWhile_append_dropWhile⟩

theorem exists_trimEnd (text : List Char) : ∃ last, Blank last ∧ trimEnd text ++ last = text := by
  refine ⟨(text.reverse.takeWhile isBlank).reverse, ?_, ?_⟩
  · intro c member
    exact List.mem_takeWhile_imp (List.mem_reverse.mp member)
  · rw [trimEnd, ← List.reverse_append, List.takeWhile_append_dropWhile, List.reverse_reverse]

/-- Trimming takes blanks away at both ends and nothing else. -/
theorem exists_trim (text : List Char) :
    ∃ start last, Blank start ∧ Blank last ∧ text = start ++ trim text ++ last := by
  obtain ⟨start, startBlank, startText⟩ := exists_trimStart text
  obtain ⟨last, lastBlank, lastText⟩ := exists_trimEnd (trimStart text)
  exact ⟨start, last, startBlank, lastBlank, by rw [trim, List.append_assoc, lastText, startText]⟩

theorem trim_append {start last : List Char} (startBlank : Blank start) (text : List Char) (lastBlank : Blank last) :
    trim (start ++ text ++ last) = trim text := by
  rw [trim, List.append_assoc, trimStart_append startBlank, trim]
  by_cases blank : Blank text
  · rw [trimStart_append blank, lastBlank.trimStart, blank.trimStart]
  · -- something of the text is left, so the blanks behind it do not come to stand in front
    have left : ¬ (text.dropWhile isBlank).isEmpty = true := by
      rw [List.isEmpty_iff, List.dropWhile_eq_nil_iff]
      exact blank
    rw [trimStart, List.dropWhile_append, if_neg left, trimEnd_append _ lastBlank, trimStart]

theorem Blank.of_mem_lines {text line : List Char} (blank : Blank text) (member : line ∈ lines text) : Blank line :=
  fun c inside => blank c (mem_of_mem_lines member inside)

theorem exists_line_of_append_blank {text line : List Char} (member : line ∈ lines text) {last : List Char}
    (blank : Blank last) : ∃ more, Blank more ∧ line ++ more ∈ lines (text ++ last) := by
  obtain ⟨before, end_, cut⟩ := exists_lines_eq_concat text
  obtain ⟨first, after, lastCut⟩ := exists_lines_eq last
  have whole := lines_append cut lastCut
  rw [cut, List.mem_append, List.mem_singleton] at member
  rcases member with member | rfl
  · exact ⟨[], Blank.nil, by simp [whole, member]⟩
  · exact ⟨first, blank.of_mem_lines (by simp [lastCut]), by simp [whole]⟩

theorem exists_line_of_blank_append {text line : List Char} (member : line ∈ lines text) {start : List Char}
    (blank : Blank start) : ∃ indent, Blank indent ∧ indent ++ line ∈ lines (start ++ text) := by
  obtain ⟨before, end_, startCut⟩ := exists_lines_eq_concat start
  obtain ⟨first, after, cut⟩ := exists_lines_eq text
  have whole := lines_append startCut cut
  rw [cut, List.mem_cons] at member
  rcases member with rfl | member
  · exact ⟨end_, blank.of_mem_lines (by simp [startCut]), by simp [whole]⟩
  · exact ⟨[], Blank.nil, by simp [whole, member]⟩

/-- A line of the trimmed text is a line of the text but for blanks at its ends. -/
theorem exists_line_of_trim {text line : List Char} (member : line ∈ lines (trim text)) :
    ∃ indent more, Blank indent ∧ Blank more ∧ indent ++ (line ++ more) ∈ lines text := by
  obtain ⟨start, last, startBlank, lastBlank, parts⟩ := exists_trim text
  obtain ⟨more, moreBlank, member⟩ := exists_line_of_append_blank member lastBlank
  obtain ⟨indent, indentBlank, member⟩ := exists_line_of_blank_append member startBlank
  rw [← List.append_assoc, ← parts] at member
  exact ⟨indent, more, indentBlank, moreBlank, member⟩

theorem trim_trim (text : List Char) : trim (trim text) = trim text := by
  obtain ⟨start, last, startBlank, lastBlank, parts⟩ := exists_trim text
  calc trim (trim text) = trim (start ++ trim text ++ last) := (trim_append startBlank _ lastBlank).symm
    _ = trim text := by rw [← parts]

theorem length_trim_le (text : List Char) : (trim text).length ≤ text.length := by
  obtain ⟨start, last, -, -, parts⟩ := exists_trim text
  have := congrArg List.length parts
  simp only [List.length_append] at this
  omega

end Frontmark.Text
