import Frontmark.Proofs.Header.Grammar

/-! What `split` makes of a text, by the lines of the text.

Main statement: a header is found exactly if the grammar has one, and then it is what the grammar says. -/

set_option autoImplicit false

namespace Frontmark.Header

open Frontmark.Text

theorem exists_cutLead (text : List Char) :
    ∃ lead, cutLead text = (lead, dropMark text) ∧ lead ++ dropMark text = text ∧ '\n' ∉ lead := by
  cases text with
  | nil => exact ⟨[], rfl, rfl, by simp⟩
  | cons c text =>
    by_cases same : c = byteOrderMark
    · exact ⟨[c], by simp [cutLead, dropMark, same], by simp [dropMark, same], by simp [same, byteOrderMark]⟩
    · exact ⟨[], by simp [cutLead, dropMark, same], by simp [dropMark, same], by simp⟩

theorem dropReturn_fence {opener : List Char} (opens : opener ∈ fences) : dropReturn opener = opener := by
  have every : ∀ opener ∈ fences, dropReturn opener = opener := by decide
  exact every opener opens

theorem dropReturn_concat (line : List Char) : dropReturn (line ++ ['\r']) = line := by
  simp [dropReturn]

theorem eq_of_dropReturn (line : List Char) : line = dropReturn line ∨ line = dropReturn line ++ ['\r'] := by
  rw [dropReturn]
  split
  · next last =>
    obtain ⟨start, rfl⟩ := List.getLast?_eq_some_iff.mp last
    simp
  · exact .inl rfl

theorem Opens.exists_first {text opener : List Char} {later : List (List Char)} (opens : Opens text opener later) :
    ∃ first, lines text = first :: later ∧ dropReturn first = opener := by
  rcases opens.2 with cut | cut
  · exact ⟨opener, cut, dropReturn_fence opens.1⟩
  · exact ⟨opener ++ ['\r'], cut, dropReturn_concat opener⟩

theorem Opens.unique {text opener opener' : List Char} {later later' : List (List Char)} (one : Opens text opener later)
    (other : Opens text opener' later') : opener = opener' ∧ later = later' := by
  obtain ⟨first, cut, rfl⟩ := one.exists_first
  obtain ⟨first', cut', rfl⟩ := other.exists_first
  obtain ⟨rfl, rfl⟩ := List.cons.inj (cut.symm.trans cut')
  exact ⟨rfl, rfl⟩

namespace Layout

variable {l : Layout} {text gap body : List Char}

theorem Fits.lines_rest (fits : l.Fits text) : lines l.rest = l.blanks :: l.after := by
  have single : ∀ line ∈ (l.closer ++ l.blanks) :: l.after, '\n' ∉ line := fun line member =>
    newline_notMem_of_mem_lines (show line ∈ lines text by simp [fits.lines_eq, List.mem_cons.mp member])
  obtain ⟨first, after⟩ := List.forall_mem_cons.mp single
  rw [List.mem_append, not_or] at first
  exact lines_joined (List.forall_mem_cons.mpr ⟨first.2, after⟩) (by simp)

theorem Fits.blank_firstLine (fits : l.Fits text) : Blank (l.rest.takeWhile (· ≠ '\n')) := by
  rw [takeWhile_eq_of_lines fits.lines_rest]
  exact fits.blank

theorem Fits.exists_gap (fits : l.Fits text) : ∃ gap body, IsGap l.rest gap body := by
  obtain ⟨gap, body, -, isGap⟩ := gap?_of_blank fits.blank_firstLine
  exact ⟨gap, body, isGap⟩

theorem Fits.dropReturn_eq (fits : l.Fits text) : dropReturn (l.opener ++ l.ret) = l.opener := by
  rcases fits.ret_eq with none | ret
  · rw [none, List.append_nil, dropReturn_fence fits.opener_mem]
  · rw [ret, dropReturn_concat]

theorem Fits.lines_between (fits : l.Fits text) : lines l.between = l.ret :: (l.inside ++ [[]]) := by
  have ret : '\n' ∉ l.ret := by
    rcases fits.ret_eq with none | ret
    · simp [none]
    · simp [ret]
  rw [between, lines_cons_of_notMem ret, ← List.append_nil (terminated l.inside),
    lines_terminated_append (fun line member => fits.newline_notMem member)]
  rfl

/-- An indented line that can close a block stands among the lines of the block. -/
theorem Fits.mem_inside (fits : l.Fits text) {indent line : List Char} (member : indent ++ line ∈ lines l.between)
    (closes : Closes l.opener line) : indent ++ line ∈ l.inside := by
  have long := closes.three_le_length fits.opener_mem
  have short : ∀ other : List Char, other.length ≤ 1 → indent ++ line ≠ other := by
    rintro other few rfl
    rw [List.length_append] at few
    omega
  have ret : l.ret.length ≤ 1 := by
    rcases fits.ret_eq with none | ret
    · simp [none]
    · simp [ret]
  rw [fits.lines_between, List.mem_cons, List.mem_append, List.mem_singleton] at member
  rcases member with same | member | same
  · exact absurd same (short l.ret ret)
  · exact member
  · exact absurd same (short [] (by simp))

theorem Fits.count_between (fits : l.Fits text) : l.between.count '\n' = 1 + l.inside.length := by
  have ret : l.ret.count '\n' = 0 := by
    rcases fits.ret_eq with none | ret
    · simp [none]
    · simp [ret]
  rw [between, List.count_append, ret, List.count_cons_self,
    count_terminated fun line member => fits.newline_notMem member]
  omega

end Layout

/-- The scanner takes a text apart along the seams of its layout. -/
theorem locate_of_fits {text gap body : List Char} {l : Layout} (fits : l.Fits (dropMark text))
    (isGap : IsGap l.rest gap body) :
    ∃ lead, lead ++ dropMark text = text ∧ '\n' ∉ lead ∧
      locate text = some ⟨lead, l.opener, l.between, ⟨l.closer, gap, body⟩⟩ := by
  obtain ⟨lead, cut, whole, single⟩ := exists_cutLead text
  refine ⟨lead, whole, single, ?_⟩
  have line : (dropMark text).takeWhile (· ≠ '\n') = l.opener ++ l.ret := takeWhile_eq_of_lines fits.lines_eq
  have after : (dropMark text).dropWhile (· ≠ '\n') = '\n' :: (terminated l.inside ++ (l.closer ++ l.rest)) := by
    have parts := List.takeWhile_append_dropWhile (p := (· ≠ '\n')) (l := dropMark text)
    rw [line] at parts
    exact List.append_cancel_left (parts.trans fits.text_eq)
  -- When the scanner comes to the closing line, it has passed the rest of the first line and those inside.
  have found := seek_of_closing (closing?_of_blank fits.opener_mem fits.closer_mem isGap fits.blank_firstLine)
    ((terminated l.inside).reverse ++ '\n' :: l.ret.reverse)
  simp only [locate, cut, line, after, fits.dropReturn_eq, fits.opener_mem, not_true_eq_false, if_false,
    List.drop_left]
  rw [seek_terminated fits.opener_mem (fun line member => fits.newline_notMem member) fits.first, found]
  simp [Layout.between]

theorem locate_eq_none {text : List Char} (plain : ¬ HasBlock text) : locate text = none := by
  obtain ⟨lead, cut, -, -⟩ := exists_cutLead text
  obtain ⟨first, later, cutLines⟩ := exists_lines_eq (dropMark text)
  have line : (dropMark text).takeWhile (· ≠ '\n') = first := takeWhile_eq_of_lines cutLines
  have parts : first ++ (dropMark text).dropWhile (· ≠ '\n') = joined (first :: later) := by
    rw [← line, List.takeWhile_append_dropWhile, line, ← cutLines, joined_lines]
  simp only [locate, cut, line]
  by_cases opens : dropReturn first ∈ fences
  · have open_ : ∀ line ∈ later, ¬ Closes (dropReturn first) line := by
      intro line member closes
      refine plain ⟨dropReturn first, later, ⟨opens, ?_⟩, line, member, closes⟩
      rw [cutLines]
      exact (eq_of_dropReturn first).imp (congrArg (· :: later)) (congrArg (· :: later))
    cases later with
    | nil =>
      rw [joined_singleton, List.append_right_eq_self] at parts
      rw [if_neg (not_not.mpr opens), parts]
    | cons next later =>
      rw [joined_cons_of_ne_nil _ (by simp), List.append_cancel_left_eq] at parts
      have laterLines : lines (joined (next :: later)) = next :: later :=
        lines_joined (fun line member => newline_notMem_of_mem_lines
          (show line ∈ lines (dropMark text) by simp [cutLines, member])) (by simp)
      have ended (passed) : seek (dropReturn first) passed true (joined (next :: later)) = none :=
        seek_eq_none opens (by rwa [laterLines]) passed
      rw [if_neg (not_not.mpr opens), parts]
      simp only [ended, Option.map_none]
  · simp [opens]

theorem split_of_fits {text : String} {gap body : List Char} {l : Layout} (fits : l.Fits (dropMark text.toList))
    (isGap : IsGap l.rest gap body) :
    split text = ⟨some (String.ofList (trim l.between)), String.ofList body,
      2 + l.inside.length + gap.count '\n'⟩ := by
  obtain ⟨lead, -, single, found⟩ := locate_of_fits fits isGap
  have opener : l.opener.count '\n' = 0 :=
    List.count_eq_zero_of_not_mem (newline_notMem_fence fits.opener_mem List.mem_cons_self)
  have closer : l.closer.count '\n' = 0 :=
    List.count_eq_zero_of_not_mem (newline_notMem_fence fits.opener_mem fits.closer_mem)
  have head : 1 + (lead ++ l.opener ++ l.between ++ l.closer ++ gap).count '\n' =
      2 + l.inside.length + gap.count '\n' := by
    simp only [List.count_append, List.count_eq_zero_of_not_mem single, opener, closer, fits.count_between]
    omega
  rw [split, found]
  simp only [Block.head, head]

theorem split_eq_none {text : String} (plain : ¬ HasBlock text.toList) : split text = ⟨none, text, 1⟩ := by
  rw [split, locate_eq_none plain]

theorem isSome_header_iff (text : String) : (split text).header.isSome ↔ HasBlock text.toList := by
  constructor
  · intro found
    by_contra plain
    simp [split_eq_none plain] at found
  · intro hasBlock
    obtain ⟨l, fits⟩ := Layout.exists_fits hasBlock
    obtain ⟨gap, body, isGap⟩ := fits.exists_gap
    simp [split_of_fits fits isGap]

/-- Only an indented line of the block can close it once the header is trimmed. -/
theorem exists_indented_of_closes {text h : String} {opener line : List Char} {later : List (List Char)}
    (opens : Opens (dropMark text.toList) opener later) (found : (split text).header = some h)
    (member : line ∈ lines h.toList) (closes : Closes opener line) :
    ∃ indent closer, indent ≠ [] ∧ Blank indent ∧ Closes opener closer ∧ indent ++ closer ∈ later := by
  obtain ⟨l, fits⟩ := Layout.exists_fits ((isSome_header_iff text).mp (by simp [found]))
  obtain ⟨gap, body, isGap⟩ := fits.exists_gap
  obtain ⟨rfl, rfl⟩ := opens.unique fits.opens
  rw [split_of_fits fits isGap, Option.some.injEq] at found
  rw [← found, String.toList_ofList] at member
  obtain ⟨indent, more, indentBlank, moreBlank, member⟩ := exists_line_of_trim member
  have inside := fits.mem_inside member (closes.append moreBlank)
  refine ⟨indent, line ++ more, ?_, indentBlank, closes.append moreBlank, List.mem_append_left _ inside⟩
  -- without an indent the line would have closed the block where it stands
  rintro rfl
  exact fits.first _ inside (closes.append moreBlank)

theorem trim_header {text h : String} (found : (split text).header = some h) : trim h.toList = h.toList := by
  rw [split] at found
  split at found
  · cases found
  · obtain rfl := Option.some.inj found
    rw [String.toList_ofList, trim_trim]

/-- `split` reads the grammar of metadata blocks: it finds a header exactly if a fence on the first line is
followed by a line that can close the block. Then the text has a layout, in which the first such line closes the
block; the header is what stands before it without the blanks at its ends, and the body is what stands behind it
without the gap. Otherwise the text is all body. -/
theorem split_grammar (text : String) :
    ((split text).header.isSome ↔ HasBlock text.toList) ∧
    ((split text).header.isSome → ∃ l : Layout, l.Fits (dropMark text.toList)) ∧
    (∀ l : Layout, l.Fits (dropMark text.toList) →
      (split text).header = some (String.ofList (trim l.between)) ∧
      ∃ gap, IsGap l.rest gap (split text).body.toList ∧
        (split text).bodyBegin = 2 + l.inside.length + gap.count '\n') ∧
    ((split text).header = none → split text = ⟨none, text, 1⟩) := by
  refine ⟨isSome_header_iff text, ?_, ?_, ?_⟩
  · intro found
    exact Layout.exists_fits ((isSome_header_iff text).mp found)
  · intro l fits
    obtain ⟨gap, body, isGap⟩ := fits.exists_gap
    rw [split_of_fits fits isGap]
    exact ⟨rfl, gap, by simpa using isGap, rfl⟩
  · intro absent
    apply split_eq_none
    rw [← isSome_header_iff, absent]
    simp

end Frontmark.Header
