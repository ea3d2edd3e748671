import Frontmark.Proofs.Header.Split

/-! Reading back a header that has been written above a body.

The writer always uses the same fence and writes the header as it is, so a header comes back if none of its
lines can be taken for the closing one, and if it has no blanks at its ends. -/

set_option autoImplicit false

namespace Frontmark.Header

open Frontmark.Text

/-- The fence that headers are written with. -/
def dashes : List Char :=
  "---".toList

theorem dashes_mem_fences : dashes ∈ fences := by
  decide

theorem newline_notMem_dashes : '\n' ∉ dashes := by
  decide

theorem toList_attach (h body : String) :
    (attach (some h) body).toList = dashes ++ '\n' :: (h.toList ++ '\n' :: (dashes ++ '\n' :: body.toList)) := by
  simp [attach, dashes]

theorem dropMark_attach (h body : String) : dropMark (attach (some h) body).toList = (attach (some h) body).toList := by
  rw [toList_attach]
  rfl

theorem lines_attach (h body : String) :
    lines (attach (some h) body).toList = dashes :: (lines h.toList ++ dashes :: lines body.toList) := by
  rw [toList_attach, lines_cons_of_notMem newline_notMem_dashes, lines_append_cons,
    lines_cons_of_notMem newline_notMem_dashes]

/-- A header with a line that can close the block is cut short there. -/
theorem length_header_attach_lt {h body found : String} (closed : ∃ line ∈ lines h.toList, Closes dashes line)
    (read : (split (attach (some h) body)).header = some found) : found.toList.length < h.toList.length := by
  obtain ⟨inside, closer, blanks, after, cut, closer_mem, blank, first⟩ := exists_first_closing closed
  let l : Layout := ⟨dashes, [], inside, closer, blanks, after ++ dashes :: lines body.toList⟩
  have fits : l.Fits (dropMark (attach (some h) body).toList) :=
    ⟨by simp [l, dropMark_attach, lines_attach, cut], dashes_mem_fences, .inl rfl, closer_mem, blank, first⟩
  obtain ⟨gap, rest, isGap⟩ := fits.exists_gap
  rw [split_of_fits fits isGap, Option.some.injEq] at read
  have between : l.between = ['\n'] ++ terminated inside ++ [] := by simp [Layout.between, l]
  have whole : h.toList = terminated inside ++ (closer ++ joined (blanks :: after)) := by
    rw [← joined_lines h.toList, cut, joined_append _ (by simp), joined_append_cons]
  -- What is found is trimmed from the lines before the closing one, so it lacks at least the fence there.
  have long := three_le_length_fence dashes_mem_fences closer_mem
  have shorter := length_trim_le (terminated inside)
  rw [← read, between, trim_append (by simp) _ Blank.nil, String.toList_ofList, whole]
  simp only [List.length_append]
  omega

/-- A header none of whose lines can close the block comes back without the blanks at its ends. -/
theorem split_attach (h body : String) (open_ : ∀ line ∈ lines h.toList, ¬ Closes dashes line) :
    ∃ gap rest, IsGap body.toList gap rest ∧
      split (attach (some h) body) = ⟨some (String.ofList (trim h.toList)), String.ofList rest,
        4 + h.toList.count '\n' + gap.count '\n'⟩ := by
  let l : Layout := ⟨dashes, [], lines h.toList, dashes, [], lines body.toList⟩
  have fits : l.Fits (dropMark (attach (some h) body).toList) :=
    ⟨by simp [l, dropMark_attach, lines_attach], dashes_mem_fences, .inl rfl, List.mem_cons_self, Blank.nil, open_⟩
  have between : l.between = ['\n'] ++ h.toList ++ ['\n'] := by simp [Layout.between, l, terminated_lines]
  have after : l.rest = '\n' :: body.toList := by
    simp [Layout.rest, l, joined_cons_of_ne_nil _ (lines_ne_nil _), joined_lines]
  obtain ⟨gap, rest, isGap⟩ := fits.exists_gap
  -- the line break after the closing fence belongs to the block, not to the body
  obtain ⟨gap, rfl, bodyGap⟩ := (after ▸ isGap).of_newline
  refine ⟨gap, rest, bodyGap, ?_⟩
  rw [split_of_fits fits isGap, between, trim_append (by simp) _ (by simp)]
  simp only [l, length_lines, List.count_cons_self]
  congr 1
  omega

theorem header_attach_iff (h body : String) :
    (split (attach (some h) body)).header = some h ↔
      trim h.toList = h.toList ∧ ∀ line ∈ lines h.toList, ¬ Closes dashes line := by
  constructor
  · intro read
    have open_ : ∀ line ∈ lines h.toList, ¬ Closes dashes line := by
      intro line member closes
      exact Nat.lt_irrefl _ (length_header_attach_lt ⟨line, member, closes⟩ read)
    obtain ⟨gap, rest, -, whole⟩ := split_attach h body open_
    rw [whole, Option.some.injEq] at read
    exact ⟨by simpa using congrArg String.toList read, open_⟩
  · rintro ⟨trimmed, open_⟩
    obtain ⟨gap, rest, -, whole⟩ := split_attach h body open_
    rw [whole, trimmed, String.ofList_toList]

end Frontmark.Header
