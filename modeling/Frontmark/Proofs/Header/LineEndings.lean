import Frontmark.Proofs.Header.Split
import Frontmark.Proofs.Text.LineEndings

/-! Splitting a text with either line ending.

Returns are blanks, so they change neither which lines close a block nor where the gap ends. Main statement: the
parts of a text without returns, written with returns, are those of the whole text written so (`split_crlf`). -/

set_option autoImplicit false

namespace Frontmark.Header

open Frontmark.Text

theorem dropMark_withReturns (text : List Char) : dropMark (withReturns text) = withReturns (dropMark text) := by
  cases text with
  | nil => rfl
  | cons c text =>
    by_cases newline : c = '\n'
    · subst newline
      rfl
    · rw [withReturns_cons newline, dropMark, dropMark, List.head?_cons, List.head?_cons]
      split
      · rfl
      · rw [withReturns_cons newline]

theorem getLast?_fence {opener fence : List Char} (opens : opener ∈ fences) (member : fence ∈ [opener, dots]) :
    fence.getLast? ≠ some '\r' := by
  have every : ∀ opener ∈ fences, ∀ fence ∈ [opener, dots], fence.getLast? ≠ some '\r' := by decide
  exact every opener opens fence member

/-- A line closes a block with a return after it if it does without. -/
theorem closes_append_return_iff {opener line : List Char} (opens : opener ∈ fences) :
    Closes opener (line ++ ['\r']) ↔ Closes opener line := by
  refine ⟨?_, fun closes => closes.append (by decide)⟩
  rintro ⟨fence, member, blanks, blank, parts⟩
  rcases List.eq_nil_or_concat' blanks with rfl | ⟨blanks, d, rfl⟩
  · -- the return would belong to the fence
    refine absurd ?_ (getLast?_fence opens member)
    rw [← List.append_nil fence, ← parts, List.getLast?_concat]
  · rw [← List.append_assoc] at parts
    exact ⟨fence, member, blanks, (blank_append.mp blank).1, (List.append_inj' parts rfl).1⟩

theorem IsGap.withReturns {text gap body : List Char} (isGap : IsGap text gap body) :
    IsGap (withReturns text) (withReturns gap) (withReturns body) where
  parts := by rw [← withReturns_append, isGap.parts]
  blank := blank_withReturns.mpr isGap.blank
  whole blank := by rw [isGap.whole (blank_withReturns.mp blank), withReturns_nil]
  ended visible := by
    rcases isGap.ended (mt blank_withReturns.mpr visible) with rfl | last
    · exact .inl rfl
    · obtain ⟨start, rfl⟩ := List.getLast?_eq_some_iff.mp last
      exact .inr (by simp)
  longest := by
    intro start rest cut startBlank
    obtain ⟨before, after, whole, rfl⟩ := exists_eq_of_withReturns cut
    have blank : Blank before := blank_withReturns.mp (blank_append.mp startBlank).1
    -- the gap reaches past the line feed, and so it does with returns
    have long := isGap.longest before after whole.symm blank
    have inside : before ++ ['\n'] <+: gap := by
      refine List.prefix_of_prefix_length_le ⟨after, ?_⟩ ⟨body, isGap.parts⟩ ?_
      · rw [whole, List.append_assoc, List.singleton_append]
      · rw [List.length_append]
        exact long
    obtain ⟨more, rfl⟩ := inside
    simp

namespace Layout

/-- The layout of the text with returns. -/
def withReturns (l : Layout) : Layout where
  opener := l.opener
  ret := ['\r']
  inside := l.inside.map (· ++ ['\r'])
  closer := l.closer
  blanks := (Text.withReturns l.rest).takeWhile (· ≠ '\n')
  after := (lines (Text.withReturns l.rest)).tail

variable {l : Layout} {text : List Char}

theorem lines_withReturns_rest (l : Layout) :
    lines (Text.withReturns l.rest) = l.withReturns.blanks :: l.withReturns.after := by
  obtain ⟨first, later, cut⟩ := exists_lines_eq (Text.withReturns l.rest)
  rw [withReturns, takeWhile_eq_of_lines cut, cut, List.tail_cons]

theorem rest_withReturns (l : Layout) : l.withReturns.rest = Text.withReturns l.rest := by
  rw [rest, ← lines_withReturns_rest, joined_lines]

theorem Fits.between_withReturns (fits : l.Fits text) (plain : l.ret = []) :
    l.withReturns.between = Text.withReturns l.between := by
  rw [between, between, plain, List.nil_append, withReturns_newline,
    withReturns_terminated (fun line member => fits.newline_notMem member)]
  rfl

theorem Fits.withReturns (fits : l.Fits text) (plain : l.ret = []) : l.withReturns.Fits (Text.withReturns text) where
  lines_eq := by
    have openerSingle := newline_notMem_fence fits.opener_mem List.mem_cons_self
    have closerSingle := newline_notMem_fence fits.opener_mem fits.closer_mem
    have insideSingle : ∀ line ∈ l.withReturns.inside, '\n' ∉ line := by
      intro line member
      obtain ⟨line, inside, rfl⟩ := List.mem_map.mp member
      simpa using fits.newline_notMem inside
    have written : Text.withReturns text =
        (l.opener ++ ['\r']) ++ '\n' :: (terminated l.withReturns.inside ++ (l.closer ++ Text.withReturns l.rest)) := by
      rw [fits.text_eq, plain]
      simp [withReturns_of_notMem openerSingle, withReturns_of_notMem closerSingle,
        withReturns_terminated (fun line member => fits.newline_notMem member), Layout.withReturns]
    have closing : lines (l.closer ++ Text.withReturns l.rest) = (l.closer ++ l.withReturns.blanks) :: l.withReturns.after :=
      lines_append (show lines l.closer = [] ++ [l.closer] from lines_of_notMem closerSingle) l.lines_withReturns_rest
    rw [written, lines_cons_of_notMem (by simpa using openerSingle), lines_terminated_append insideSingle, closing]
    rfl
  opener_mem := fits.opener_mem
  ret_eq := .inr rfl
  closer_mem := fits.closer_mem
  blank := blank_firstLine_withReturns fits.blank_firstLine
  first := by
    intro line member
    obtain ⟨line, inside, rfl⟩ := List.mem_map.mp member
    exact mt (closes_append_return_iff fits.opener_mem).mp (fits.first line inside)

end Layout

/-- Returns open no block and close none. -/
theorem hasBlock_of_withReturns {text : List Char} (hasBlock : HasBlock (withReturns text)) : HasBlock text := by
  obtain ⟨opener, later, ⟨opener_mem, cut⟩, line, member, closes⟩ := hasBlock
  obtain ⟨before, last, plainCut⟩ := exists_lines_eq_concat (dropMark text)
  rw [dropMark_withReturns, lines_withReturns plainCut] at cut
  cases before with
  | nil =>
    -- there is one line only, and none that could close the block
    have none : later = [] := by rcases cut with cut | cut <;> simpa using (List.cons.inj cut).2.symm
    rw [none] at member
    cases member
  | cons first before =>
    simp only [List.map_cons, List.cons_append, List.cons.injEq] at cut
    -- the first line has a return at its end, so it is a fence with one and not a fence alone
    obtain ⟨same, rfl⟩ | ⟨same, rfl⟩ := cut
    · refine absurd ?_ (getLast?_fence opener_mem List.mem_cons_self)
      rw [← same, List.getLast?_concat]
    · rw [List.append_left_inj] at same
      refine ⟨opener, before ++ [last], ⟨opener_mem, .inl (by rw [plainCut, same, List.cons_append])⟩, ?_⟩
      rcases List.mem_append.mp member with returned | rest
      · obtain ⟨line, inside, rfl⟩ := List.mem_map.mp returned
        exact ⟨line, List.mem_append_left _ inside, (closes_append_return_iff opener_mem).mp closes⟩
      · exact ⟨line, List.mem_append_right _ rest, closes⟩

/-- The line ending makes no difference to where a text is divided: with returns, header and body are those of the text
without them, written with returns, and the body starts on the same line. -/
theorem split_crlf {text : String} (plain : '\r' ∉ text.toList) :
    split (crlf text) = ⟨(split text).header.map crlf, crlf (split text).body, (split text).bodyBegin⟩ := by
  by_cases hasBlock : HasBlock text.toList
  · obtain ⟨l, fits⟩ := Layout.exists_fits hasBlock
    obtain ⟨gap, body, isGap⟩ := fits.exists_gap
    have ret : l.ret = [] := by
      obtain ⟨lead, -, whole, -⟩ := exists_cutLead text.toList
      refine fits.ret_eq.resolve_right fun ret => plain ?_
      rw [← whole, fits.text_eq, ret]
      simp
    have returned : l.withReturns.Fits (dropMark (crlf text).toList) := by
      rw [crlf, String.toList_ofList, dropMark_withReturns]
      exact fits.withReturns ret
    have returnedGap : IsGap l.withReturns.rest (withReturns gap) (withReturns body) := by
      rw [l.rest_withReturns]
      exact isGap.withReturns
    rw [split_of_fits fits isGap, split_of_fits returned returnedGap, fits.between_withReturns ret, trim_withReturns,
      count_withReturns]
    simp [crlf, Layout.withReturns]
  · have hasNone : ¬ HasBlock (crlf text).toList := by
      rw [crlf, String.toList_ofList]
      exact mt hasBlock_of_withReturns hasBlock
    rw [split_eq_none hasBlock, split_eq_none hasNone]
    rfl

/-- A mark, an empty line in the block, blanks after the closing fence and an indented body. -/
theorem split_crlf_indented :
    let text := "\ufeff---\n\na: 1\nb: 2\n--- \n\n  Body\nmore"
    '\r' ∉ text.toList ∧ split (crlf text) = ⟨some "a: 1\r\nb: 2", "  Body\r\nmore", 7⟩ := by
  intro text
  have plain : '\r' ∉ text.toList := by decide +kernel
  have divided : split text = ⟨some "a: 1\nb: 2", "  Body\nmore", 7⟩ := by decide +kernel
  refine ⟨plain, ?_⟩
  rw [split_crlf plain, divided]
  decide +kernel

/-- A return that is there already is doubled, and dashes with one return after them are no fence. -/
example : (split "---\r\na: 1\r\n---\r\n").header = some "a: 1" ∧ (split (crlf "---\r\na: 1\r\n---\r\n")).header = none := by
  decide +kernel

end Frontmark.Header
