import Frontmark.Proofs.Header.Gap

/-! The grammar of texts with a metadata block, line by line.

`Layout` says what the lines of such a text are, without the scanner's position or its notes on what it has
passed. The scanner finds the layout of every text that has one (`locate_of_fits`), and finds nothing in all
other texts (`locate_eq_none`). -/

set_option autoImplicit false

namespace Frontmark.Header

open Frontmark.Text

def dropMark (text : List Char) : List Char :=
  if text.head? = some byteOrderMark then text.tail else text

/-- A line with the fence that opened the block, or three dots, and then only blanks. -/
def Closes (opener line : List Char) : Prop :=
  ∃ fence ∈ [opener, dots], ∃ blanks, Blank blanks ∧ line = fence ++ blanks

theorem newline_notMem_fence {opener fence : List Char} (opens : opener ∈ fences) (member : fence ∈ [opener, dots]) :
    '\n' ∉ fence := by
  have every : ∀ opener ∈ fences, ∀ fence ∈ [opener, dots], '\n' ∉ fence := by decide
  exact every opener opens fence member

theorem three_le_length_fence {opener fence : List Char} (opens : opener ∈ fences) (member : fence ∈ [opener, dots]) :
    3 ≤ fence.length := by
  have every : ∀ opener ∈ fences, ∀ fence ∈ [opener, dots], 3 ≤ fence.length := by decide
  exact every opener opens fence member

theorem Closes.three_le_length {opener line : List Char} (opens : opener ∈ fences) (closes : Closes opener line) :
    3 ≤ line.length := by
  obtain ⟨fence, member, blanks, -, rfl⟩ := closes
  have long := three_le_length_fence opens member
  rw [List.length_append]
  omega

theorem Closes.append {opener line more : List Char} (closes : Closes opener line) (blank : Blank more) :
    Closes opener (line ++ more) := by
  obtain ⟨fence, member, blanks, lineBlank, rfl⟩ := closes
  exact ⟨fence, member, blanks ++ more, blank_append.mpr ⟨lineBlank, blank⟩, List.append_assoc ..⟩

/-- If some line can close a block, then there is a first one. -/
theorem exists_first_closing {opener : List Char} {later : List (List Char)} (closed : ∃ line ∈ later, Closes opener line) :
    ∃ inside closer blanks after, later = inside ++ (closer ++ blanks) :: after ∧ closer ∈ [opener, dots] ∧
      Blank blanks ∧ ∀ line ∈ inside, ¬ Closes opener line := by
  classical
  obtain ⟨line, found⟩ : ∃ line, later.find? (fun line => decide (Closes opener line)) = some line := by
    obtain ⟨line, member, closes⟩ := closed
    exact Option.isSome_iff_exists.mp (List.find?_isSome.mpr ⟨line, member, decide_eq_true closes⟩)
  obtain ⟨closes, inside, after, rfl, first⟩ := List.find?_eq_some_iff_append.mp found
  obtain ⟨closer, closer_mem, blanks, blank, rfl⟩ := of_decide_eq_true closes
  exact ⟨inside, closer, blanks, after, rfl, closer_mem, blank, fun line member => by simpa using first line member⟩

/-- The first line of a text is a fence, but for a carriage return after it, and `later` are the other lines. -/
def Opens (text opener : List Char) (later : List (List Char)) : Prop :=
  opener ∈ fences ∧ (lines text = opener :: later ∨ lines text = (opener ++ ['\r']) :: later)

/-- The first line of the text opens a metadata block, and a later line can close it. -/
def HasBlock (text : List Char) : Prop :=
  ∃ opener later, Opens (dropMark text) opener later ∧ ∃ line ∈ later, Closes opener line

/-- The lines of a text with a metadata block: the opening fence, the carriage return after it if there is one,
the lines inside, the closing fence, the blanks after it on its line, and the lines that follow. -/
structure Layout where
  opener : List Char
  ret : List Char
  inside : List (List Char)
  closer : List Char
  blanks : List Char
  after : List (List Char)

namespace Layout

/-- What stands between the opening fence and the line of the closing one. -/
def between (l : Layout) : List Char :=
  l.ret ++ '\n' :: terminated l.inside

/-- What stands behind the closing fence. -/
def rest (l : Layout) : List Char :=
  joined (l.blanks :: l.after)

/-- The layout of a text that begins with an opening fence; the first line that can close the block does. -/
structure Fits (l : Layout) (text : List Char) : Prop where
  lines_eq : lines text = (l.opener ++ l.ret) :: (l.inside ++ (l.closer ++ l.blanks) :: l.after)
  opener_mem : l.opener ∈ fences
  ret_eq : l.ret = [] ∨ l.ret = ['\r']
  closer_mem : l.closer ∈ [l.opener, dots]
  blank : Blank l.blanks
  first : ∀ line ∈ l.inside, ¬ Closes l.opener line

theorem Fits.newline_notMem {l : Layout} {text : List Char} (fits : l.Fits text) {line : List Char}
    (member : line ∈ l.inside) : '\n' ∉ line :=
  newline_notMem_of_mem_lines (show line ∈ lines text by simp [fits.lines_eq, member])

theorem Fits.text_eq {l : Layout} {text : List Char} (fits : l.Fits text) :
    text = l.opener ++ l.ret ++ '\n' :: (terminated l.inside ++ (l.closer ++ l.rest)) := by
  rw [← joined_lines text, fits.lines_eq, joined_cons_of_ne_nil _ (by simp), joined_append _ (by simp),
    joined_append_cons, rest]

theorem exists_fits {text : List Char} (hasBlock : HasBlock text) : ∃ l : Layout, l.Fits (dropMark text) := by
  obtain ⟨opener, later, opens, closed⟩ := hasBlock
  obtain ⟨inside, closer, blanks, after, rfl, closer_mem, blank, first⟩ := exists_first_closing closed
  rcases opens.2 with cut | cut
  · exact ⟨⟨opener, [], inside, closer, blanks, after⟩, by simp [cut], opens.1, .inl rfl, closer_mem, blank, first⟩
  · exact ⟨⟨opener, ['\r'], inside, closer, blanks, after⟩, by simp [cut], opens.1, .inr rfl, closer_mem, blank, first⟩

theorem Fits.opens {l : Layout} {text : List Char} (fits : l.Fits text) :
    Opens text l.opener (l.inside ++ (l.closer ++ l.blanks) :: l.after) := by
  refine ⟨fits.opener_mem, ?_⟩
  rcases fits.ret_eq with none | ret
  · exact .inl (by simpa [none] using fits.lines_eq)
  · exact .inr (by simpa [ret] using fits.lines_eq)

end Layout

section Scanner

theorem dropStart?_append (start rest : List Char) : dropStart? start (start ++ rest) = some rest := by
  induction start with
  | nil => rfl
  | cons s start ih => simp [dropStart?, ih]

theorem eq_append_of_dropStart? {start text rest : List Char} (found : dropStart? start text = some rest) :
    text = start ++ rest := by
  induction start generalizing text with
  | nil => simpa [dropStart?] using found
  | cons s start ih =>
    cases text with
    | nil => simp [dropStart?] at found
    | cons c text =>
      rw [dropStart?] at found
      split at found
      · next same => rw [ih found, same, List.cons_append]
      · cases found

variable {opener : List Char}

/-- No text begins with dots and with an opening fence. -/
theorem dropStart?_dots (opens : opener ∈ fences) (rest : List Char) : dropStart? opener (dots ++ rest) = none := by
  have other : opener = "---".toList ∨ opener = "= yaml =".toList := by simpa [fences] using opens
  rcases other with rfl | rfl <;> rfl

theorem closing?_of_blank (opens : opener ∈ fences) {fence : List Char} (member : fence ∈ [opener, dots])
    {rest gap body : List Char} (isGap : IsGap rest gap body) (blank : Blank (rest.takeWhile (· ≠ '\n'))) :
    closing? opener (fence ++ rest) = some ⟨fence, gap, body⟩ := by
  have found : closingWith? (fence ++ rest) fence = some ⟨fence, gap, body⟩ := by
    obtain ⟨gap', body', read, isGap'⟩ := gap?_of_blank blank
    obtain ⟨rfl, rfl⟩ := isGap'.unique isGap
    simp [closingWith?, dropStart?_append, read]
  simp only [List.mem_cons, List.not_mem_nil, or_false] at member
  rcases member with rfl | rfl
  · simp [closing?, found]
  · -- the fence that opened the block is tried first, and in vain
    have other : closingWith? (dots ++ rest) opener = none := by simp [closingWith?, dropStart?_dots opens]
    simp [closing?, other, found]

theorem closing?_eq_none (opens : opener ∈ fences) {text line : List Char} {after : List (List Char)}
    (cut : lines text = line :: after) (open_ : ¬ Closes opener line) : closing? opener text = none := by
  rw [closing?, List.findSome?_eq_none_iff]
  intro fence member
  cases start : dropStart? fence text with
  | none => simp [closingWith?, start]
  | some rest =>
    have visible : ¬ Blank (rest.takeWhile (· ≠ '\n')) := by
      intro blank
      have inside : ∀ c ∈ fence, decide (c ≠ '\n') = true := fun c found =>
        decide_eq_true fun same => newline_notMem_fence opens member (same ▸ found)
      refine open_ ⟨fence, member, _, blank, ?_⟩
      rw [← takeWhile_eq_of_lines cut, eq_append_of_dropStart? start, List.takeWhile_append_of_pos inside]
    simp [closingWith?, start, gap?_of_not_blank visible]

theorem seek_of_closing {text : List Char} {closing : Closing} (found : closing? opener text = some closing)
    (passed : List Char) : seek opener passed true text = some (passed.reverse, closing) := by
  rw [seek.eq_def]
  simp [found]

theorem seek_of_open {text : List Char} (open_ : closing? opener text = none) (passed : List Char) :
    seek opener passed true text = seek opener passed false text := by
  rw [seek.eq_def, seek.eq_def opener passed false]
  simp [open_]

/-- Inside a line the scanner goes on to the end of it. -/
theorem seek_line {line : List Char} (single : '\n' ∉ line) (passed rest : List Char) :
    seek opener passed false (line ++ rest) = seek opener (line.reverse ++ passed) false rest := by
  induction line generalizing passed with
  | nil => rfl
  | cons c line ih =>
    rw [List.mem_cons, not_or] at single
    have other : decide (c = '\n') = false := decide_eq_false (Ne.symm single.1)
    rw [List.cons_append, seek]
    simp [other, ih single.2]

/-- The scanner passes a line that does not close the block. -/
theorem seek_cons (opens : opener ∈ fences) {line : List Char} (single : '\n' ∉ line) (open_ : ¬ Closes opener line)
    (passed rest : List Char) :
    seek opener passed true (line ++ '\n' :: rest) = seek opener ('\n' :: (line.reverse ++ passed)) true rest := by
  rw [seek_of_open (closing?_eq_none opens (lines_cons_of_notMem single rest) open_), seek_line single, seek]
  simp

/-- The scanner passes lines as long as none of them closes the block, and keeps all that it has passed. -/
theorem seek_terminated (opens : opener ∈ fences) {inside : List (List Char)} (single : ∀ line ∈ inside, '\n' ∉ line)
    (open_ : ∀ line ∈ inside, ¬ Closes opener line) (passed rest : List Char) :
    seek opener passed true (terminated inside ++ rest) =
      seek opener ((terminated inside).reverse ++ passed) true rest := by
  induction inside generalizing passed with
  | nil => rfl
  | cons line inside ih =>
    obtain ⟨lineSingle, single⟩ := List.forall_mem_cons.mp single
    obtain ⟨lineOpen, open_⟩ := List.forall_mem_cons.mp open_
    rw [terminated_cons, List.append_assoc, List.cons_append, seek_cons opens lineSingle lineOpen, ih single open_]
    simp

theorem seek_eq_none (opens : opener ∈ fences) {text : List Char} (open_ : ∀ line ∈ lines text, ¬ Closes opener line)
    (passed : List Char) : seek opener passed true text = none := by
  obtain ⟨inside, last, cut⟩ := exists_lines_eq_concat text
  have single : ∀ line ∈ inside ++ [last], '\n' ∉ line := fun line member => newline_notMem_of_mem_lines (cut ▸ member)
  -- the scanner passes all lines that end, and stops inside the last one, which does not
  rw [cut] at open_
  have parts : text = terminated inside ++ last := by
    rw [← joined_lines text, cut, joined_append _ (by simp), joined_singleton]
  have lastSingle := single last (by simp)
  rw [parts, seek_terminated opens (fun line member => single line (by simp [member]))
    (fun line member => open_ line (by simp [member])),
    seek_of_open (closing?_eq_none opens (lines_of_notMem lastSingle) (open_ last (by simp))),
    ← List.append_nil last, seek_line lastSingle, seek]
  simp

end Scanner

end Frontmark.Header
