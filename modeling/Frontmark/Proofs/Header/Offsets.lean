import Frontmark.Header.Offsets
import Frontmark.Proofs.Except
import Frontmark.Proofs.Header.Split
import Frontmark.Proofs.Text.Slice

/-! The division of a text by offsets, step by step beside the one by characters.

An offset is known by the characters before it: the one behind `before` is `size before`. Every range that is cut out
then begins and ends at a seam of the text. Main statement: no text has a fault in it, and the loop is over after as many
turns as the text has line breaks (`split_eq_ok`). -/

set_option autoImplicit false

namespace Frontmark.Header.Offsets

open Frontmark.Text
open Frontmark.Text.Utf8 (size size_append utf8ByteSize_eq)

section Seams

variable {text : String} {before middle after : List Char}

theorem cut_append (parts : text.toList = before ++ (middle ++ after)) :
    cut text ⟨size before, size (before ++ middle)⟩ = .ok (String.ofList middle) := by
  rw [cut, slice?_append parts]

theorem cut_end (parts : text.toList = before ++ after) :
    cut text ⟨size before, text.utf8ByteSize⟩ = .ok (String.ofList after) := by
  rw [cut, slice?_end parts]

theorem cut_start (parts : text.toList = before ++ after) : cut text ⟨0, size before⟩ = .ok (String.ofList before) :=
  cut_append (show text.toList = [] ++ (before ++ after) from parts)

theorem sum_of_le {n : Nat} (small : n ≤ text.utf8ByteSize + 1) : sum text n = .ok n :=
  if_pos small

theorem size_le (parts : text.toList = before ++ after) : size before ≤ text.utf8ByteSize := by
  rw [utf8ByteSize_eq, parts, size_append]
  exact Nat.le_add_right ..

theorem sum_size (parts : text.toList = before ++ after) : sum text (size before) = .ok (size before) :=
  sum_of_le (Nat.le_succ_of_le (size_le parts))

end Seams

/-- A line of a text, between what stands before it and what follows, which begins with a line break if there is
anything. -/
structure IsLine (text : String) (before line after : List Char) : Prop where
  parts : text.toList = before ++ (line ++ after)
  single : '\n' ∉ line
  ended : after = [] ∨ after.head? = some '\n'

theorem isLine_of_eq_append {text : String} {before rest : List Char} (parts : text.toList = before ++ rest) :
    IsLine text before (rest.takeWhile (· ≠ '\n')) (rest.dropWhile (· ≠ '\n')) where
  parts := by rw [List.takeWhile_append_dropWhile, parts]
  single member := by simpa using List.mem_takeWhile_imp member
  ended := by
    have stop := List.head?_dropWhile_not (· ≠ '\n') rest
    cases after : rest.dropWhile (· ≠ '\n') with
    | nil => exact .inl rfl
    | cons c later =>
      rw [after] at stop
      exact .inr (by simpa using stop)

namespace IsLine

variable {text : String} {before line after later : List Char}

theorem size_of_last (isLine : IsLine text before line []) : size (before ++ line) = text.utf8ByteSize := by
  rw [utf8ByteSize_eq, isLine.parts, List.append_nil]

theorem parts_next (isLine : IsLine text before line ('\n' :: later)) :
    text.toList = (before ++ (line ++ ['\n'])) ++ later := by
  simp [isLine.parts]

theorem size_next : size (before ++ (line ++ ['\n'])) = size (before ++ line) + 1 := by
  simp [Nat.add_assoc]

theorem size_lt_of_next (isLine : IsLine text before line ('\n' :: later)) :
    size (before ++ line) < text.utf8ByteSize := by
  rw [← Nat.succ_le_iff, Nat.succ_eq_add_one, ← size_next]
  exact size_le isLine.parts_next

theorem sum_next (isLine : IsLine text before line ('\n' :: later)) :
    sum text (size (before ++ line) + 1) = .ok (size (before ++ (line ++ ['\n']))) := by
  rw [← size_next, sum_size isLine.parts_next]

theorem lineEnd_eq (isLine : IsLine text before line after) : lineEnd text (size before) = .ok (size (before ++ line)) := by
  have other : ∀ c ∈ line, decide (c = '\n') = false := fun c member =>
    decide_eq_false fun same => isLine.single (same ▸ member)
  rw [lineEnd, cut_end isLine.parts, ok_bind, String.toList_ofList]
  rcases isLine.ended with rfl | next
  · rw [List.append_nil, firstOffset?_eq_none other, isLine.size_of_last]
    rfl
  · obtain ⟨later, rfl⟩ := List.head?_eq_some_iff.mp next
    rw [firstOffset?_append other (decide_eq_true rfl)]
    dsimp only
    rw [← size_append, sum_size (isLine.parts.trans (List.append_assoc ..).symm)]

/-- A fence that the rest of a text begins with is on the line. -/
theorem prefix_of_dropStart? (isLine : IsLine text before line after) {fence rest : List Char} (single : '\n' ∉ fence)
    (found : dropStart? fence (line ++ after) = some rest) : fence <+: line := by
  rcases List.append_eq_append_iff.mp (eq_append_of_dropStart? found) with ⟨more, rfl, seam⟩ | ⟨more, rfl, -⟩
  · cases more with
    | nil => simp
    | cons c more =>
      -- what the line lacks of the fence would begin with a line break
      have ended := isLine.ended
      rw [seam, List.cons_append] at ended
      have same : c = '\n' := by simpa using ended
      simp [same] at single
  · exact List.prefix_append fence more

end IsLine

section Closing

variable {text : String} {before rest : List Char}

theorem closingEnd_of_blank (parts : text.toList = before ++ rest) (blank : Blank rest) :
    closingEnd text (size before) = .ok (some text.utf8ByteSize) := by
  have never : firstOffset? (!isBlank ·) rest = none :=
    firstOffset?_eq_none fun c member => by rw [blank c member, Bool.not_true]
  rw [closingEnd, cut_end parts, ok_bind, String.toList_ofList, never, Option.getD_none, if_pos rfl]
  rfl

/-- If something other than blanks follows, then the last line break before it decides. -/
theorem closingEnd_of_visible {blanks tail : List Char} {c : Char} (parts : text.toList = before ++ (blanks ++ c :: tail))
    (blank : Blank blanks) (visible : isBlank c = false) :
    closingEnd text (size before) =
      match lastOffset? (· = '\n') blanks with
      | none => .ok none
      | some offset => sum text (size before + offset + 1) >>= fun start => .ok (some start) := by
  have first : firstOffset? (!isBlank ·) (blanks ++ c :: tail) = some (size blanks) :=
    firstOffset?_append (fun d member => by rw [blank d member, Bool.not_true]) (by rw [visible, Bool.not_false])
  have inside : size blanks ≠ (String.ofList (blanks ++ c :: tail)).utf8ByteSize := by
    have wide := c.utf8Size_pos
    rw [Utf8.utf8ByteSize_ofList, size_append, Utf8.size_cons]
    omega
  rw [closingEnd, cut_end parts, ok_bind, String.toList_ofList, first, Option.getD_some, if_neg inside,
    cut_start String.toList_ofList, ok_bind, String.toList_ofList]
  rfl

theorem closingEnd_eq (parts : text.toList = before ++ rest) :
    closingEnd text (size before) = .ok ((gap? rest).map fun cut => size (before ++ cut.1)) := by
  cases stop : rest.dropWhile isBlank with
  | nil =>
    -- nothing but blanks is left, and all of them belong to the gap
    have whole : gap? rest = some (rest, []) := by simp [gap?, stop]
    rw [closingEnd_of_blank parts (List.dropWhile_eq_nil_iff.mp stop), whole, Option.map_some, ← parts, utf8ByteSize_eq]
  | cons c tail =>
    obtain ⟨gap, indent, cutRest, -, ended, single, visible, found⟩ := gap?_of_visible stop
    have blank : Blank (gap ++ indent) := by
      have halves := List.takeWhile_append_dropWhile (p := isBlank) (l := rest)
      rw [stop, cutRest, ← List.append_assoc] at halves
      rw [← List.append_cancel_right halves]
      exact fun d member => List.mem_takeWhile_imp member
    have other : ∀ d ∈ indent, decide (d = '\n') = false := fun d member =>
      decide_eq_false fun same => single (same ▸ member)
    rw [cutRest, ← List.append_assoc gap] at parts
    rw [closingEnd_of_visible parts blank visible, found]
    rcases ended with rfl | last
    · rw [List.nil_append, lastOffset?_eq_none other]
      rfl
    · -- the last line break of the blanks is the one that the gap ends with
      obtain ⟨start, rfl⟩ := List.getLast?_eq_some_iff.mp last
      have seam : size before + size start + 1 = size (before ++ (start ++ ['\n'])) := by
        rw [IsLine.size_next, size_append]
      have cutGap : text.toList = (before ++ (start ++ ['\n'])) ++ (indent ++ c :: tail) := by simpa using parts
      rw [List.append_assoc start, List.singleton_append, lastOffset?_append (decide_eq_true rfl) other]
      dsimp only
      rw [seam, sum_size cutGap, ok_bind]
      simp

/-- The fences are tried in turn, as they are by characters. -/
theorem bodyStart_eq {line after : List Char} (isLine : IsLine text before line after) {fences : List (List Char)}
    (single : ∀ fence ∈ fences, '\n' ∉ fence) :
    bodyStart text (size before) (String.ofList line) fences =
      .ok ((fences.findSome? (closingWith? (line ++ after))).map fun closing =>
        size (before ++ (closing.fence ++ closing.gap))) := by
  induction fences with
  | nil => rfl
  | cons fence fences ih =>
    obtain ⟨fenceSingle, single⟩ := List.forall_mem_cons.mp single
    rw [bodyStart, String.toList_ofList, List.findSome?_cons]
    by_cases starts : fence <+: line
    · obtain ⟨more, rfl⟩ := starts
      have cutFence : text.toList = (before ++ fence) ++ (more ++ after) := by
        rw [isLine.parts, List.append_assoc, List.append_assoc]
      have closing : closingWith? (fence ++ more ++ after) fence =
          (gap? (more ++ after)).map fun cut => ⟨fence, cut.1, cut.2⟩ := by
        rw [closingWith?, List.append_assoc, dropStart?_append]
      rw [if_pos (List.isPrefixOf_iff_prefix.mpr (List.prefix_append fence more)), ← size_append, sum_size cutFence,
        ok_bind, closingEnd_eq cutFence, ok_bind, closing]
      cases gap? (more ++ after) with
      | none => exact ih single
      | some cut =>
        simp only [Option.map_some, List.append_assoc]
        rfl
    · have closing : closingWith? (line ++ after) fence = none := by
        cases found : dropStart? fence (line ++ after) with
        | none => rw [closingWith?, found]
        | some rest => exact absurd (isLine.prefix_of_dropStart? fenceSingle found) starts
      rw [if_neg (mt List.isPrefixOf_iff_prefix.mp starts), closing]
      exact ih single

end Closing

section Loop

variable {text : String} {opener outer raw line after : List Char}

/-- A turn of the loop does what its line says: the block is closed there, or the loop goes on with the next line, or
there is no next line. -/
theorem turn_eq (opens : opener ∈ fences) (isLine : IsLine text (outer ++ raw) line after) :
    turn text opener (size outer) (size (outer ++ raw)) = .ok (
      match closing? opener (line ++ after) with
      | some closing => .found (String.ofList raw) (size (outer ++ raw ++ (closing.fence ++ closing.gap)))
      | none =>
        match after with
        | [] => .over
        | _ :: _ => .next (size (outer ++ raw ++ (line ++ ['\n'])))) := by
  have start := bodyStart_eq isLine (fun fence member => newline_notMem_fence opens member)
  have cutRaw : text.toList = outer ++ (raw ++ (line ++ after)) := by rw [isLine.parts, List.append_assoc]
  rw [← closing?] at start
  rw [turn, if_pos (size_le isLine.parts), isLine.lineEnd_eq, ok_bind, cut_append isLine.parts, ok_bind, start, ok_bind]
  cases closing? opener (line ++ after) with
  | some closing =>
    rw [Option.map_some, cut_append cutRaw]
    rfl
  | none =>
    rw [Option.map_none]
    dsimp only
    rcases isLine.ended with rfl | next
    · rw [if_pos isLine.size_of_last]
      rfl
    · obtain ⟨later, rfl⟩ := List.head?_eq_some_iff.mp next
      rw [if_neg (Nat.ne_of_lt isLine.size_lt_of_next), isLine.sum_next]
      rfl

/-- From any line on, the loop finds what the scanner finds, and every turn but the last one passes a line break. -/
theorem search_eq (opens : opener ∈ fences) {turns : Nat} {rest : List Char} (parts : text.toList = (outer ++ raw) ++ rest)
    (enough : rest.count '\n' < turns) :
    search text opener (size outer) turns (size (outer ++ raw)) =
      .ok ((seek opener raw.reverse true rest).map fun (raw, closing) =>
        (String.ofList raw, size (outer ++ raw ++ (closing.fence ++ closing.gap)))) := by
  -- by induction on the turns that are left; what has been passed so far is all in `raw`
  induction turns generalizing raw rest with
  | zero => omega
  | succ turns ih =>
    obtain ⟨line, after, rfl, isLine⟩ : ∃ line after, rest = line ++ after ∧ IsLine text (outer ++ raw) line after :=
      ⟨_, _, List.takeWhile_append_dropWhile.symm, isLine_of_eq_append parts⟩
    rw [search, turn_eq opens isLine, ok_bind]
    cases found : closing? opener (line ++ after) with
    | some closing =>
      rw [seek_of_closing found, Option.map_some, List.reverse_reverse]
      rfl
    | none =>
      rw [seek_of_open found, seek_line isLine.single]
      rcases isLine.ended with rfl | next
      · rfl
      · obtain ⟨later, rfl⟩ := List.head?_eq_some_iff.mp next
        have fewer : later.count '\n' < turns := by
          rw [List.count_append, List.count_cons_self] at enough
          omega
        have passed : (raw ++ (line ++ ['\n'])).reverse = '\n' :: (line.reverse ++ raw.reverse) := by simp
        dsimp only
        rw [List.append_assoc outer, ih (by rw [isLine.parts_next, List.append_assoc outer]) fewer, passed]
        simp [seek]

end Loop

section Whole

variable {text : String}

theorem size_lead (text : List Char) :
    (if text.head? = some byteOrderMark then byteOrderMark.utf8Size else 0) = size (cutLead text).1 := by
  cases text with
  | nil => rfl
  | cons c text =>
    by_cases same : c = byteOrderMark
    · simp [cutLead, same]
    · simp [cutLead, same]

theorem locate_eq (text : String) (spare : Nat) : locate (text.toList.count '\n' + spare) text =
    .ok ((Header.locate text.toList).map fun block => (String.ofList block.raw, size block.head)) := by
  obtain ⟨lead, cutMark, whole, -⟩ := exists_cutLead text.toList
  obtain ⟨line, after, isLine, first, rest⟩ : ∃ line after, IsLine text lead line after ∧
      (dropMark text.toList).takeWhile (· ≠ '\n') = line ∧ (dropMark text.toList).dropWhile (· ≠ '\n') = after :=
    ⟨_, _, isLine_of_eq_append whole.symm, rfl, rfl⟩
  simp only [locate, Header.locate, size_lead, cutMark, first, rest]
  rw [isLine.lineEnd_eq, ok_bind, cut_append isLine.parts, ok_bind, String.toList_ofList]
  by_cases opens : dropReturn line ∈ fences
  · rw [if_neg (not_not.mpr opens)]
    rcases isLine.ended with rfl | next
    · rw [if_pos (by simp [isLine.size_of_last])]
      rfl
    · obtain ⟨later, rfl⟩ := List.head?_eq_some_iff.mp next
      rw [if_neg (by simpa [opens] using Nat.ne_of_lt isLine.size_lt_of_next)]
      -- the loop begins behind the fence with what is left of the first line
      obtain ⟨ret, cutLine⟩ : ∃ ret, line = dropReturn line ++ ret :=
        (eq_of_dropReturn line).elim (fun same => ⟨[], by rwa [List.append_nil]⟩) fun same => ⟨['\r'], same⟩
      generalize dropReturn line = opener at opens cutLine ⊢
      subst cutLine
      have parts : text.toList = (lead ++ opener) ++ (ret ++ ['\n']) ++ later := by simp [isLine.parts]
      have enough : later.count '\n' < text.toList.count '\n' + spare := by
        rw [isLine.parts_next, List.count_append, List.count_append, List.count_append, List.count_singleton_self]
        omega
      have seam : lead ++ (opener ++ ret ++ ['\n']) = (lead ++ opener) ++ (ret ++ ['\n']) := by simp
      rw [← size_append, sum_size (parts.trans (List.append_assoc ..)), ok_bind, isLine.sum_next, ok_bind, seam,
        search_eq opens parts enough, List.drop_left, List.reverse_append, List.reverse_singleton, List.singleton_append]
      dsimp only
      cases seek opener ('\n' :: ret.reverse) true later with
      | none => rfl
      | some cut => simp [Block.head, List.append_assoc]
  · rw [if_pos opens, if_pos (by simp [opens])]
    rfl

theorem text_of_locate {text : List Char} {block : Block} (found : Header.locate text = some block) : block.text = text := by
  by_cases hasBlock : HasBlock text
  · obtain ⟨l, fits⟩ := Layout.exists_fits hasBlock
    obtain ⟨gap, body, isGap⟩ := fits.exists_gap
    obtain ⟨lead, whole, -, located⟩ := locate_of_fits fits isGap
    rw [located, Option.some.injEq] at found
    rw [← found, ← whole, fits.text_eq, ← isGap.parts]
    simp [Block.text, Layout.between]
  · rw [locate_eq_none hasBlock] at found
    cases found

/-- No text has a fault in it, and the loop takes no more turns than the text has line breaks: whatever is cut out lies
in order inside of what it is cut from, from one boundary between characters to another. The outcome is the same as by
characters. -/
theorem split_eq_ok (text : String) (spare : Nat) :
    split (text.toList.count '\n' + spare) text = .ok (Header.split text) := by
  rw [split, locate_eq, ok_bind, Header.split]
  cases found : Header.locate text.toList with
  | none => rfl
  | some block =>
    have parts : text.toList = block.head ++ block.closing.body := (text_of_locate found).symm
    -- lines are counted, and a text has no more of them than bytes, but for one
    have few : 1 + block.head.count '\n' ≤ text.utf8ByteSize + 1 := by
      have counted := (List.count_le_length (a := '\n') (l := block.head)).trans (Utf8.length_le_size block.head)
      have le := size_le parts
      omega
    rw [Option.map_some]
    dsimp only
    rw [cut_end parts, ok_bind, cut_start parts, ok_bind, String.toList_ofList, String.toList_ofList, sum_of_le few, ok_bind]
    rfl

/-- A mark, a character of two bytes in the header, and a blank of three behind the closing dots. -/
example : (split 2 "\ufeff---\na: é\n...\u2003\n  Body\n").toOption = some ⟨some "a: é", "  Body\n", 4⟩ := by decide +kernel

end Whole

end Frontmark.Header.Offsets
