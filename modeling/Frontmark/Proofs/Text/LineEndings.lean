import Frontmark.Proofs.Text.Trim

/-! The same text with other line endings: a carriage return before every line feed. -/

set_option autoImplicit false

namespace Frontmark.Text

/-- A character as it is written where lines end with a carriage return and a line feed. -/
def ending (c : Char) : List Char :=
  if c = '\n' then ['\r', '\n'] else [c]

def withReturns (text : List Char) : List Char :=
  text.flatMap ending

/-- The text with every line feed replaced by a carriage return and a line feed. -/
def crlf (text : String) : String :=
  String.ofList (withReturns text.toList)

@[simp] theorem withReturns_nil : withReturns [] = [] :=
  rfl

@[simp] theorem withReturns_newline (text : List Char) : withReturns ('\n' :: text) = '\r' :: '\n' :: withReturns text :=
  rfl

theorem withReturns_cons {c : Char} (other : c ≠ '\n') (text : List Char) :
    withReturns (c :: text) = c :: withReturns text := by
  rw [withReturns, List.flatMap_cons, ending, if_neg other, List.singleton_append, withReturns]

@[simp] theorem withReturns_append (first rest : List Char) :
    withReturns (first ++ rest) = withReturns first ++ withReturns rest :=
  List.flatMap_append

theorem withReturns_of_notMem {line : List Char} (single : '\n' ∉ line) : withReturns line = line := by
  induction line with
  | nil => rfl
  | cons c line ih =>
    rw [List.mem_cons, not_or] at single
    rw [withReturns_cons (Ne.symm single.1), ih single.2]

theorem withReturns_terminated {lines : List (List Char)} (single : ∀ line ∈ lines, '\n' ∉ line) :
    withReturns (terminated lines) = terminated (lines.map (· ++ ['\r'])) := by
  induction lines with
  | nil => rfl
  | cons line lines ih =>
    obtain ⟨head, tail⟩ := List.forall_mem_cons.mp single
    simp [withReturns_of_notMem head, ih tail]

@[simp] theorem count_withReturns (text : List Char) : (withReturns text).count '\n' = text.count '\n' := by
  induction text with
  | nil => rfl
  | cons c text ih =>
    by_cases newline : c = '\n'
    · simp [newline, ih]
    · simp [withReturns_cons newline, List.count_cons_of_ne newline, ih]

/-- All lines but the last one get a carriage return. -/
theorem lines_withReturns {text last : List Char} {before : List (List Char)} (cut : lines text = before ++ [last]) :
    lines (withReturns text) = before.map (· ++ ['\r']) ++ [last] := by
  have single : ∀ line ∈ before ++ [last], '\n' ∉ line := fun line member =>
    newline_notMem_of_mem_lines (cut ▸ member)
  have lastSingle := single last (by simp)
  have parts : text = terminated before ++ last := by
    rw [← joined_lines text, cut, joined_append _ (by simp), joined_singleton]
  have returned : ∀ line ∈ before.map (· ++ ['\r']), '\n' ∉ line := by
    intro line member
    obtain ⟨plain, inside, rfl⟩ := List.mem_map.mp member
    simpa using single plain (by simp [inside])
  rw [parts, withReturns_append, withReturns_terminated (fun line member => single line (by simp [member])),
    withReturns_of_notMem lastSingle, lines_terminated_append returned, lines_of_notMem lastSingle]

/-- Before a line feed there is a carriage return, and what precedes that is the start of the text. -/
theorem exists_eq_of_withReturns {text start rest : List Char} (cut : start ++ '\n' :: rest = withReturns text) :
    ∃ before after, text = before ++ '\n' :: after ∧ start = withReturns before ++ ['\r'] := by
  induction text generalizing start with
  | nil => simp at cut
  | cons c text ih =>
    by_cases newline : c = '\n'
    · subst newline
      rw [withReturns_newline] at cut
      cases start with
      | nil => simp at cut
      | cons d start =>
        obtain ⟨rfl, tail⟩ := List.cons.inj cut
        cases start with
        -- the line feed is the one that was written for the first character
        | nil => exact ⟨[], text, rfl, rfl⟩
        | cons e start =>
          obtain ⟨rfl, more⟩ := List.cons.inj tail
          obtain ⟨before, after, rfl, rfl⟩ := ih more
          exact ⟨'\n' :: before, after, rfl, rfl⟩
    · rw [withReturns_cons newline] at cut
      cases start with
      | nil => exact absurd (List.cons.inj cut).1.symm newline
      | cons d start =>
        obtain ⟨rfl, tail⟩ := List.cons.inj cut
        obtain ⟨before, after, rfl, rfl⟩ := ih tail
        exact ⟨d :: before, after, rfl, by rw [withReturns_cons newline, List.cons_append]⟩

section Blank

theorem isBlank_of_mem_ending {c d : Char} (blank : isBlank c = true) (member : d ∈ ending c) : isBlank d = true := by
  unfold ending at member
  split at member
  · simp only [List.mem_cons, List.not_mem_nil, or_false] at member
    rcases member with rfl | rfl <;> decide
  · rwa [List.mem_singleton.mp member]

theorem ending_of_visible {c : Char} (visible : isBlank c = false) : ending c = [c] := by
  refine if_neg fun newline => ?_
  simp [newline] at visible

@[simp] theorem blank_withReturns {text : List Char} : Blank (withReturns text) ↔ Blank text := by
  induction text with
  | nil => rfl
  | cons c text ih =>
    by_cases newline : c = '\n'
    · simp [newline, ih, show isBlank '\r' = true by decide]
    · simp [withReturns_cons newline, ih]

/-- A first line of blanks is one with either ending. -/
theorem blank_firstLine_withReturns {text : List Char} (blank : Blank (text.takeWhile (· ≠ '\n'))) :
    Blank ((withReturns text).takeWhile (· ≠ '\n')) := by
  induction text with
  | nil => exact blank
  | cons c text ih =>
    by_cases newline : c = '\n'
    · simp [newline, show isBlank '\r' = true by decide]
    · rw [List.takeWhile_cons_of_pos (by simpa using newline), blank_cons] at blank
      rw [withReturns_cons newline, List.takeWhile_cons_of_pos (by simpa using newline), blank_cons]
      exact ⟨blank.1, ih blank.2⟩

/-- Blanks in front can be dropped before or after blanks are replaced by blanks. -/
theorem dropWhile_isBlank_flatMap {write : Char → List Char} (blanks : ∀ c, isBlank c = true → Blank (write c))
    (visible : ∀ c, isBlank c = false → write c = [c]) (text : List Char) :
    (text.flatMap write).dropWhile isBlank = (text.dropWhile isBlank).flatMap write := by
  induction text with
  | nil => rfl
  | cons c text ih =>
    cases blank : isBlank c with
    | true => rw [List.flatMap_cons, List.dropWhile_append_of_pos (blanks c blank), ih, List.dropWhile_cons_of_pos blank]
    | false =>
      rw [List.dropWhile_cons_of_neg (by simp [blank]), List.flatMap_cons, visible c blank, List.singleton_append,
        List.dropWhile_cons_of_neg (by simp [blank])]

theorem trimStart_withReturns (text : List Char) : trimStart (withReturns text) = withReturns (trimStart text) :=
  dropWhile_isBlank_flatMap (fun _ blank _ => isBlank_of_mem_ending blank) (fun _ => ending_of_visible) text

theorem trimEnd_withReturns (text : List Char) : trimEnd (withReturns text) = withReturns (trimEnd text) := by
  have reversed : (text.reverse.flatMap (List.reverse ∘ ending)).dropWhile isBlank =
      (text.reverse.dropWhile isBlank).flatMap (List.reverse ∘ ending) :=
    dropWhile_isBlank_flatMap (fun c blank d member => isBlank_of_mem_ending blank (List.mem_reverse.mp member))
      (fun c visible => by simp [ending_of_visible visible]) text.reverse
  rw [trimEnd, trimEnd, withReturns, List.reverse_flatMap, reversed, withReturns, List.flatMap_reverse]

/-- Trimming a text takes the same away with either ending. -/
theorem trim_withReturns (text : List Char) : trim (withReturns text) = withReturns (trim text) := by
  rw [trim, trimStart_withReturns, trimEnd_withReturns, trim]

end Blank

end Frontmark.Text
