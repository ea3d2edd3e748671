import Mathlib.Data.List.Basic

/-! Texts line by line. Line feeds separate lines, so the last line is the one that has none after it, and
every text has a last line. -/

set_option autoImplicit false

namespace Frontmark.Text

/-- What holds of every character of a text is decided by its own characters, rather than by all that there are. -/
instance (priority := 2000) decidableForallChars {p : Char → Prop} [DecidablePred p] (text : List Char) :
    Decidable (∀ c ∈ text, p c) :=
  text.decidableBAll p

instance (priority := 2000) decidableExistsChar {p : Char → Prop} [DecidablePred p] (text : List Char) :
    Decidable (∃ c ∈ text, p c) :=
  text.decidableBEx p

instance (priority := 2000) decidableForallChar? {p : Char → Prop} [DecidablePred p] (c? : Option Char) : Decidable (∀ c ∈ c?, p c) :=
  c?.decidableForallMem

def lines (text : List Char) : List (List Char) :=
  text.splitOn '\n'

/-- The text of lines that line feeds separate. -/
def joined (lines : List (List Char)) : List Char :=
  ['\n'].intercalate lines

/-- The text of lines that all have a line feed after them. -/
def terminated (lines : List (List Char)) : List Char :=
  lines.flatMap (· ++ ['\n'])

theorem lines_ne_nil (text : List Char) : lines text ≠ [] :=
  List.splitOn_ne_nil '\n' text

theorem joined_lines (text : List Char) : joined (lines text) = text :=
  List.intercalate_splitOn '\n'

theorem lines_of_notMem {line : List Char} (single : '\n' ∉ line) : lines line = [line] :=
  List.splitOn_eq_singleton single

theorem lines_cons_of_notMem {line : List Char} (single : '\n' ∉ line) (rest : List Char) :
    lines (line ++ '\n' :: rest) = line :: lines rest :=
  List.splitOn_append_cons_self_of_not_mem single rest

theorem lines_append_cons (first rest : List Char) :
    lines (first ++ '\n' :: rest) = lines first ++ lines rest :=
  List.splitOn_append_cons_self first rest

@[simp] theorem joined_singleton (line : List Char) : joined [line] = line := by
  simp [joined]

theorem joined_cons_of_ne_nil (line : List Char) {rest : List (List Char)} (more : rest ≠ []) :
    joined (line :: rest) = line ++ '\n' :: joined rest := by
  simp [joined, List.intercalate_cons_of_ne_nil more]

theorem joined_append_cons (start line : List Char) (rest : List (List Char)) :
    joined ((start ++ line) :: rest) = start ++ joined (line :: rest) := by
  cases rest with
  | nil => simp
  | cons next rest => simp [joined_cons_of_ne_nil]

@[simp] theorem terminated_nil : terminated [] = [] := rfl

@[simp] theorem terminated_cons (line : List Char) (rest : List (List Char)) :
    terminated (line :: rest) = line ++ '\n' :: terminated rest := by
  simp [terminated]

theorem terminated_append (first rest : List (List Char)) : terminated (first ++ rest) = terminated first ++ terminated rest :=
  List.flatMap_append

theorem joined_append (first : List (List Char)) {rest : List (List Char)} (more : rest ≠ []) :
    joined (first ++ rest) = terminated first ++ joined rest := by
  induction first with
  | nil => rfl
  | cons line first ih =>
    rw [List.cons_append, joined_cons_of_ne_nil line (by simp [more]), ih]
    simp

theorem terminated_eq_joined {lines : List (List Char)} (nonempty : lines ≠ []) :
    terminated lines = joined lines ++ ['\n'] := by
  induction lines with
  | nil => contradiction
  | cons line rest ih =>
    cases rest with
    | nil => simp
    | cons next rest => rw [terminated_cons, ih (by simp), joined_cons_of_ne_nil line (by simp)]; simp

theorem terminated_lines (text : List Char) : terminated (lines text) = text ++ ['\n'] := by
  rw [terminated_eq_joined (lines_ne_nil text), joined_lines]

theorem lines_terminated_append {first : List (List Char)} (single : ∀ line ∈ first, '\n' ∉ line) (rest : List Char) :
    lines (terminated first ++ rest) = first ++ lines rest := by
  induction first with
  | nil => rfl
  | cons line first ih =>
    obtain ⟨head, tail⟩ := List.forall_mem_cons.mp single
    rw [terminated_cons, List.append_assoc, List.cons_append, lines_cons_of_notMem head, ih tail, List.cons_append]

theorem newline_notMem_of_mem_lines {text line : List Char} (member : line ∈ lines text) : '\n' ∉ line := by
  induction text generalizing line with
  | nil => simp_all [lines]
  | cons c text ih =>
    -- a line feed begins a new line, every other character stands in front of the first one
    simp only [lines, List.splitOn_cons_eq_if_modifyHead] at member
    split at member
    · rcases List.mem_cons.mp member with rfl | member
      · simp
      · exact ih member
    · next other =>
      cases cut : text.splitOn '\n' with
      | nil => exact absurd cut (lines_ne_nil text)
      | cons first rest =>
        have later : ∀ l ∈ first :: rest, '\n' ∉ l := fun l found => ih (by rwa [lines, cut])
        rw [cut, List.modifyHead_cons, List.mem_cons] at member
        rcases member with rfl | member
        · have different : '\n' ≠ c := fun same => other (beq_iff_eq.mpr same.symm)
          rw [List.mem_cons, not_or]
          exact ⟨different, later first List.mem_cons_self⟩
        · exact later line (List.mem_cons_of_mem first member)

theorem exists_lines_eq (text : List Char) : ∃ first rest, lines text = first :: rest :=
  List.exists_cons_of_ne_nil (lines_ne_nil text)

theorem exists_lines_eq_concat (text : List Char) : ∃ before last, lines text = before ++ [last] := by
  rcases List.eq_nil_or_concat (lines text) with none | ⟨before, last, cut⟩
  · exact absurd none (lines_ne_nil text)
  · exact ⟨before, last, by rw [cut, List.concat_eq_append]⟩

theorem mem_of_mem_lines {text line : List Char} (member : line ∈ lines text) {c : Char} (inside : c ∈ line) : c ∈ text := by
  obtain ⟨before, after, cut⟩ := List.append_of_mem member
  have parts : joined (line :: after) = line ++ joined ([] :: after) := by
    simpa using joined_append_cons line [] after
  rw [← joined_lines text, cut, joined_append _ (by simp), parts]
  simp [inside]

/-- The first line is what stands before the first line feed. -/
theorem takeWhile_eq_of_lines {text first : List Char} {rest : List (List Char)} (cut : lines text = first :: rest) :
    text.takeWhile (· ≠ '\n') = first := by
  have single : '\n' ∉ first := newline_notMem_of_mem_lines (show first ∈ lines text by simp [cut])
  have inside : ∀ c ∈ first, decide (c ≠ '\n') = true := by
    intro c member
    exact decide_eq_true fun same => single (same ▸ member)
  rw [← joined_lines text, cut]
  cases rest with
  | nil => rw [joined_singleton, ← List.append_nil first, List.takeWhile_append_of_pos inside, List.takeWhile_nil]
  | cons next rest =>
    rw [joined_cons_of_ne_nil first (by simp), List.takeWhile_append_of_pos inside]
    simp

theorem count_terminated {lines : List (List Char)} (single : ∀ line ∈ lines, '\n' ∉ line) :
    (terminated lines).count '\n' = lines.length := by
  induction lines with
  | nil => rfl
  | cons line lines ih =>
    obtain ⟨head, tail⟩ := List.forall_mem_cons.mp single
    simp [List.count_eq_zero_of_not_mem head, ih tail]

theorem length_lines (text : List Char) : (lines text).length = text.count '\n' + 1 := by
  have whole := count_terminated fun line (member : line ∈ lines text) => newline_notMem_of_mem_lines member
  rw [terminated_lines] at whole
  simpa using whole.symm

theorem lines_joined {lines : List (List Char)} (single : ∀ line ∈ lines, '\n' ∉ line) (nonempty : lines ≠ []) :
    Text.lines (joined lines) = lines :=
  List.splitOn_intercalate '\n' single nonempty

/-- Where two texts meet, the last line of the one goes on as the first line of the other. -/
theorem lines_append {left right : List Char} {before after : List (List Char)} {last first : List Char}
    (leftCut : lines left = before ++ [last]) (rightCut : lines right = first :: after) :
    lines (left ++ right) = before ++ (last ++ first) :: after := by
  have leftSingle : ∀ line ∈ before ++ [last], '\n' ∉ line := fun line member =>
    newline_notMem_of_mem_lines (leftCut ▸ member)
  have rightSingle : ∀ line ∈ first :: after, '\n' ∉ line := fun line member =>
    newline_notMem_of_mem_lines (rightCut ▸ member)
  have whole : left ++ right = joined (before ++ (last ++ first) :: after) := by
    rw [← joined_lines left, ← joined_lines right, leftCut, rightCut, joined_append before (by simp),
      joined_append before (by simp), joined_singleton, joined_append_cons, List.append_assoc]
  rw [whole, lines_joined _ (by simp)]
  intro line member
  simp only [List.mem_append, List.mem_cons] at member
  rcases member with member | rfl | member
  · exact leftSingle line (by simp [member])
  · simp [leftSingle last (by simp), rightSingle first (by simp)]
  · exact rightSingle line (by simp [member])

end Frontmark.Text
