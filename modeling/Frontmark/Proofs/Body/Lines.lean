import Frontmark.Body.Reader
import Frontmark.Proofs.Text.Lines

/-! The lines as which a body is read.

Main statement: a text without characters that are read as something else has the lines of which it is made
(`lines_terminated`). -/

set_option autoImplicit false

namespace Frontmark.Body

open Frontmark.Block (Cursor Reader)
open Frontmark.Text (terminated)

/-- A line with no character that ends a line or is replaced. -/
def IsClean (line : List Char) : Prop :=
  ∀ c ∈ line, c ≠ '\n' ∧ c ≠ '\r' ∧ c ≠ '\x00'

instance (line : List Char) : Decidable (IsClean line) :=
  inferInstanceAs (Decidable (∀ c ∈ line, c ≠ '\n' ∧ c ≠ '\r' ∧ c ≠ '\x00'))

variable {line : List Char} {ls : List (List Char)}

theorem linesFrom_cons (single : ∀ c ∈ line, c ≠ '\n' ∧ c ≠ '\r') (start text : List Char) :
    linesFrom start (line ++ '\n' :: text) = (start.reverse ++ line) :: linesFrom [] text := by
  induction line generalizing start with
  | nil => simp [linesFrom]
  | cons c line ih =>
    obtain ⟨⟨feed, return_⟩, others⟩ := List.forall_mem_cons.mp single
    rw [List.cons_append, linesFrom]
    · simp [feed, return_, ih others]
    · exact fun _ same => absurd same return_

theorem linesFrom_append (clean : IsClean line) (start text : List Char) :
    linesFrom start (line ++ '\n' :: text) = (start.reverse ++ line) :: linesFrom [] text :=
  linesFrom_cons (fun c mem => ⟨(clean c mem).1, (clean c mem).2.1⟩) start text

theorem linesFrom_last (clean : IsClean line) (start : List Char) :
    linesFrom start line = if (start.reverse ++ line).isEmpty then [] else [start.reverse ++ line] := by
  induction line generalizing start with
  | nil => simp [linesFrom]
  | cons c line ih =>
    obtain ⟨⟨feed, return_, -⟩, others⟩ := List.forall_mem_cons.mp clean
    rw [linesFrom]
    · simp [feed, return_, ih others]
    · exact fun _ same => absurd same return_

section Cut

variable {start text rest : List Char}

theorem newline_notMem_of_mem_linesFrom (clean : '\n' ∉ start) (mem : line ∈ linesFrom start text) : '\n' ∉ line := by
  fun_induction linesFrom start text with
  | case1 => cases mem
  | case2 start some_ =>
    rw [List.mem_singleton.mp mem, List.mem_reverse]
    exact clean
  | case3 start text ih | case4 start c text _ ends ih =>
    obtain rfl | mem := List.mem_cons.mp mem
    · rwa [List.mem_reverse]
    · exact ih List.not_mem_nil mem
  | case5 start c text _ ends ih =>
    refine ih (List.not_mem_cons_of_ne_of_not_mem ?_ clean) mem
    rintro rfl
    simp at ends

/-- A text that ends with a line break is cut by itself. -/
theorem linesFrom_append_of_ended (ended : text.getLast? = some '\n') :
    linesFrom start (text ++ rest) = linesFrom start text ++ linesFrom [] rest := by
  fun_induction linesFrom start text with
  | case1 | case2 => cases ended
  | case3 start text ih =>
    cases text with
    | nil => simp [linesFrom]
    | cons c text => rw [List.cons_append, List.cons_append, linesFrom, ih (by simpa using ended), List.cons_append]
  | case4 start c text other ends ih =>
    cases text with
    | nil =>
      obtain rfl : c = '\n' := by simpa using ended
      simp [linesFrom]
    | cons d text =>
      rw [List.cons_append, List.cons_append, linesFrom, if_pos ends, ← List.cons_append, ih (by simpa using ended)]
      · rw [List.cons_append]
      · exact fun _ return_ same => other text return_ (by rw [(List.cons.inj same).1])
  | case5 start c text other ends ih =>
    cases text with
    | nil =>
      obtain rfl : c = '\n' := by simpa using ended
      simp at ends
    | cons d text =>
      rw [List.cons_append, List.cons_append, linesFrom, if_neg ends, ← List.cons_append, ih (by simpa using ended)]
      · exact fun _ return_ same => other text return_ (by rw [(List.cons.inj same).1])

end Cut

/-- Nothing in the text is replaced. -/
theorem map_eq_self {text : List Char} (clean : '\x00' ∉ text) :
    (text.map fun c => if c.toNat = 0 then '\ufffd' else c) = text := by
  have same : ∀ c ∈ text, (if c.toNat = 0 then '\ufffd' else c) = c := by
    rintro c member
    have other : c.toNat ≠ 0 := by
      intro zero
      have null : Char.ofNat 0 = c := by rw [← zero, Char.ofNat_toNat]
      exact clean (null ▸ member)
    rw [if_neg other]
  rw [List.map_congr_left same, List.map_id']

theorem linesFrom_terminated (clean : ∀ line ∈ ls, IsClean line) {last : List Char} (cleanLast : IsClean last) :
    linesFrom [] (terminated ls ++ last) = ls ++ if last.isEmpty then [] else [last] := by
  induction ls with
  | nil => simpa using linesFrom_last cleanLast []
  | cons line ls ih =>
    obtain ⟨first, others⟩ := List.forall_mem_cons.mp clean
    rw [Text.terminated_cons, List.append_assoc, List.cons_append, linesFrom_append first, ih others]
    rfl

theorem lines_terminated (clean : ∀ line ∈ ls, IsClean line) {last : List Char} (cleanLast : IsClean last) :
    lines (terminated ls ++ last) = (ls ++ if last.isEmpty then [] else [last]).map (· ++ ['\n']) := by
  have whole : '\x00' ∉ terminated ls ++ last := by
    rintro member
    obtain inside | inside := List.mem_append.mp member
    · obtain ⟨line, among, inside⟩ := List.mem_flatMap.mp inside
      obtain own | newline := List.mem_append.mp inside
      · exact (clean line among _ own).2.2 rfl
      · cases List.mem_singleton.mp newline
    · exact (cleanLast _ inside).2.2 rfl
  rw [lines, map_eq_self whole, linesFrom_terminated clean cleanLast]

/-- A body whose first line does not begin with a byte order mark is read line by line. -/
theorem readBlocks_eq (o : Options) {text : List Char} (cut : lines text = ls)
    (mark : ∀ line ∈ ls.head?, line.head? ≠ some '\ufeff') :
    readBlocks o text = ls.foldl (fun r line => r.readLine o { rest := line } line) {} := by
  rw [readBlocks, cut]
  cases ls with
  | nil => rfl
  | cons first others =>
    have cursor : firstCursor first = { rest := first } := by
      rw [firstCursor]
      rintro rest rfl
      exact mark _ rfl rfl
    simp only [cursor, List.foldl_cons]

end Frontmark.Body
