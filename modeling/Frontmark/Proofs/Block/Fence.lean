import Frontmark.Proofs.Body.Lines
import Frontmark.Proofs.Text.Runs
import Mathlib.Data.List.TakeDrop

/-! Fenced code by itself.

Main statement: the lines between a fence of three backticks and the closing one are what is read of the block exactly
if no backtick stands in the info string and none of the lines would close the fence itself (`fenced?_iff`). -/

set_option autoImplicit false

namespace Frontmark.Block

open Frontmark.Text
open Frontmark.Body (linesFrom)

/-- Whether a line closes a fence that is open. -/
def closesAt (mark : Char) (length : Nat) (line : List Char) : Bool :=
  let c : Cursor := { rest := line ++ ['\n'] }
  c.indent < codeIndent && closesFence mark length c.text

/-- The block ends there when a body is read. -/
theorem verdict_eq_closes_iff {f : Frame} {mark : Char} {length indent : Nat} (fenced : f.block = .fencedCode mark length indent)
    (hasInner : Bool) (whole line : List Char) :
    f.verdict hasInner whole { rest := line ++ ['\n'] } = .closes ↔ closesAt mark length line = true := by
  rw [Frame.verdict, fenced, closesAt]
  simp

/-- The block of fenced code with which a text begins: what stands behind the opening fence, the lines up to the one
that closes it, and the lines from that on. -/
def fenced? (text : List Char) : Option (List Char × List (List Char) × List (List Char)) :=
  match linesFrom [] text with
  | [] => none
  | first :: others =>
    (fence? (first ++ ['\n'])).map fun (mark, length) => (first.drop length, others.span fun line => !closesAt mark length line)

/-- A line that closes a fence of three backticks. -/
def IsClosing (line : List Char) : Prop :=
  ∃ indent ticks blanks, indent ≤ 3 ∧ 3 ≤ ticks ∧ (∀ c ∈ blanks, isSpaceOrTab c = true) ∧
    line = List.replicate indent ' ' ++ (List.replicate ticks '\x60' ++ blanks)

section Indent

variable {column n : Nat} {text : List Char}

theorem measureIndent_of_visible (visible : ∀ c ∈ text.head?, isSpaceOrTab c = false) :
    measureIndent column text = (0, text) := by
  rw [measureIndent]
  · rintro rest rfl
    exact absurd (visible _ rfl) (by decide)
  · rintro rest rfl
    exact absurd (visible _ rfl) (by decide)

theorem measureIndent_spaces :
    measureIndent column (List.replicate n ' ' ++ text) =
      (n + (measureIndent (column + n) text).1, (measureIndent (column + n) text).2) := by
  induction n generalizing column with
  | zero => simp
  | succ n ih =>
    rw [List.replicate_succ, List.cons_append, measureIndent, ih, Nat.add_assoc, Nat.add_comm 1 n]
    simp only [Nat.add_right_comm n _ 1]

/-- An indentation that is too small for indented code is one of spaces. -/
theorem visible_of_indent_lt (small : (measureIndent 0 (List.replicate n ' ' ++ text)).1 < codeIndent)
    (stop : text.head? ≠ some ' ') : n ≤ 3 ∧ ∀ c ∈ text.head?, isSpaceOrTab c = false := by
  rw [measureIndent_spaces] at small
  simp only [codeIndent, Nat.zero_add] at small
  refine ⟨by omega, ?_⟩
  rintro c head
  obtain ⟨rest, rfl⟩ := List.head?_eq_some_iff.mp head
  have space : c ≠ ' ' := fun same => stop (congrArg some same)
  have tab : c ≠ '\t' := by
    rintro rfl
    simp only [measureIndent, tabWidth, tabStop] at small
    omega
  simp [isSpaceOrTab, space, tab]

end Indent

variable {line : List Char}

theorem head?_newline_ne {text : List Char} {c : Char} (other : '\n' ≠ c) (stop : text.head? ≠ some c) :
    (text ++ ['\n']).head? ≠ some c := by
  cases text with
  | nil => exact fun same => other (Option.some.inj same)
  | cons d text => exact stop

theorem endsHere_iff {text : List Char} (single : '\n' ∉ text) :
    endsHere (text ++ ['\n']) = true ↔ ∀ c ∈ text, isSpaceOrTab c = true := by
  induction text with
  | nil => simp [endsHere, isSpaceOrTab]
  | cons c text ih =>
    obtain ⟨other, single⟩ := List.ne_and_not_mem_of_not_mem_cons single
    by_cases space : isSpaceOrTab c = true
    · have next : endsHere (c :: text ++ ['\n']) = endsHere (text ++ ['\n']) := by simp [endsHere, space]
      rw [next, ih single, List.forall_mem_cons, and_iff_right space]
    · have stays : (c :: text ++ ['\n']).dropWhile isSpaceOrTab = c :: text ++ ['\n'] :=
        List.dropWhile_cons_of_neg space
      refine iff_of_false (fun ends => ?_) fun all => space (all c List.mem_cons_self)
      rw [endsHere, stays] at ends
      split at ends
      case h_1 same => exact other (List.cons.inj same).1.symm
      case h_2 => cases ends

theorem closesFence_run {n : Nat} {rest : List Char} (stop : rest.head? ≠ some '\x60') :
    closesFence '\x60' 3 (List.replicate n '\x60' ++ rest) = true ↔ 3 ≤ n ∧ endsHere rest = true := by
  simp [closesFence, takeWhile_run n stop]

/-- The indentation of a line with a visible character behind a few spaces. -/
theorem closesAt_spaces {n : Nat} {text : List Char} (visible : ∀ c ∈ (text ++ ['\n']).head?, isSpaceOrTab c = false) :
    closesAt '\x60' 3 (List.replicate n ' ' ++ text) = true ↔ n ≤ 3 ∧ closesFence '\x60' 3 (text ++ ['\n']) = true := by
  simp only [closesAt, Cursor.indent, Cursor.text, List.append_assoc, measureIndent_spaces, measureIndent_of_visible visible]
  simp [codeIndent, Nat.lt_succ_iff]

theorem closesAt_iff (single : '\n' ∉ line) : closesAt '\x60' 3 line = true ↔ IsClosing line := by
  constructor
  · intro closes
    obtain ⟨indent, text, rfl, stop⟩ := exists_run ' ' line
    have visible : ∀ c ∈ (text ++ ['\n']).head?, isSpaceOrTab c = false := by
      refine (visible_of_indent_lt (n := indent) ?_ ?_).2
      · rw [← List.append_assoc]
        simp only [closesAt, Bool.and_eq_true, decide_eq_true_eq] at closes
        exact closes.1
      · exact head?_newline_ne (by decide) stop
    obtain ⟨small, closes⟩ := (closesAt_spaces visible).mp closes
    obtain ⟨ticks, blanks, rfl, next⟩ := exists_run '\x60' text
    rw [List.append_assoc, closesFence_run (head?_newline_ne (by decide) next)] at closes
    have single : '\n' ∉ blanks := fun mem => single (by simp [mem])
    exact ⟨indent, ticks, blanks, small, closes.1, (endsHere_iff single).mp closes.2, rfl⟩
  · rintro ⟨indent, ticks, blanks, small, long, blank, rfl⟩
    have single : '\n' ∉ blanks := fun mem => single (by simp [mem])
    have stop : blanks.head? ≠ some '\x60' := fun head =>
      absurd (blank _ (List.mem_of_head? head)) (by decide)
    have visible : ∀ c ∈ (List.replicate ticks '\x60' ++ blanks ++ ['\n']).head?, isSpaceOrTab c = false := by
      obtain ⟨ticks, rfl⟩ := Nat.exists_eq_add_of_lt (Nat.lt_of_lt_of_le (Nat.zero_lt_succ 2) long)
      rw [Nat.zero_add, List.replicate_succ]
      rintro _ ⟨⟩
      decide
    rw [closesAt_spaces visible, List.append_assoc, closesFence_run (head?_newline_ne (by decide) stop), endsHere_iff single]
    exact ⟨small, long, blank⟩

theorem span_eq_iff {ls rest : List (List Char)} {p : List Char → Bool} (stops : p line = false) :
    (ls ++ line :: rest).span p = (ls, line :: rest) ↔ ∀ l ∈ ls, p l = true := by
  rw [List.span_eq_takeWhile_dropWhile, Prod.mk.injEq]
  constructor
  · rintro ⟨same, -⟩ l mem
    rw [← same] at mem
    exact List.mem_takeWhile_imp mem
  · intro all
    rw [List.takeWhile_append_of_pos all, List.dropWhile_append_of_pos all]
    simp [stops]

/-- A block between fences of three backticks ends where it should exactly if none of its lines closes the fence and its
opening line has no other backticks. -/
theorem fenced?_iff {info literal : List Char} (single : ∀ c ∈ info, c ≠ '\n' ∧ c ≠ '\r')
    (ended : literal = [] ∨ literal.getLast? = some '\n') :
    fenced? ("\x60\x60\x60 ".toList ++ info ++ '\n' :: (literal ++ "\x60\x60\x60\n\n".toList)) =
        some (' ' :: info, linesFrom [] literal, ["\x60\x60\x60".toList, []]) ↔
      '\x60' ∉ info ∧ ∀ line ∈ linesFrom [] literal, ¬ IsClosing line := by
  have first : ∀ c ∈ "\x60\x60\x60 ".toList ++ info, c ≠ '\n' ∧ c ≠ '\r' := by
    intro c mem
    obtain mem | mem := List.mem_append.mp mem
    · exact (by decide : ∀ c ∈ "\x60\x60\x60 ".toList, c ≠ '\n' ∧ c ≠ '\r') c mem
    · exact single c mem
  have others : linesFrom [] (literal ++ "\x60\x60\x60\n\n".toList) =
      linesFrom [] literal ++ "\x60\x60\x60".toList :: [[]] := by
    obtain rfl | ended := ended
    · rfl
    · rw [Body.linesFrom_append_of_ended ended]
      rfl
  have closing : closesAt '\x60' 3 "\x60\x60\x60".toList = true := by decide
  have inside (line : List Char) (mem : line ∈ linesFrom [] literal) :
      (!closesAt '\x60' 3 line) = true ↔ ¬ IsClosing line := by
    rw [← closesAt_iff (Body.newline_notMem_of_mem_linesFrom List.not_mem_nil mem), Bool.not_eq_true', Bool.not_eq_true]
  have opens : fence? (['\x60', '\x60', '\x60', ' '] ++ info ++ ['\n']) = if '\x60' ∈ info then none else some ('\x60', 3) := by
    simp [fence?]
  rw [fenced?, Body.linesFrom_cons first, others]
  simp only [List.reverse_nil, List.nil_append]
  rw [show "\x60\x60\x60 ".toList = ['\x60', '\x60', '\x60', ' '] from rfl, opens]
  by_cases tick : '\x60' ∈ info
  · simp [tick]
  · rw [if_neg tick, Option.map_some, Option.some.injEq, Prod.mk.injEq, and_iff_right tick,
      span_eq_iff (by rw [closing]; rfl)]
    exact (and_iff_right rfl).trans (forall₂_congr inside)

/-- A longer run of backticks than the fence, or one that is followed by something else, does not matter. -/
example : fenced? "\x60\x60\x60 a\n \x60\x60\n\x60\x60\x60 b\n\x60\x60\x60\n\n".toList =
    some (" a".toList, [" \x60\x60".toList, "\x60\x60\x60 b".toList], ["\x60\x60\x60".toList, []]) := by decide +kernel

end Frontmark.Block
