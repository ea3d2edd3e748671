import Mathlib.Data.List.SplitBy
import Mathlib.Data.List.TakeWhile

/-! Texts as runs of one character each. -/

set_option autoImplicit false

namespace Frontmark.Text

/-- The longest pieces of a text in which only one character occurs. -/
def runs (text : List Char) : List (List Char) :=
  text.splitBy (· == ·)

@[simp] theorem runs_nil : runs [] = [] :=
  rfl

section Run

variable {c : Char} {rest : List Char}

/-- The run of a character with which a text begins; it may be empty. -/
theorem exists_run (c : Char) (text : List Char) :
    ∃ n rest, text = List.replicate n c ++ rest ∧ rest.head? ≠ some c := by
  refine ⟨(text.takeWhile (· = c)).length, text.dropWhile (· = c), ?_, fun head => ?_⟩
  · have all : text.takeWhile (· = c) = List.replicate (text.takeWhile (· = c)).length c :=
      List.eq_replicate_of_mem fun d mem => by simpa using List.mem_takeWhile_imp mem
    rw [← all, List.takeWhile_append_dropWhile]
  · have ended := List.head?_dropWhile_not (· = c) text
    simp [head] at ended

theorem takeWhile_run (n : Nat) (stop : rest.head? ≠ some c) :
    (List.replicate n c ++ rest).takeWhile (· = c) = List.replicate n c := by
  rw [List.takeWhile_append_of_pos (by simp)]
  cases rest with
  | nil => simp
  | cons d rest => simp_all

theorem drop_run (n : Nat) : (List.replicate n c ++ rest).drop n = rest :=
  List.drop_left' (List.length_replicate ..)

theorem runs_append {n : Nat} (nonempty : n ≠ 0) (stop : rest.head? ≠ some c) :
    runs (List.replicate n c ++ rest) = List.replicate n c :: runs rest := by
  have chain : (List.replicate n c).IsChain fun a b => a == b :=
    List.isChain_replicate_of_rel n (beq_self_eq_true c)
  have apart : ∀ a ∈ (List.replicate n c).getLast?, ∀ b ∈ rest.head?, (a == b) = false := by
    intro a last b head
    rw [List.eq_of_mem_replicate (List.mem_of_getLast? last)]
    exact beq_false_of_ne fun same => stop (same ▸ head)
  rw [runs, List.splitBy_append apart, List.splitBy_of_isChain (by simpa using nonempty) chain]
  rfl

/-- Another character in front changes no run of `d`. -/
theorem mem_runs_cons_iff {d : Char} (other : c ≠ d) (n : Nat) :
    List.replicate (n + 1) d ∈ runs (c :: rest) ↔ List.replicate (n + 1) d ∈ runs rest := by
  -- the run that begins with `c` is the first one both with and without it
  obtain ⟨m, rest, rfl, stop⟩ := exists_run c rest
  have differs (k : Nat) : List.replicate (n + 1) d ≠ List.replicate k c := fun same =>
    other (List.eq_of_mem_replicate (same ▸ List.mem_replicate.mpr ⟨Nat.succ_ne_zero n, rfl⟩)).symm
  rw [← List.cons_append, ← List.replicate_succ, runs_append (Nat.succ_ne_zero m) stop, List.mem_cons, or_iff_right (differs _)]
  cases m with
  | zero => rfl
  | succ m => rw [runs_append (Nat.succ_ne_zero m) stop, List.mem_cons, or_iff_right (differs _)]

end Run

end Frontmark.Text
