import Frontmark.Inline.Code
import Frontmark.Proofs.Text.Runs

/-! Code spans by themselves.

Main statement: a literal between two single backticks is what is read of the span, and nothing is left over, exactly
if no run of backticks in it has the length of the ones around it, and none of its runs touches those
(`codeSpan?_ticked_iff`). -/

set_option autoImplicit false

namespace Frontmark.Inline

open Frontmark.Text

/-- The span with which a text begins: what stands between its first run of backticks and the next one of that length,
and the text after that. -/
def codeSpan? (text : List Char) : Option (List Char × List Char) :=
  let ticks := (text.takeWhile (· = '\x60')).length
  (({} : TickSearch).closing? ticks ticks (text.drop ticks)).1

/-- No run of backticks in a text is a single one. -/
def NoSingleTick (text : List Char) : Prop :=
  ['\x60'] ∉ runs text

instance (text : List Char) : Decidable (NoSingleTick text) :=
  inferInstanceAs (Decidable (¬ _))

section Runs

variable {c : Char} {rest : List Char}

theorem noSingleTick_run_iff {n : Nat} (nonempty : n ≠ 0) (stop : rest.head? ≠ some '\x60') :
    NoSingleTick (List.replicate n '\x60' ++ rest) ↔ n ≠ 1 ∧ NoSingleTick rest := by
  have single : ['\x60'] = List.replicate n '\x60' ↔ n = 1 :=
    ⟨fun same => by simpa using congrArg List.length same.symm, fun one => by rw [one]; rfl⟩
  rw [NoSingleTick, runs_append nonempty stop, List.mem_cons, not_or, single, NoSingleTick]

theorem noSingleTick_cons_iff (other : c ≠ '\x60') : NoSingleTick (c :: rest) ↔ NoSingleTick rest :=
  not_congr (mem_runs_cons_iff other 0)

/-- How a text begins, as a search for backticks sees it. -/
theorem ticks_cases (text : List Char) :
    text = [] ∨ (∃ c rest, c ≠ '\x60' ∧ text = c :: rest) ∨
    ∃ run rest, run ≠ 0 ∧ rest.head? ≠ some '\x60' ∧ text = List.replicate run '\x60' ++ rest := by
  obtain ⟨run, rest, rfl, stop⟩ := exists_run '\x60' text
  cases run with
  | succ run => exact .inr (.inr ⟨run + 1, rest, Nat.succ_ne_zero run, stop, rfl⟩)
  | zero =>
    cases rest with
    | nil => exact .inl rfl
    | cons c rest => exact .inr (.inl ⟨c, rest, fun same => stop (congrArg some same), rfl⟩)

end Runs

namespace TickSearch

variable {ticks limit position run : Nat} {found text rest : List Char} {s : TickSearch} {c : Char}

theorem scan_cons_of_ne (other : c ≠ '\x60') :
    scan ticks (limit + 1) position found (c :: text) s = scan ticks limit (position + 1) (c :: found) text s := by
  rw [scan, if_neg other]

theorem scan_run (nonempty : run ≠ 0) (stop : rest.head? ≠ some '\x60') :
    scan ticks (limit + 1) position found (List.replicate run '\x60' ++ rest) s =
      if run = ticks then (some (found.reverse, rest), s.note run position)
      else scan ticks limit (position + run) (List.replicate run '\x60' ++ found) rest (s.note run position) := by
  obtain ⟨run, rfl⟩ := Nat.exists_eq_succ_of_ne_zero nonempty
  have left : (List.replicate run '\x60' ++ rest).drop (run + 1 - 1) = rest := drop_run run
  rw [List.replicate_succ, List.cons_append, scan, if_pos rfl, takeWhile_run run stop, List.length_replicate]
  simp only [left, Nat.succ_eq_add_one, List.replicate_succ]

/-- What is read and what is left make up the text. -/
theorem parts_of_scan {content : List Char}
    (read : (scan ticks limit position found text s).1 = some (content, rest)) :
    content ++ (List.replicate ticks '\x60' ++ rest) = found.reverse ++ text := by
  induction limit generalizing position found text s with
  | zero => cases read
  | succ limit ih =>
    obtain rfl | ⟨c, text, other, rfl⟩ | ⟨run, text, nonempty, stop, rfl⟩ := ticks_cases text
    · cases read
    · rw [scan_cons_of_ne other] at read
      simpa using ih read
    · rw [scan_run nonempty stop] at read
      split at read
      case isTrue same =>
        cases read
        rw [same]
      case isFalse => simpa using ih read

/-- The end is looked for past longer runs and is the first single backtick. -/
theorem scan_ticked_iff (position : Nat) (found : List Char) (s : TickSearch) (enough : text.length < limit) :
    (scan 1 limit position found (text ++ ['\x60']) s).1 = some (found.reverse ++ text, []) ↔
      NoSingleTick text ∧ text.getLast? ≠ some '\x60' := by
  induction limit generalizing position found text s with
  | zero => exact absurd enough (Nat.not_lt_zero _)
  | succ limit ih =>
    obtain rfl | ⟨c, text, other, rfl⟩ | ⟨run, text, nonempty, stop, rfl⟩ := ticks_cases text
    · simp [scan, NoSingleTick]
    · have last : (c :: text).getLast? ≠ some '\x60' ↔ text.getLast? ≠ some '\x60' := by
        cases text <;> simp [other]
      rw [List.cons_append, scan_cons_of_ne other, noSingleTick_cons_iff other, last,
        ← ih (position + 1) (c :: found) s (Nat.lt_of_succ_lt_succ enough)]
      simp
    · rw [noSingleTick_run_iff nonempty stop]
      cases text with
      | nil =>
        -- the run at the end is one with the closing backtick
        have joined : List.replicate run '\x60' ++ [] ++ ['\x60'] = List.replicate (run + 1) '\x60' ++ [] := by
          rw [List.append_nil, List.append_nil, List.replicate_succ']
        have last : (List.replicate run '\x60').getLast? = some '\x60' := by
          rw [List.getLast?_replicate, if_neg nonempty]
        rw [joined, scan_run (Nat.succ_ne_zero run) (by simp), if_neg (by omega), List.append_nil, last]
        cases limit <;> simp [scan]
      | cons c text =>
        have stop' : (c :: text ++ ['\x60']).head? ≠ some '\x60' := stop
        rw [List.append_assoc, scan_run nonempty stop']
        by_cases single : run = 1
        · subst single
          simp
        · have enough' : (c :: text).length < limit := by
            rw [List.length_append, List.length_replicate] at enough
            omega
          rw [if_neg single, and_iff_right single, List.getLast?_append_of_ne_nil _ (List.cons_ne_nil c text),
            ← ih (position + run) (List.replicate run '\x60' ++ found) (s.note run position) enough']
          simp

end TickSearch

/-- A span between single backticks ends where it should exactly if the backticks in it come in longer runs, and none of
them stands at either end. -/
theorem codeSpan?_ticked_iff (literal : List Char) :
    codeSpan? ('\x60' :: literal ++ ['\x60']) = some (literal, []) ↔
      literal ≠ [] ∧ literal.head? ≠ some '\x60' ∧ literal.getLast? ≠ some '\x60' ∧ NoSingleTick literal := by
  obtain ⟨run, rest, cut, stop⟩ := exists_run '\x60' (literal ++ ['\x60'])
  have ticks : ('\x60' :: literal ++ ['\x60']).takeWhile (· = '\x60') = List.replicate (run + 1) '\x60' := by
    rw [List.cons_append, cut, ← List.cons_append, ← List.replicate_succ, takeWhile_run _ stop]
  have left : ('\x60' :: literal ++ ['\x60']).drop (run + 1) = rest := by
    rw [List.cons_append, cut, List.drop_succ_cons, drop_run]
  have read : codeSpan? ('\x60' :: literal ++ ['\x60']) = (({} : TickSearch).closing? (run + 1) (run + 1) rest).1 := by
    simp only [codeSpan?, ticks, List.length_replicate, left]
  have single : run = 0 ↔ literal ≠ [] ∧ literal.head? ≠ some '\x60' := by
    constructor
    · rintro rfl
      rw [← show literal ++ ['\x60'] = rest from cut] at stop
      refine ⟨?_, fun head => stop (by rw [List.head?_append, head]; rfl)⟩
      rintro rfl
      exact stop rfl
    · rintro ⟨some_, head⟩
      obtain _ | run := run
      · rfl
      · obtain ⟨c, literal, rfl⟩ := List.exists_cons_of_ne_nil some_
        exact absurd (congrArg some (List.cons.inj cut).1) head
  rw [read, ← and_assoc, ← single, and_comm (a := _ ≠ _)]
  by_cases one : run = 0
  · subst one
    obtain rfl : literal ++ ['\x60'] = rest := cut
    have enough : literal.length < (literal ++ ['\x60']).length + 1 := by
      rw [List.length_append]
      omega
    rw [and_iff_right rfl]
    exact TickSearch.scan_ticked_iff 1 [] {} enough
  · refine iff_of_false (fun read => ?_) fun ⟨same, _⟩ => one same
    -- the literal and as long a run at its end do not fit into the rest
    rw [TickSearch.closing?] at read
    split at read
    case isTrue => cases read
    case isFalse =>
      have parts := congrArg List.length (TickSearch.parts_of_scan read)
      have whole := congrArg List.length cut
      simp only [List.length_append, List.length_replicate, List.length_nil, List.reverse_nil, List.length_singleton] at parts whole
      omega

example : codeSpan? "\x60a \x60\x60 b\x60".toList = some ("a \x60\x60 b".toList, []) := by decide +kernel

end Frontmark.Inline
