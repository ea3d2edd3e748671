import Frontmark.Link.Target

/-! Destinations without angle brackets.

Main statement: before the closing parenthesis of a link exactly the texts that the grammar gives are read as a whole
(`destination?_iff`). -/

set_option autoImplicit false

namespace Frontmark.Link

open Frontmark.Text

/-- A destination without brackets whose parentheses are nested up to a depth. Its characters are neither spaces nor
controls; a backslash does not stand at the end, and a mark after it is an ordinary character. -/
inductive Bare : Nat → List Char → Prop where
  | nil {n : Nat} : Bare n []
  | plain {n : Nat} {c : Char} {rest : List Char} (backslash : c ≠ '\\') (opening : c ≠ '(') (closing : c ≠ ')')
      (visible : isSpace c = false ∧ isControl c = false) : Bare n rest → Bare n (c :: rest)
  | escaped {n : Nat} {c : Char} {rest : List Char} (mark : isMark c = true) : Bare n rest → Bare n ('\\' :: c :: rest)
  | backslash {n : Nat} {c : Char} {rest : List Char} (mark : isMark c = false) :
      Bare n (c :: rest) → Bare n ('\\' :: c :: rest)
  | parentheses {n : Nat} {inside rest : List Char} :
      Bare n inside → Bare (n + 1) rest → Bare (n + 1) ('(' :: (inside ++ ')' :: rest))

section Reading

variable {n depth : Nat} {url found rest content : List Char} {c : Char}

theorem bareDestination?_plain (backslash : c ≠ '\\') (opening : c ≠ '(') (closing : c ≠ ')')
    (visible : isSpace c = false ∧ isControl c = false) :
    bareDestination? found depth (c :: rest) = bareDestination? (c :: found) depth rest := by
  rw [bareDestination?.eq_def]
  simp [backslash, opening, closing, visible]

theorem bareDestination?_escaped (mark : isMark c = true) :
    bareDestination? found depth ('\\' :: c :: rest) = bareDestination? (c :: '\\' :: found) depth rest := by
  rw [bareDestination?.eq_def]
  simp [mark]

theorem bareDestination?_backslash (mark : isMark c = false) :
    bareDestination? found depth ('\\' :: c :: rest) = bareDestination? ('\\' :: found) depth (c :: rest) := by
  rw [bareDestination?.eq_def]
  simp [mark]

theorem bareDestination?_opening (shallow : depth < deepestParentheses) :
    bareDestination? found depth ('(' :: rest) = bareDestination? ('(' :: found) (depth + 1) rest := by
  rw [bareDestination?.eq_def]
  simp [shallow]

theorem bareDestination?_closing :
    bareDestination? found (depth + 1) (')' :: rest) = bareDestination? (')' :: found) depth rest := by
  rw [bareDestination?.eq_def]
  simp

/-- Reading goes over a destination and stays at its depth. -/
theorem Bare.read (bare : Bare n url) (found rest : List Char) (fits : depth + n ≤ deepestParentheses) :
    bareDestination? found depth (url ++ rest) = bareDestination? (url.reverse ++ found) depth rest := by
  induction bare generalizing found rest depth with
  | nil => rfl
  | plain backslash opening closing visible _ ih =>
    rw [List.cons_append, bareDestination?_plain backslash opening closing visible, ih _ _ fits]
    simp
  | escaped mark _ ih =>
    rw [List.cons_append, List.cons_append, bareDestination?_escaped mark, ih _ _ fits]
    simp
  | backslash mark _ ih =>
    rw [List.cons_append, List.cons_append, bareDestination?_backslash mark, ← List.cons_append, ih _ _ fits]
    simp
  | parentheses _ _ inner after =>
    rw [List.cons_append, List.append_assoc, bareDestination?_opening (by omega), inner _ _ (by omega), List.cons_append,
      bareDestination?_closing, after _ _ fits]
    simp

/-- What is left of a destination inside of some parentheses: the rest of what each of them holds, innermost first. -/
def Closing : Nat → List Char → Prop
  | 0, url => Bare deepestParentheses url
  | depth + 1, url => ∃ inside after, url = inside ++ ')' :: after ∧
      Bare (deepestParentheses - (depth + 1)) inside ∧ Closing depth after

/-- The text before the next parenthesis to be closed may be extended in front. -/
theorem Closing.prepend (start : List Char)
    (extend : ∀ first, first.head? = url.head? ∨ url.head? = some ')' → Bare (deepestParentheses - depth) first →
      Bare (deepestParentheses - depth) (start ++ first))
    (closing : Closing depth url) : Closing depth (start ++ url) := by
  cases depth with
  | zero => exact extend url (.inl rfl) closing
  | succ depth =>
    obtain ⟨inside, after, rfl, bare, outer⟩ := closing
    refine ⟨start ++ inside, after, (List.append_assoc ..).symm, extend inside ?_ bare, outer⟩
    cases inside with
    | nil => exact .inr rfl
    | cons c inside => exact .inl rfl

theorem Closing.parentheses (shallow : depth < deepestParentheses) (closing : Closing (depth + 1) url) :
    Closing depth ('(' :: url) := by
  obtain ⟨inside, after, rfl, bare, outer⟩ := closing
  have level : deepestParentheses - depth = deepestParentheses - (depth + 1) + 1 := by omega
  have both := outer.prepend ('(' :: (inside ++ [')'])) fun first _ follows => by
    rw [level] at follows ⊢
    simpa using Bare.parentheses bare follows
  simpa using both

/-- What is read up to the last parenthesis of a text is a destination. -/
theorem exists_closing_of_read {text : List Char} (read : bareDestination? found depth text = some (content, [')'])) :
    ∃ url, text = url ++ [')'] ∧ content = found.reverse ++ url ∧ Closing depth url := by
  fun_induction bareDestination? found depth text with
  | case1 | case2 | case6 | case9 => cases read
  | case3 found depth c rest mark ih =>
    obtain ⟨url, rfl, rfl, closing⟩ := ih read
    exact ⟨'\\' :: c :: url, rfl, by simp, closing.prepend ['\\', c] fun _ _ => .escaped mark⟩
  | case4 found depth c rest mark ih =>
    obtain ⟨url, cut, rfl, closing⟩ := ih read
    have other : c ≠ ')' := fun same => mark (same ▸ by decide)
    obtain _ | ⟨d, url⟩ := url
    · exact absurd (List.cons.inj cut).1 other
    · obtain ⟨rfl, rfl⟩ := List.cons.inj cut
      refine ⟨'\\' :: c :: url, rfl, by simp, closing.prepend ['\\'] fun first head bare => ?_⟩
      obtain ⟨rest, rfl⟩ := List.head?_eq_some_iff.mp (head.resolve_right fun same => other (Option.some.inj same))
      exact .backslash (Bool.eq_false_iff.mpr mark) bare
  | case5 found depth text shallow _ ih =>
    obtain ⟨url, rfl, rfl, closing⟩ := ih read
    exact ⟨'(' :: url, rfl, by simp, closing.parentheses shallow⟩
  | case7 found text _ _ stop =>
    simp only [stop, if_pos] at read
    cases read
    exact ⟨[], rfl, by simp, .nil⟩
  | case8 found depth text inner _ _ ih =>
    obtain ⟨url, rfl, rfl, closing⟩ := ih read
    obtain ⟨depth, rfl⟩ := Nat.exists_eq_succ_of_ne_zero inner
    exact ⟨')' :: url, rfl, by simp, [], url, rfl, .nil, closing⟩
  | case10 found depth c text stop _ _ closing =>
    -- a space would be what the text has left
    simp only [stop] at read
    split at read
    · cases read
      exact absurd rfl closing
    · cases read
  | case11 found depth c text backslash opening closing visible ih =>
    obtain ⟨url, rfl, rfl, rest⟩ := ih read
    have visible : isSpace c = false ∧ isControl c = false := by simpa using visible
    exact ⟨c :: url, rfl, by simp, rest.prepend [c] fun _ _ => .plain backslash opening closing visible⟩

/-- The brackets of a destination are not a part of it. -/
theorem length_of_angleDestination? {text : List Char} (read : angleDestination? found text = some (content, rest)) :
    content.length + rest.length < found.length + text.length := by
  fun_induction angleDestination? found text with
  | case1 | case2 | case4 | case5 => cases read
  | case3 found rest =>
    cases read
    simp
  | case6 found c text ih | case7 found c text _ _ _ _ ih =>
    have shorter := ih read
    simp only [List.length_cons] at shorter ⊢
    omega

/-- A text is read as the destination of the link it ends exactly if it is one without brackets. -/
theorem destination?_iff (url : List Char) :
    destination? (url ++ [')']) = some (url, [')']) ↔ url.head? ≠ some '<' ∧ Bare deepestParentheses url := by
  by_cases bracket : url.head? = some '<'
  · obtain ⟨text, rfl⟩ := List.head?_eq_some_iff.mp bracket
    refine iff_of_false (fun read => ?_) fun ⟨other, _⟩ => other rfl
    have shorter : ('<' :: text).length + [')'].length < [].length + (text ++ [')']).length := length_of_angleDestination? read
    simp only [List.length_cons, List.length_append, List.length_nil] at shorter
    omega
  · have unbracketed : destination? (url ++ [')']) = bareDestination? [] 0 (url ++ [')']) := by
      rw [destination?]
      rintro text same
      cases url with
      | nil => cases same
      | cons c url => exact bracket (congrArg some (List.cons.inj same).1)
    rw [unbracketed, and_iff_right bracket]
    constructor
    · intro read
      obtain ⟨same, cut, -, closing⟩ := exists_closing_of_read read
      rwa [List.append_cancel_right cut]
    · intro bare
      rw [bare.read [] [')'] (Nat.le_of_eq (Nat.zero_add _)), bareDestination?.eq_def]
      simp

end Reading

end Frontmark.Link
