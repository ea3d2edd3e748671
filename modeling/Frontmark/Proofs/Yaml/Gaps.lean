import Frontmark.Proofs.Yaml.Step

/-! What stands between tokens, within a margin, and what the margin has before the first token. -/

set_option autoImplicit false

namespace Frontmark.Yaml.Layout

open Frontmark.Text

variable {w : Margin} {l a b : Layout} {n m : Nat}

/-- The place of the next token or line break. -/
def gapEnd (l : Layout) : Cursor :=
  let c := if l.mark.column = 0 && l.cursor.head? = some '\ufeff' then l.cursor.skip else l.cursor
  (c.skipWhile fun x => x = ' ' || (x = '\t' && (l.inFlow || !l.keyAllowed))).skipComment

def nextLine (l : Layout) : Layout :=
  { l with cursor := l.gapEnd.skipBreak, keyAllowed := l.keyAllowed || !l.inFlow }

theorem passGaps_succ (n : Nat) (l : Layout) :
    passGaps (n + 1) l = if l.gapEnd.head?.any isBreak then passGaps n l.nextLine else { l with cursor := l.gapEnd } :=
  rfl

theorem passes_gapEnd (l : Layout) : Passes l.cursor l.gapEnd := by
  unfold gapEnd
  split_ifs
  · exact ((Passes.skip _).trans (.skipWhile _ _)).trans (.skipComment _)
  · exact (Passes.skipWhile _ _).trans (.skipComment _)

theorem length_nextLine (goesOn : l.gapEnd.head?.any isBreak = true) :
    l.nextLine.cursor.rest.length < l.cursor.rest.length := by
  obtain ⟨x, head, isBreak⟩ := (Option.any_eq_true _ _).mp goesOn
  obtain ⟨rest, cons⟩ := List.head?_eq_some_iff.mp head
  exact Nat.lt_of_lt_of_le (length_skipBreak cons isBreak) (passes_gapEnd l).length_le

/-- Nothing but the place has changed, and whether a key can follow. -/
structure Moves (l a : Layout) : Prop where
  passes : Passes l.cursor a.cursor
  same : ∃ k, a = { l with cursor := a.cursor, keyAllowed := k }

theorem moves_passGaps (n : Nat) (l : Layout) : Moves l (passGaps n l) := by
  induction n generalizing l with
  | zero => exact ⟨.refl _, l.keyAllowed, rfl⟩
  | succ n ih =>
    rw [passGaps_succ]
    split_ifs
    · obtain ⟨passes, k, same⟩ := ih l.nextLine
      refine ⟨((passes_gapEnd l).trans (.skipBreak _)).trans passes, k, ?_⟩
      rw [same]
      rfl
    · exact ⟨passes_gapEnd l, l.keyAllowed, rfl⟩

/-- There is no gap in more lines than characters. -/
theorem passGaps_stable (enough : l.cursor.rest.length < n) (enough' : l.cursor.rest.length < m) :
    passGaps n l = passGaps m l := by
  induction n generalizing l m with
  | zero => exact absurd enough (Nat.not_lt_zero _)
  | succ n ih =>
    obtain _ | m := m
    · exact absurd enough' (Nat.not_lt_zero _)
    rw [passGaps_succ, passGaps_succ]
    split_ifs with goesOn
    · have shorter := length_nextLine goesOn
      exact ih (by omega) (by omega)
    · rfl

theorem head?_gapEnd_ne (l : Layout) : l.gapEnd.head? ≠ some ' ' := by
  have spaceless (c : Cursor) (p : Char → Bool) (passed : p ' ' = true) : (c.skipWhile p).head? ≠ some ' ' := by
    intro head
    have first := List.head?_dropWhile_not p c.rest
    rw [show (c.rest.dropWhile p).head? = some ' ' from head] at first
    simp [passed] at first
  unfold gapEnd
  rw [Cursor.skipComment]
  split_ifs
  all_goals exact spaceless _ _ rfl

/-- The gap before the end of a text reaches to it. -/
theorem gapEnd_of_spent (spent : Spent l.gapEnd.rest) (noBreak : l.gapEnd.head?.any isBreak = false) : l.gapEnd.rest = [] := by
  have others : ∀ x ∈ pads, x ≠ ' ' → isBreak x = true := by decide
  cases cons : l.gapEnd.rest with
  | nil => rfl
  | cons x rest =>
    have head : l.gapEnd.head? = some x := by rw [Cursor.head?, cons]; rfl
    have noSpace : x ≠ ' ' := by
      rintro rfl
      exact head?_gapEnd_ne l head
    have isBreak := others x (spent.mem_pads (cons ▸ List.mem_cons_self)) noSpace
    rw [head, Option.any_some, isBreak] at noBreak
    cases noBreak

theorem passGaps_of_spent_gapEnd (spent : Spent l.gapEnd.rest) (enough : l.cursor.rest.length < n) :
    (passGaps n l).cursor.rest = [] := by
  induction n generalizing l with
  | zero => exact absurd enough (Nat.not_lt_zero _)
  | succ n ih =>
    rw [passGaps_succ]
    split_ifs with goesOn
    · have shorter := length_nextLine goesOn
      have left : Spent l.nextLine.gapEnd.rest := ((Passes.skipBreak _).trans (passes_gapEnd l.nextLine)).spent spent
      exact ih left (by omega)
    · exact gapEnd_of_spent spent (by simpa using goesOn)

theorem passGaps_of_spent (spent : Spent l.cursor.rest) (enough : l.cursor.rest.length < n) : (passGaps n l).cursor.rest = [] :=
  passGaps_of_spent_gapEnd ((passes_gapEnd l).spent spent) enough

theorem follows_gapEnd (l : Layout) : w.Follows l.gapEnd (w.layout l).gapEnd := by
  have follows : w.Follows l.cursor (w.layout l).cursor := .inl rfl
  have mark : (w.layout l).cursor.head? = some '\ufeff' ↔ l.cursor.head? = some '\ufeff' :=
    w.head?_cursor_eq_iff (by decide) l.cursor
  unfold gapEnd
  rw [layout_inFlow]
  by_cases skips : l.mark.column = 0 ∧ l.cursor.head? = some '\ufeff'
  · have skips' : l.mark.column = 0 ∧ (w.layout l).cursor.head? = some '\ufeff' := ⟨skips.1, mark.mpr skips.2⟩
    have moved : (w.layout l).cursor.skip = w.cursor l.cursor.skip := w.skip_cursor (Margin.rest_ne_nil_of_head? skips.2)
    rw [layout_mark, Margin.mark_column, if_pos (by simpa using skips), if_pos (by simpa using skips'), moved]
    exact Margin.Follows.skipComment (Margin.Follows.skipWhile (.inl rfl) _)
  · have skips' : ¬ (l.mark.column = 0 ∧ (w.layout l).cursor.head? = some '\ufeff') :=
      fun both => skips ⟨both.1, mark.mp both.2⟩
    rw [layout_mark, Margin.mark_column, if_neg (by simpa using skips), if_neg (by simpa using skips')]
    exact (follows.skipWhile _).skipComment

/-- Behind a gap the same follows within a margin, or nothing follows. -/
theorem passGaps_layout (enough : l.cursor.rest.length < n) (enough' : (w.layout l).cursor.rest.length < m) :
    ((passGaps n l).cursor.rest ≠ [] ∧ passGaps m (w.layout l) = w.layout (passGaps n l)) ∨
      ((passGaps n l).cursor.rest = [] ∧ (passGaps m (w.layout l)).cursor.rest = []) := by
  induction n generalizing l m with
  | zero => exact absurd enough (Nat.not_lt_zero _)
  | succ n ih =>
    have follows := follows_gapEnd (w := w) l
    by_cases done : l.gapEnd.rest = []
    · exact .inr ⟨passGaps_of_spent_gapEnd (.of_nil done) enough, passGaps_of_spent_gapEnd (follows.spent done) enough'⟩
    · obtain _ | m := m
      · exact absurd enough' (Nat.not_lt_zero _)
      have same := follows.eq_cursor done
      rw [passGaps_succ, passGaps_succ, same, w.head?_cursor done]
      split_ifs with goesOn
      · have shorter := length_nextLine goesOn
        have follows : w.Follows l.gapEnd.skipBreak (w.cursor l.gapEnd).skipBreak := Margin.Follows.skipBreak (.inl rfl)
        have next : (w.layout l).nextLine = { w.layout l.nextLine with cursor := (w.cursor l.gapEnd).skipBreak } := by
          rw [nextLine, same, layout_inFlow]
          rfl
        have length : (w.layout l).nextLine.cursor.rest.length < m := by
          have shorter' := length_nextLine (l := w.layout l) (by rw [same, w.head?_cursor done]; exact goesOn)
          omega
        by_cases last : l.gapEnd.skipBreak.rest = []
        · refine .inr ⟨passGaps_of_spent (.of_nil last) (by omega), passGaps_of_spent ?_ length⟩
          rw [next]
          exact follows.spent last
        · rw [follows.eq_cursor last] at next
          have length' : l.nextLine.cursor.rest.length < n := by omega
          rw [next] at length ⊢
          exact ih length' length
      · exact .inl ⟨done, rfl⟩

theorem gapEnd_of_unmarked (unmarked : l.cursor.head? ≠ some '\ufeff') :
    l.gapEnd = (l.cursor.skipWhile fun x => x = ' ' || (x = '\t' && (l.inFlow || !l.keyAllowed))).skipComment := by
  unfold gapEnd
  rw [if_neg (by simp [unmarked])]

section Start

variable {start rest : List Char} (mark : Mark)

/-- A line break before a text passes nothing of the text. -/
theorem exists_skipBreak_start (start : List Char) (mark : Mark) {x : Char} (isBreak : isBreak x = true) (first : rest.head? ≠ some '\n') :
    ∃ line passed left, x :: start = passed ++ left ∧ passed ≠ [] ∧
      (⟨mark, x :: (start ++ rest)⟩ : Cursor).skipBreak = ⟨⟨mark.offset + Utf8.size passed, line, 0⟩, left ++ rest⟩ := by
  by_cases feed : x = '\r' ∧ (start ++ rest).head? = some '\n'
  · obtain ⟨rfl, head⟩ := feed
    cases start with
    | nil => exact absurd head first
    | cons y start =>
      obtain rfl : y = '\n' := Option.some.inj head
      exact ⟨mark.line + 1, ['\r', '\n'], start, rfl, List.cons_ne_nil _ _, rfl⟩
  · refine ⟨mark.line + 1, [x], start, rfl, List.cons_ne_nil _ _, ?_⟩
    rw [Cursor.skipBreak, takeBreak_alone feed]
    simp only [isBreak, if_true]
    split_ifs <;> simp [Utf8.size]

/-- Padding that ends with a line break is spaces up to its first line break. -/
theorem exists_spaces (spent : Spent start) (ends : ∀ x ∈ start.getLast?, isBreak x = true) (more : start ≠ []) :
    ∃ spaces x left, start = spaces ++ x :: left ∧ (∀ y ∈ spaces, y = ' ') ∧ isBreak x = true := by
  have parts := List.takeWhile_append_dropWhile (p := (· = ' ')) (l := start)
  cases cons : start.dropWhile (· = ' ') with
  | nil =>
    -- a line break cannot be one of the blanks
    have blank : start.getLast more = ' ' := by
      simpa using List.dropWhile_eq_nil_iff.mp cons _ (start.getLast_mem more)
    have isBreak := ends _ (List.getLast?_eq_some_getLast more)
    rw [blank] at isBreak
    exact absurd isBreak (by decide)
  | cons x left =>
    rw [cons] at parts
    have pad : x ∈ pads := spent.mem_pads (by rw [← parts]; simp)
    have space : x ≠ ' ' := by simpa [cons] using List.head?_dropWhile_not (· = ' ') start
    refine ⟨start.takeWhile (· = ' '), x, left, parts.symm, fun y mem => ?_, ?_⟩
    · simpa using List.mem_takeWhile_imp (p := (· = ' ')) mem
    · exact (by decide : ∀ x ∈ pads, x ≠ ' ' → isBreak x = true) x pad space

theorem skipWhile_spaces {spaces : List Char} {p : Char → Bool} (passed : p ' ' = true) (blank : ∀ y ∈ spaces, y = ' ')
    (rest : List Char) (mark : Mark) :
    (⟨mark, spaces ++ rest⟩ : Cursor).skipWhile p =
      (⟨⟨mark.offset + Utf8.size spaces, mark.line, mark.column + spaces.length⟩, rest⟩ : Cursor).skipWhile p := by
  have all : ∀ y ∈ spaces, p y = true := fun y mem => blank y mem ▸ passed
  simp [Cursor.skipWhile, List.takeWhile_append_of_pos all, List.dropWhile_append_of_pos all, Utf8.size_append, Nat.add_assoc]

/-- The blanks before a line break are passed. -/
theorem gapEnd_spaces {spaces : List Char} {x : Char} (rest : List Char) (mark : Mark) (blank : ∀ y ∈ spaces, y = ' ')
    (isBreak : isBreak x = true) :
    gapEnd { cursor := ⟨mark, spaces ++ x :: rest⟩ } =
      ⟨⟨mark.offset + Utf8.size spaces, mark.line, mark.column + spaces.length⟩, x :: rest⟩ := by
  have other {c : Char} (no : Yaml.isBreak c = false) : x ≠ c := fun same => by
    rw [same, no] at isBreak
    cases isBreak
  have unmarked : (spaces ++ x :: rest).head? ≠ some '\ufeff' := by
    cases spaces with
    | nil => simpa using other (by decide)
    | cons y spaces => simp [blank y List.mem_cons_self]
  rw [gapEnd_of_unmarked (l := { cursor := ⟨mark, spaces ++ x :: rest⟩ }) unmarked, skipWhile_spaces rfl blank]
  simp [Cursor.skipWhile, Cursor.skipComment, Cursor.head?, inFlow, other (c := ' ') (by decide), other (c := '#') (by decide),
    Utf8.size]

/-- The spaces before the first token are passed. -/
theorem passGaps_spaces {spaces : List Char} (blank : ∀ y ∈ spaces, y = ' ') (n : Nat) (mark : Mark) (rest : List Char) :
    passGaps (n + 1) { cursor := ⟨mark, spaces ++ rest⟩ } =
      passGaps (n + 1) { cursor := ⟨⟨mark.offset + Utf8.size spaces, mark.line, mark.column + spaces.length⟩, rest⟩ } := by
  cases spaces with
  | nil => rfl
  | cons y spaces =>
    have unmarked : (⟨mark, y :: spaces ++ rest⟩ : Cursor).head? ≠ some '\ufeff' := by
      simp [Cursor.head?, blank y List.mem_cons_self]
    have gap : gapEnd { cursor := ⟨mark, y :: spaces ++ rest⟩ } = gapEnd { cursor :=
        ⟨⟨mark.offset + Utf8.size (y :: spaces), mark.line, mark.column + (y :: spaces).length⟩, rest⟩ } := by
      rw [gapEnd_of_unmarked (l := { cursor := ⟨mark, y :: spaces ++ rest⟩ }) unmarked, skipWhile_spaces rfl blank]
      simp [gapEnd, Layout.mark, inFlow]
    rw [passGaps_succ, passGaps_succ, nextLine, nextLine, gap]
    rfl

/-- Blank lines before a text are passed, and the text follows at the start of a line. -/
theorem exists_passGaps_start (spent : Spent start) (ends : ∀ x ∈ start.getLast?, isBreak x = true)
    (first : rest.head? ≠ some '\n') (column : start = [] → mark.column = 0) (enough : (start ++ rest).length < n) :
    ∃ line, passGaps n { cursor := ⟨mark, start ++ rest⟩ } =
      passGaps n { cursor := ⟨⟨mark.offset + Utf8.size start, line, 0⟩, rest⟩ } := by
  induction n generalizing start mark with
  | zero => exact absurd enough (Nat.not_lt_zero _)
  | succ n ih =>
    by_cases none_ : start = []
    · subst none_
      obtain ⟨offset, line, column'⟩ := mark
      obtain rfl : column' = 0 := column rfl
      exact ⟨line, rfl⟩
    · obtain ⟨spaces, x, left, rfl, blank, isBreak⟩ := exists_spaces spent ends none_
      obtain ⟨line, passed, left', cut, some_, skip⟩ := exists_skipBreak_start left
        ⟨mark.offset + Utf8.size spaces, mark.line, mark.column + spaces.length⟩ isBreak first
      have gap := gapEnd_spaces (left ++ rest) mark blank isBreak
      rw [← List.cons_append, ← List.append_assoc] at gap
      have next : nextLine { cursor := ⟨mark, spaces ++ x :: left ++ rest⟩ } =
          { cursor := ⟨⟨mark.offset + Utf8.size spaces + Utf8.size passed, line, 0⟩, left' ++ rest⟩ } := by
        rw [nextLine, gap]
        exact congrArg (fun c => ({ cursor := c } : Layout)) skip
      have length : (left' ++ rest).length < n := by
        have parts := congrArg List.length cut
        have := List.length_pos_iff.mpr some_
        simp only [List.length_append, List.length_cons] at enough parts ⊢
        omega
      have spent' : Spent left' := fun y mem => spent y (by rw [cut]; simp [mem])
      have ends' : ∀ y ∈ left'.getLast?, Yaml.isBreak y = true := by
        intro y last
        refine ends y ?_
        rw [cut, ← List.append_assoc, List.getLast?_append, Option.mem_def.mp last]
        rfl
      -- the lines that are left start where the line break has been passed
      obtain ⟨line', same⟩ := ih ⟨mark.offset + Utf8.size spaces + Utf8.size passed, line, 0⟩ spent' ends' (fun _ => rfl) length
      refine ⟨line', ?_⟩
      rw [passGaps_succ, if_pos (by rw [gap]; exact isBreak), next, same]
      have whole : Utf8.size (spaces ++ x :: left) = Utf8.size spaces + Utf8.size passed + Utf8.size left' := by
        rw [cut, Utf8.size_append, Utf8.size_append, Nat.add_assoc]
      rw [whole, ← Nat.add_assoc, ← Nat.add_assoc]
      rw [List.length_append] at length
      exact passGaps_stable (show rest.length < n by omega) (show rest.length < n + 1 by omega)

end Start

end Frontmark.Yaml.Layout
