import Frontmark.Proofs.Except
import Frontmark.Proofs.Text.Slice
import Frontmark.Yaml.Cursor
import Mathlib.Data.List.TakeWhile
import Mathlib.Tactic.SplitIfs
import Mathlib.Tactic.Push

/-! A text with blanks around it, place by place.

What stands before a text moves its places by some bytes and lines. What stands after it is seen only from its end on,
and there it looks like the end of the text. -/

set_option autoImplicit false

namespace Frontmark.Yaml

open Frontmark.Text

/-- The blanks that can stand around a text: spaces and line breaks. -/
def pads : List Char :=
  [' ', '\n', '\r', '\u0085', '\u2028', '\u2029']

def isPad (c : Char) : Bool :=
  c ∈ pads

/-- What holds of no padding. -/
def Visible (p : Char → Bool) : Prop :=
  ∀ c ∈ pads, p c = false

instance (p : Char → Bool) : Decidable (Visible p) :=
  inferInstanceAs (Decidable (∀ c ∈ pads, p c = false))

/-- Nothing but line breaks. -/
def Bare (text : List Char) : Prop :=
  ∀ c ∈ text, isBreak c = true

/-- Nothing is left but padding. -/
def Spent (text : List Char) : Prop :=
  ∀ c ∈ text, isPad c = true

instance (text : List Char) : Decidable (Bare text) :=
  inferInstanceAs (Decidable (∀ c ∈ text, isBreak c = true))

instance (text : List Char) : Decidable (Spent text) :=
  inferInstanceAs (Decidable (∀ c ∈ text, isPad c = true))

theorem blank_or_break_of_pad : ∀ x ∈ pads, (isSpaceOrTab x || isBreak x) = true := by
  decide

theorem Spent.mem_pads {text : List Char} (spent : Spent text) {x : Char} (mem : x ∈ text) : x ∈ pads := by
  simpa [isPad] using spent x mem

theorem Bare.of_nil {text : List Char} (done : text = []) : Bare text := by
  rw [done]
  exact nofun

theorem Spent.of_nil {text : List Char} (done : text = []) : Spent text := by
  rw [done]
  exact nofun

theorem Bare.spent {text : List Char} (bare : Bare text) : Spent text := by
  intro x mem
  have breaks := bare x mem
  simp only [isBreak, Bool.or_eq_true, decide_eq_true_eq] at breaks
  rcases breaks with (((rfl | rfl) | rfl) | rfl) | rfl <;> decide

theorem Spent.isSeparated {text : List Char} (spent : Spent text) : isSeparated text = true := by
  cases text with
  | nil => rfl
  | cons x rest => exact blank_or_break_of_pad x (spent.mem_pads List.mem_cons_self)

/-- `d` comes after `c` in the text of `c`, or is the same place. -/
def Passes (c d : Cursor) : Prop :=
  ∃ passed, c.rest = passed ++ d.rest ∧ d.mark.offset = c.mark.offset + Utf8.size passed

namespace Passes

variable {c d e : Cursor}

theorem refl (c : Cursor) : Passes c c :=
  ⟨[], rfl, rfl⟩

theorem trans (first : Passes c d) (second : Passes d e) : Passes c e := by
  obtain ⟨passed, rest, offset⟩ := first
  obtain ⟨more, rest', offset'⟩ := second
  refine ⟨passed ++ more, by rw [rest, rest', List.append_assoc], ?_⟩
  rw [offset', offset, Utf8.size_append, Nat.add_assoc]

theorem suffix (passes : Passes c d) : d.rest <:+ c.rest :=
  ⟨passes.choose, passes.choose_spec.1.symm⟩

theorem spent (passes : Passes c d) (spent : Spent c.rest) : Spent d.rest :=
  fun x mem => spent x (passes.suffix.mem mem)

theorem length_le (passes : Passes c d) : d.rest.length ≤ c.rest.length := by
  obtain ⟨passed, rest, -⟩ := passes
  rw [rest, List.length_append]
  exact Nat.le_add_left ..

theorem total (passes : Passes c d) : d.mark.offset + Utf8.size d.rest = c.mark.offset + Utf8.size c.rest := by
  obtain ⟨passed, rest, offset⟩ := passes
  rw [offset, rest, Utf8.size_append, Nat.add_assoc]

theorem skip (c : Cursor) : Passes c c.skip := by
  obtain ⟨mark, rest⟩ := c
  cases rest with
  | nil => exact refl _
  | cons x rest => exact ⟨[x], rfl, by simp [Cursor.skip, Utf8.size]⟩

theorem skipMany (n : Nat) (c : Cursor) : Passes c (c.skipMany n) := by
  induction n generalizing c with
  | zero => exact refl c
  | succ n ih => exact (skip c).trans (ih c.skip)

theorem skip_skipMany (n : Nat) (c : Cursor) : Passes c.skip (c.skipMany (n + 1)) :=
  skipMany n c.skip

theorem skipWhile (p : Char → Bool) (c : Cursor) : Passes c (c.skipWhile p) :=
  ⟨c.rest.takeWhile p, List.takeWhile_append_dropWhile.symm, rfl⟩

theorem skipBreak (c : Cursor) : Passes c c.skipBreak := by
  obtain ⟨mark, text⟩ := c
  unfold Cursor.skipBreak Cursor.takeBreak
  split
  case h_1 rest same =>
    obtain rfl : text = '\r' :: '\n' :: rest := same
    exact ⟨['\r', '\n'], rfl, rfl⟩
  case h_2 b rest _ same =>
    obtain rfl : text = b :: rest := same
    split_ifs
    · exact ⟨[b], rfl, by simp [Utf8.size]⟩
    · exact ⟨[b], rfl, by simp [Utf8.size]⟩
    · exact refl _
  case h_3 => exact refl _

theorem skipComment (c : Cursor) : Passes c c.skipComment := by
  rw [Cursor.skipComment]
  split_ifs
  · exact skipWhile _ c
  · exact refl c

end Passes

theorem rest_skipMany (n : Nat) (c : Cursor) : (c.skipMany n).rest = c.rest.drop n := by
  induction n generalizing c with
  | zero => rfl
  | succ n ih =>
    obtain ⟨mark, rest⟩ := c
    rw [Cursor.skipMany, ih]
    cases rest <;> simp [Cursor.skip]

theorem length_skip {c : Cursor} (more : c.rest ≠ []) : c.skip.rest.length < c.rest.length := by
  obtain ⟨mark, rest⟩ := c
  cases rest with
  | nil => exact absurd rfl more
  | cons x rest => exact Nat.lt_succ_self _

/-- What stands around a text. -/
structure Margin where
  /-- The bytes and lines before it. -/
  offset : Nat
  line : Nat
  after : List Char
  spent : Spent after

theorem isDocumentLine_of_spent {c : Cursor} (spent : Spent c.rest) : c.isDocumentLine = false := by
  have other (x : Char) (visible : x ∉ pads) (rest : List Char) : c.rest ≠ x :: rest := fun same =>
    visible (spent.mem_pads (same ▸ List.mem_cons_self))
  rw [Cursor.isDocumentLine]
  split
  case h_1 same => exact absurd same (other '-' (by decide) _)
  case h_2 same => exact absurd same (other '.' (by decide) _)
  case h_3 => simp

theorem head?_ne_of_spent {c : Cursor} {x : Char} (visible : x ∉ pads) (spent : Spent c.rest) : c.head? ≠ some x :=
  fun head => visible (spent.mem_pads (List.mem_of_head? head))

/-- One line break that is a single character. -/
theorem takeBreak_alone {mark : Mark} {x : Char} {rest : List Char} (alone : ¬ (x = '\r' ∧ rest.head? = some '\n')) :
    (⟨mark, x :: rest⟩ : Cursor).takeBreak =
      if x = '\u2028' ∨ x = '\u2029' then ([x], ⟨⟨mark.offset + x.utf8Size, mark.line + 1, 0⟩, rest⟩)
      else if isBreak x then (['\n'], ⟨⟨mark.offset + x.utf8Size, mark.line + 1, 0⟩, rest⟩)
      else ([], ⟨mark, x :: rest⟩) := by
  unfold Cursor.takeBreak
  split
  case h_1 same =>
    cases same
    exact absurd ⟨rfl, rfl⟩ alone
  case h_2 same =>
    cases same
    simp
  case h_3 same => cases same

theorem length_skipBreak {c : Cursor} {x : Char} {rest : List Char} (cons : c.rest = x :: rest) (isBreak : isBreak x = true) :
    c.skipBreak.rest.length < c.rest.length := by
  obtain ⟨mark, text⟩ := c
  obtain rfl : text = x :: rest := cons
  by_cases feed : x = '\r' ∧ rest.head? = some '\n'
  · obtain ⟨rfl, head⟩ := feed
    obtain ⟨rest, rfl⟩ := List.head?_eq_some_iff.mp head
    exact Nat.lt_succ_of_lt (Nat.lt_succ_self _)
  · rw [Cursor.skipBreak, takeBreak_alone feed]
    split_ifs <;> exact Nat.lt_succ_self _

namespace Margin

variable (w : Margin) {c d : Cursor} {p : Char → Bool} {x : Char} {rest : List Char}

def mark (m : Mark) : Mark :=
  ⟨w.offset + m.offset, w.line + m.line, m.column⟩

def cursor (c : Cursor) : Cursor :=
  ⟨w.mark c.mark, c.rest ++ w.after⟩

/-- What was read from `c` on, and the same within the margin. -/
def Same {α : Type} (c : Cursor) (r s : α × Cursor) : Prop :=
  s = (r.1, w.cursor r.2) ∧ Passes c r.2

variable {w} in
theorem same_after {α : Type} {r s : α × Cursor} (passes : Passes c d) (same : w.Same d r s) : w.Same c r s :=
  ⟨same.1, passes.trans same.2⟩

theorem rest_ne_nil_of_head? {c : Cursor} {x : Char} (head : c.head? = some x) : c.rest ≠ [] := fun done => by
  rw [Cursor.head?, done] at head
  cases head

/-- `d` is the same place as `c`, or both are behind all that counts. -/
def Follows (c d : Cursor) : Prop :=
  d = w.cursor c ∨ c.rest = [] ∧ d.rest <:+ w.after

@[simp] theorem mark_column (m : Mark) : (w.mark m).column = m.column := rfl

@[simp] theorem cursor_rest (c : Cursor) : (w.cursor c).rest = c.rest ++ w.after := rfl

@[simp] theorem cursor_column (c : Cursor) : (w.cursor c).column = c.column := rfl

theorem visible_after (visible : Visible p) : ∀ x ∈ w.after, p x = false :=
  fun x mem => visible x (w.spent.mem_pads mem)

theorem spent_cursor (done : c.rest = []) : Spent (w.cursor c).rest := by
  rw [cursor_rest, done]
  exact w.spent

section Unseen

variable (unseen : ∀ x ∈ w.after, p x = false)
include unseen

theorem takeWhile_append (rest : List Char) : (rest ++ w.after).takeWhile p = rest.takeWhile p := by
  induction rest with
  | nil =>
    cases after : w.after with
    | nil => rfl
    | cons x more => simp [unseen x (after ▸ List.mem_cons_self)]
  | cons x rest ih => simp only [List.cons_append, List.takeWhile_cons, ih]

theorem dropWhile_append (rest : List Char) : (rest ++ w.after).dropWhile p = rest.dropWhile p ++ w.after := by
  induction rest with
  | nil =>
    cases after : w.after with
    | nil => rfl
    | cons x more => simp [unseen x (after ▸ List.mem_cons_self)]
  | cons x rest ih =>
    simp only [List.cons_append, List.dropWhile_cons, ih]
    split <;> rfl

theorem same_takeWhile_of_unseen (c : Cursor) : w.Same c (c.takeWhile p) ((w.cursor c).takeWhile p) := by
  refine ⟨?_, .skipWhile p c⟩
  simp [Cursor.takeWhile, Cursor.skipWhile, w.takeWhile_append unseen, w.dropWhile_append unseen, cursor, mark, Nat.add_assoc]

end Unseen

theorem same_takeWhile (visible : Visible p) (c : Cursor) : w.Same c (c.takeWhile p) ((w.cursor c).takeWhile p) :=
  w.same_takeWhile_of_unseen (w.visible_after visible) c

theorem skip_cursor (more : c.rest ≠ []) : (w.cursor c).skip = w.cursor c.skip := by
  obtain ⟨mark, rest⟩ := c
  cases rest with
  | nil => exact absurd rfl more
  | cons x rest => simp [Cursor.skip, cursor, Margin.mark, Nat.add_assoc]

theorem skipMany_cursor {n : Nat} (enough : n ≤ c.rest.length) : (w.cursor c).skipMany n = w.cursor (c.skipMany n) := by
  induction n generalizing c with
  | zero => rfl
  | succ n ih =>
    obtain ⟨mark, rest⟩ := c
    cases rest with
    | nil => exact absurd enough (Nat.not_succ_le_zero n)
    | cons x rest =>
      rw [Cursor.skipMany, Cursor.skipMany, w.skip_cursor (List.cons_ne_nil x rest), ih (Nat.le_of_succ_le_succ enough)]

/-- At a place in the text the next character is the same. -/
theorem head?_cursor (more : c.rest ≠ []) : (w.cursor c).head? = c.head? := by
  obtain ⟨x, rest, cons⟩ := List.exists_cons_of_ne_nil more
  simp [Cursor.head?, cons]

theorem any_head?_append (visible : Visible p) (rest : List Char) : (rest ++ w.after).head?.any p = rest.head?.any p := by
  cases rest with
  | cons x rest => rfl
  | nil =>
    cases after : w.after with
    | nil => rfl
    | cons x more => simp [w.visible_after visible x (after ▸ List.mem_cons_self)]

theorem head?_append_eq_iff (visible : x ∉ pads) (rest : List Char) :
    (rest ++ w.after).head? = some x ↔ rest.head? = some x := by
  have same := w.any_head?_append (p := (· = x)) (fun c mem => decide_eq_false fun same => visible (same ▸ mem)) rest
  cases first : (rest ++ w.after).head? <;> cases second : rest.head? <;> simp_all

/-- Visible characters with which the whole begins are those of the text. -/
theorem exists_of_append_eq {seen left : List Char} (visible : ∀ x ∈ seen, x ∉ pads) (same : rest ++ w.after = seen ++ left) :
    ∃ more, rest = seen ++ more ∧ left = more ++ w.after := by
  obtain ⟨more, rfl, rfl⟩ | ⟨extra, rfl, cut⟩ := List.append_eq_append_iff.mp same.symm
  · exact ⟨more, rfl, rfl⟩
  · cases extra with
    | nil => exact ⟨[], by simp, by simpa using cut.symm⟩
    | cons x extra =>
      exact absurd (w.spent.mem_pads (cut ▸ List.mem_cons_self)) (visible x (by simp))

theorem head?_cursor_eq_iff (visible : x ∉ pads) (c : Cursor) : (w.cursor c).head? = some x ↔ c.head? = some x :=
  w.head?_append_eq_iff visible c.rest

theorem any_head?_cursor (visible : Visible p) (c : Cursor) : (w.cursor c).head?.any p = c.head?.any p :=
  w.any_head?_append visible c.rest

theorem isSeparated_append (rest : List Char) : isSeparated (rest ++ w.after) = isSeparated rest := by
  cases rest with
  | cons x rest => rfl
  | nil => exact w.spent.isSeparated

theorem isDocumentLine_cursor (c : Cursor) : (w.cursor c).isDocumentLine = c.isDocumentLine := by
  have other (x : Char) (visible : x ∉ pads) (rest : List Char) : w.after ≠ x :: rest := fun same =>
    visible (w.spent.mem_pads (same ▸ List.mem_cons_self))
  have dash := other '-' (by decide)
  have dot := other '.' (by decide)
  rw [Cursor.isDocumentLine, Cursor.isDocumentLine, cursor_column, cursor_rest]
  congr 1
  rcases c.rest with _ | ⟨x, _ | ⟨y, _ | ⟨z, rest⟩⟩⟩
  · simp only [List.nil_append]
    split <;> simp_all
  · simp only [List.cons_append, List.nil_append]
    split <;> simp_all
  · simp only [List.cons_append, List.nil_append]
    split <;> simp_all
  · simp only [List.cons_append]
    split
    case h_1 same | h_2 same =>
      cases same
      exact w.isSeparated_append rest
    case h_3 =>
      split <;> simp_all

/-- What stands after the text does not matter to a search that ends in it. -/
theorem same_takeWhile_of_more (more : (c.skipWhile p).rest ≠ []) : w.Same c (c.takeWhile p) ((w.cursor c).takeWhile p) := by
  have more : c.rest.dropWhile p ≠ [] := more
  have left : (c.rest ++ w.after).dropWhile p = c.rest.dropWhile p ++ w.after := by
    rw [List.dropWhile_append, if_neg (by simpa using more)]
  have taken : (c.rest ++ w.after).takeWhile p = c.rest.takeWhile p := by
    rw [List.takeWhile_append, if_neg]
    intro whole
    have parts := congrArg List.length (List.takeWhile_append_dropWhile (p := p) (l := c.rest))
    rw [List.length_append, whole] at parts
    exact more (List.length_eq_zero_iff.mp (by omega))
  refine ⟨?_, .skipWhile p c⟩
  simp [Cursor.takeWhile, Cursor.skipWhile, taken, left, cursor, mark, Nat.add_assoc]

theorem skipWhile_cursor_of_more (more : (c.skipWhile p).rest ≠ []) : (w.cursor c).skipWhile p = w.cursor (c.skipWhile p) :=
  congrArg Prod.snd (w.same_takeWhile_of_more more).1

/-- A line break at the end of a text may be one with what stands after it. -/
theorem exists_takeBreak_cursor (more : c.rest ≠ []) :
    ∃ d, (w.cursor c).takeBreak = (c.takeBreak.1, d) ∧ w.Follows c.skipBreak d := by
  obtain ⟨mark, text⟩ := c
  obtain ⟨x, rest, rfl⟩ := List.exists_cons_of_ne_nil more
  by_cases feed : x = '\r' ∧ (rest ++ w.after).head? = some '\n'
  · obtain ⟨rfl, head⟩ := feed
    cases rest with
    | nil =>
      obtain ⟨after, same⟩ := List.head?_eq_some_iff.mp (show w.after.head? = some '\n' from head)
      refine ⟨⟨⟨(w.mark mark).offset + 2, (w.mark mark).line + 1, 0⟩, after⟩, ?_, .inr ⟨rfl, same ▸ List.suffix_cons _ _⟩⟩
      rw [cursor, List.singleton_append, same]
      rfl
    | cons y rest =>
      obtain rfl : y = '\n' := Option.some.inj head
      exact ⟨_, rfl, .inl (by simp [Cursor.takeBreak, Cursor.skipBreak, cursor, Margin.mark, Nat.add_assoc])⟩
  · have alone : ¬ (x = '\r' ∧ rest.head? = some '\n') := by
      rintro ⟨rfl, head⟩
      exact feed ⟨rfl, by rw [List.head?_append, head]; rfl⟩
    rw [Cursor.skipBreak, cursor, List.cons_append, takeBreak_alone feed, takeBreak_alone alone]
    split_ifs
    · exact ⟨_, rfl, .inl (by simp [cursor, Margin.mark, Nat.add_assoc])⟩
    · exact ⟨_, rfl, .inl (by simp [cursor, Margin.mark, Nat.add_assoc])⟩
    · exact ⟨_, rfl, .inl rfl⟩

variable {w}

namespace Follows

variable {c' d' : Cursor}

theorem suffix (follows : w.Follows c d) (done : c.rest = []) : d.rest <:+ w.after := by
  obtain rfl | ⟨-, suffix⟩ := follows
  · rw [cursor_rest, done]
    exact List.suffix_rfl
  · exact suffix

/-- At the end of the text nothing else but padding follows. -/
theorem spent (follows : w.Follows c d) (done : c.rest = []) : Spent d.rest :=
  fun x mem => w.spent x ((follows.suffix done).mem mem)

theorem head?_eq_iff (follows : w.Follows c d) (visible : x ∉ pads) : d.head? = some x ↔ c.head? = some x := by
  by_cases done : c.rest = []
  · exact iff_of_false (head?_ne_of_spent visible (follows.spent done)) fun head => rest_ne_nil_of_head? head done
  · obtain rfl : d = w.cursor c := follows.resolve_right fun ended => done ended.1
    exact w.head?_cursor_eq_iff visible c

theorem eq_cursor (follows : w.Follows c d) (more : c.rest ≠ []) : d = w.cursor c :=
  follows.resolve_right fun ended => more ended.1

theorem of_end (follows : w.Follows c d) (done : c.rest = []) (passes : Passes c c') (passes' : Passes d d') :
    w.Follows c' d' := by
  exact .inr ⟨List.suffix_nil.mp (done ▸ passes.suffix), passes'.suffix.trans (follows.suffix done)⟩

theorem skipBreak (follows : w.Follows c d) : w.Follows c.skipBreak d.skipBreak := by
  by_cases done : c.rest = []
  · exact follows.of_end done (.skipBreak c) (.skipBreak d)
  · obtain rfl : d = w.cursor c := follows.eq_cursor done
    obtain ⟨d, same, follows⟩ := w.exists_takeBreak_cursor done
    rw [Cursor.skipBreak, Cursor.skipBreak, same]
    exact follows

theorem skipWhile (follows : w.Follows c d) (p : Char → Bool) : w.Follows (c.skipWhile p) (d.skipWhile p) := by
  by_cases done : c.rest = []
  · exact follows.of_end done (.skipWhile p c) (.skipWhile p d)
  · obtain rfl : d = w.cursor c := follows.eq_cursor done
    by_cases more : c.rest.dropWhile p = []
    · have rest : ((w.cursor c).skipWhile p).rest = w.after.dropWhile p := by
        simp [Cursor.skipWhile, List.dropWhile_append, more]
      exact .inr ⟨more, rest ▸ List.dropWhile_suffix p⟩
    · exact .inl (w.skipWhile_cursor_of_more more)

theorem skipComment (follows : w.Follows c d) : w.Follows c.skipComment d.skipComment := by
  by_cases done : c.rest = []
  · exact follows.of_end done (.skipComment c) (.skipComment d)
  · obtain rfl : d = w.cursor c := follows.eq_cursor done
    rw [Cursor.skipComment, Cursor.skipComment, w.head?_cursor done]
    split_ifs
    · exact follows.skipWhile _
    · exact follows

end Follows

/-- Behind characters that a text ends with stands the end of a line. -/
theorem isBreakOrEnd_skipWhile (done : c.rest.dropWhile p = []) (stops : ∀ x ∈ pads, p x = true ∨ isBreak x = true) :
    isBreakOrEnd ((w.cursor c).skipWhile p).rest = true := by
  have rest : ((w.cursor c).skipWhile p).rest = w.after.dropWhile p := by
    simp [Cursor.skipWhile, List.dropWhile_append, done]
  rw [rest]
  cases left : w.after.dropWhile p with
  | nil => rfl
  | cons x rest =>
    have first := List.head?_dropWhile_not p w.after
    have mem : x ∈ w.after := (List.dropWhile_sublist p).mem (left ▸ List.mem_cons_self)
    exact (stops x (w.spent.mem_pads mem)).resolve_left (by simpa [left] using first)

theorem isBreakOrEnd_append {text : List Char} (more : text ≠ []) : isBreakOrEnd (text ++ w.after) = isBreakOrEnd text := by
  cases text with
  | nil => exact absurd rfl more
  | cons x rest => rfl

theorem isBreakOrEnd_comment (c : Cursor) (more : c.rest ≠ []) :
    isBreakOrEnd (w.cursor c).skipComment.rest = isBreakOrEnd c.skipComment.rest := by
  rw [Cursor.skipComment, Cursor.skipComment, w.head?_cursor more]
  split_ifs
  · by_cases done : c.rest.dropWhile (!isBreak ·) = []
    · rw [isBreakOrEnd_skipWhile done (by decide), Cursor.skipWhile, done]
      rfl
    · rw [w.skipWhile_cursor_of_more done]
      exact isBreakOrEnd_append done
  · exact isBreakOrEnd_append more

/-- Behind blanks and a comment the end of a text is the end of a line. -/
theorem isBreakOrEnd_skipComment (stops : ∀ x ∈ pads, p x = true ∨ isBreak x = true) (c : Cursor) :
    isBreakOrEnd ((w.cursor c).skipWhile p).skipComment.rest = isBreakOrEnd (c.skipWhile p).skipComment.rest := by
  by_cases done : c.rest.dropWhile p = []
  · have ended : isBreakOrEnd ((w.cursor c).skipWhile p).rest = true := isBreakOrEnd_skipWhile done stops
    have plain : ((w.cursor c).skipWhile p).skipComment = (w.cursor c).skipWhile p := by
      rw [Cursor.skipComment, if_neg]
      intro head
      obtain ⟨rest, cons⟩ := List.head?_eq_some_iff.mp head
      rw [cons] at ended
      simp [isBreakOrEnd, isBreak] at ended
    have none_ : (c.skipWhile p).skipComment.rest = [] := by
      rw [Cursor.skipComment, if_neg (by simp [Cursor.head?, Cursor.skipWhile, done])]
      exact done
    rw [plain, ended, none_]
    rfl
  · rw [w.skipWhile_cursor_of_more done]
    exact isBreakOrEnd_comment _ done

theorem isBreakOrEnd_skipBlanks (c : Cursor) :
    isBreakOrEnd (w.cursor c).skipBlanks.skipComment.rest = isBreakOrEnd c.skipBlanks.skipComment.rest :=
  isBreakOrEnd_skipComment (by decide) c

end Margin

end Frontmark.Yaml
