import Frontmark.Proofs.Yaml.Tag
import Frontmark.Yaml.Plain
import Frontmark.Yaml.Quoted
import Frontmark.Yaml.Verbatim
import Mathlib.Tactic.ByContra

/-! Scalars read the same wherever they stand.

A scalar without quotes does not take blanks at its end, and one in quotes does not end there. A block scalar does: what
it takes at the end of a text depends on what follows. -/

set_option autoImplicit false

namespace Frontmark.Yaml

open Frontmark.Text

variable {w : Margin} {start start' : Mark} {c d : Cursor}

namespace Gap

variable {indent n m : Nat}

/-- A gap takes all padding that is left. -/
theorem exists_read_of_spent (start : Mark) (indent : Nat) (g : Gap) (spent : Spent c.rest) (enough : c.rest.length ≤ n) :
    ∃ g' d, read start indent n g c = .ok (g', d) ∧ d.rest = [] := by
  induction n generalizing g c with
  | zero => exact ⟨g, c, rfl, List.length_eq_zero_iff.mp (Nat.le_zero.mp enough)⟩
  | succ n ih =>
    cases cons : c.rest with
    | nil => exact ⟨g, c, by rw [read, cons], cons⟩
    | cons x rest =>
      have pad : x ∈ pads := spent.mem_pads (cons ▸ List.mem_cons_self)
      have tab : x ≠ '\t' := fun same => absurd (same ▸ pad) (by decide)
      have skipped := length_skip (cons ▸ List.cons_ne_nil x rest)
      rw [read, cons]
      dsimp only
      split_ifs with blank violates ends
      · simp [tab] at violates
      · exact ih _ ((Passes.skip c).spent spent) (by omega)
      · have broken := length_skipBreak cons ends
        rw [Cursor.skipBreak] at broken
        exact ih _ ((Passes.skipBreak c).spent spent) (by omega)
      · have either := blank_or_break_of_pad x pad
        simp [blank, ends] at either

/-- Where a gap ends in the text it is the same; at the end of the text it ends with the padding. A gap is not empty
where it begins with a blank or a line break. -/
def Ends (w : Margin) (c : Cursor) (r s : Gap × Cursor) : Prop :=
  Passes c r.2 ∧ (∀ x ∈ c.head?, (isSpaceOrTab x || isBreak x) = true → r.2.rest.length < c.rest.length) ∧
    (r.2.rest ≠ [] ∧ s = (r.1, w.cursor r.2) ∨ r.2.rest = [] ∧ s.2.rest = [])

theorem read_agree_of_end (g : Gap) (follows : w.Follows c d) (done : c.rest = []) (enough : d.rest.length ≤ m) :
    Agree (Ends w c) (read start indent n g c) (read start' indent m g d) := by
  obtain ⟨g', e, same, ended⟩ := exists_read_of_spent start' indent g (follows.spent done) enough
  have none_ : read start indent n g c = .ok (g, c) := by
    cases n with
    | zero => rfl
    | succ n => rw [read, done]
  rw [same, none_]
  exact ⟨.refl c, by simp [Cursor.head?, done], .inr ⟨done, ended⟩⟩

theorem read_agree (g : Gap) (follows : w.Follows c d) (enough : c.rest.length ≤ n) (enough' : d.rest.length ≤ m) :
    Agree (Ends w c) (read start indent n g c) (read start' indent m g d) := by
  induction n generalizing m g c d with
  | zero => exact read_agree_of_end g follows (List.length_eq_zero_iff.mp (Nat.le_zero.mp enough)) enough'
  | succ n ih =>
    by_cases done : c.rest = []
    · exact read_agree_of_end g follows done enough'
    · obtain rfl : d = w.cursor c := follows.eq_cursor done
      obtain ⟨x, rest, cons⟩ := List.exists_cons_of_ne_nil done
      obtain _ | m := m
      · simp [cons] at enough'
      have next {e f : Cursor} (g : Gap) (follows : w.Follows e f) (passes : Passes c e)
          (shorter : e.rest.length < c.rest.length) (shorter' : f.rest.length < (w.cursor c).rest.length) :
          Agree (Ends w c) (read start indent n g e) (read start' indent m g f) :=
        (ih g follows (by omega) (by omega)).mono fun _ _ ends =>
          ⟨passes.trans ends.1, fun _ _ _ => Nat.lt_of_le_of_lt ends.1.length_le shorter, ends.2.2⟩
      have cons' : (w.cursor c).rest = x :: (rest ++ w.after) := by rw [Margin.cursor_rest, cons, List.cons_append]
      rw [read, read, cons, cons']
      refine .ite Iff.rfl (fun _ => ?_) fun blank => .ite Iff.rfl (fun ends => ?_) fun ends => ?_
      · refine .ite (by rw [Margin.cursor_column]) (fun _ => trivial) fun _ => ?_
        exact next _ (.inl (w.skip_cursor done)) (.skip c) (length_skip done) (length_skip (cons' ▸ List.cons_ne_nil _ _))
      · obtain ⟨f, same, follows⟩ := w.exists_takeBreak_cursor done
        have shorter := length_skipBreak cons ends
        have shorter' := length_skipBreak cons' ends
        rw [Cursor.skipBreak, same] at shorter'
        rw [same]
        exact next _ follows (.skipBreak c) shorter shorter'
      · exact ⟨.refl c, by simp [Cursor.head?, cons, blank, ends], .inl ⟨done, rfl⟩⟩

end Gap

namespace Plain

variable {inFlow : Bool} {indent n m : Nat}

theorem word_of_spent {text : List Char} (spent : Spent text) : word inFlow text = ([], .here) := by
  cases text with
  | nil => rfl
  | cons x rest =>
    have ends := blank_or_break_of_pad x (spent.mem_pads List.mem_cons_self)
    rw [word, if_pos ends]

/-- Blanks end a word. -/
theorem word_append (text : List Char) : word inFlow (text ++ w.after) = word inFlow text := by
  induction text with
  | nil => exact word_of_spent w.spent
  | cons x rest ih =>
    have flow : Visible fun d => isFlowMark d || d = '?' := by decide
    rw [List.cons_append, word, word, w.any_head?_append flow, w.isSeparated_append, ih]

theorem length_word_le (inFlow : Bool) (text : List Char) : (word inFlow text).1.length ≤ text.length := by
  induction text with
  | nil => exact Nat.le_refl 0
  | cons x rest ih =>
    rw [word]
    split_ifs
    · exact Nat.zero_le _
    · exact Nat.zero_le _
    · exact Nat.zero_le _
    · exact Nat.succ_le_succ ih

/-- A word begins here. -/
def Begins (inFlow : Bool) (c : Cursor) : Prop :=
  c.isDocumentLine = false ∧ c.head? ≠ some '#' ∧ (word inFlow c.rest).1 ≠ []

/-- No word follows where nothing but padding is left. -/
theorem readWords_of_spent {text : List Char} {g : Gap} (spent : Spent c.rest) :
    readWords inFlow start indent n text g c = .ok ⟨text.reverse, g.broken, c⟩ := by
  cases n with
  | zero => rfl
  | succ n =>
    rw [readWords, isDocumentLine_of_spent spent, if_neg (by simpa using head?_ne_of_spent (by decide) spent), word_of_spent spent]
    rfl

/-- A scalar ends at the same place, or with the text. -/
def Ends (w : Margin) (c : Cursor) (o o' : Outcome) : Prop :=
  o'.text = o.text ∧ Passes c o.next ∧
    (o'.next = w.cursor o.next ∧ o'.broken = o.broken ∨ o.next.rest = [] ∧ Spent o'.next.rest)

theorem readWords_agree {b : Cursor} {text : List Char} {g : Gap} (enough : c.rest.length < n)
    (enough' : (w.cursor c).rest.length < m) (back : Passes b c.skip) (stay : ¬ Begins inFlow c → Passes b c) :
    Agree (Ends w b) (readWords inFlow start indent n text g c) (readWords inFlow start' indent m text g (w.cursor c)) := by
  induction n generalizing m b text g c with
  | zero => exact absurd enough (Nat.not_lt_zero _)
  | succ n ih =>
    obtain _ | m := m
    · exact absurd enough' (Nat.not_lt_zero _)
    rw [readWords, readWords, w.isDocumentLine_cursor, Margin.cursor_rest, word_append]
    have head : decide ((w.cursor c).head? = some '#') = decide (c.head? = some '#') :=
      decide_eq_decide.mpr (w.head?_cursor_eq_iff (by decide) c)
    refine .ite (by rw [head]) (fun ends => ⟨rfl, stay fun begins => ?_, .inl ⟨rfl, rfl⟩⟩) fun goes => ?_
    · simp [begins.1, begins.2.1] at ends
    · have short := length_word_le inFlow c.rest
      cases same : word inFlow c.rest with
      | mk letters stop =>
        rw [same] at short
        dsimp only at short ⊢
        rw [w.skipMany_cursor short]
        cases stop with
        | colon => trivial
        | here =>
          refine .ite Iff.rfl (fun none_ => ?_) fun some_ => ?_
          · obtain rfl : letters = [] := List.isEmpty_iff.mp none_
            exact ⟨rfl, stay fun begins => begins.2.2 (by rw [same]), .inl ⟨rfl, rfl⟩⟩
          · obtain ⟨k, length⟩ : ∃ k, letters.length = k + 1 :=
              Nat.exists_eq_succ_of_ne_zero fun none_ => some_ (List.isEmpty_iff.mpr (List.length_eq_zero_iff.mp none_))
            rw [length] at short ⊢
            have passed : Passes b (c.skipMany (k + 1)) := back.trans (.skip_skipMany k c)
            have shorter : (c.skipMany (k + 1)).rest.length < c.rest.length :=
              Nat.lt_of_le_of_lt (Passes.skip_skipMany k c).length_le (length_skip (List.length_pos_iff.mp (by omega)))
            refine (Gap.read_agree {} (.inl rfl) (Nat.le_refl _) (Nat.le_refl _)).bind ?_
            rintro ⟨gap, after⟩ ⟨gap', after'⟩ ⟨passes, -, ⟨more, same⟩ | ⟨done, done'⟩⟩
            · cases same
              refine .ite (by rw [Margin.cursor_column]) (fun _ => ⟨rfl, passed.trans passes, .inl ⟨rfl, rfl⟩⟩) fun _ => ?_
              have reached := passed.trans passes
              have length := passes.length_le
              refine ih (by omega) ?_ (reached.trans (.skip after)) fun _ => reached
              rw [Margin.cursor_rest, List.length_append] at enough' ⊢
              omega
            · dsimp only
              rw [readWords_of_spent (.of_nil done), readWords_of_spent (.of_nil done')]
              split_ifs <;> exact ⟨rfl, passed.trans passes, .inr ⟨done, .of_nil done'⟩⟩

/-- What begins like a scalar begins with a word. -/
theorem begins_of_canStart (starts : canStart inFlow c.rest = true) (ordinary : c.isDocumentLine = false) : Begins inFlow c := by
  cases cons : c.rest with
  | nil =>
    rw [cons] at starts
    cases starts
  | cons x rest =>
    rw [cons, canStart] at starts
    have letter : x ≠ '#' ∧ (isSpaceOrTab x || isBreak x) = false ∧
        (inFlow = true → isFlowMark x = false ∧ x ≠ ':') ∧ (x = ':' → isSeparated rest = false) := by
      split_ifs at starts with dash other
      · subst dash
        exact ⟨by decide, by decide, fun _ => by decide, fun same => absurd same (by decide)⟩
      · obtain ⟨rfl, alone⟩ : inFlow = false ∧ isSeparated rest = false := by simpa using starts
        refine ⟨?_, ?_, nofun, fun _ => alone⟩
        · rintro rfl
          exact absurd other (by decide)
        · obtain rfl | rfl : x = '?' ∨ x = ':' := by simpa using other
          · decide
          · decide
      · obtain ⟨⟨visible, flow⟩, indicator⟩ : ((isSpaceOrTab x || isBreak x) = false ∧ isFlowMark x = false) ∧
            "#&*!|>'\"%@\x60".toList.contains x = false := by
          simpa only [Bool.not_eq_true', Bool.or_eq_false_iff] using starts
        have colon : x ≠ ':' := fun same => other (by simp [same])
        refine ⟨?_, visible, fun _ => ⟨flow, colon⟩, fun same => absurd same colon⟩
        rintro rfl
        exact absurd indicator (by decide)
    obtain ⟨hash, visible, flow, colon⟩ := letter
    refine ⟨ordinary, by simp [Cursor.head?, cons, hash], ?_⟩
    have first : (inFlow && decide (x = ':') && rest.head?.any fun d => isFlowMark d || d = '?') = false := by
      cases inFlow with
      | false => rfl
      | true => simp [(flow rfl).2]
    have second : ((x = ':') && isSeparated rest || inFlow && isFlowMark x) = false := by
      simp only [Bool.or_eq_false_iff, Bool.and_eq_false_imp, decide_eq_true_eq]
      exact ⟨colon, fun same => (flow same).1⟩
    rw [cons, word, visible, first, second]
    exact List.cons_ne_nil _ _

/-- A scalar is the same wherever it stands, and it is not empty. -/
theorem plain_agree (starts : canStart inFlow c.rest = true) (ordinary : c.isDocumentLine = false) :
    Agree (Ends w c.skip) (Plain.read inFlow indent c) (Plain.read inFlow indent (w.cursor c)) :=
  readWords_agree (Nat.lt_succ_self _) (Nat.lt_succ_self _) (.refl _) fun stays =>
    absurd (begins_of_canStart starts ordinary) stays

end Plain

namespace Quoted

variable {quote : Char} {text : List Char} {n m : Nat}

/-- Not enough digits are left, or other characters stand among them. -/
theorem digits_append_iff (text : List Char) (k : Nat) :
    (((text ++ w.after).take k).length < k || !((text ++ w.after).take k).all isHexDigit) = true ↔
      ((text.take k).length < k || !(text.take k).all isHexDigit) = true := by
  by_cases enough : k ≤ text.length
  · rw [List.take_append_of_le_length enough]
  · have short : ((text.take k).length < k || !(text.take k).all isHexDigit) = true := by
      simp only [List.length_take, Bool.or_eq_true, decide_eq_true_eq]
      exact .inl (by omega)
    refine iff_of_true ?_ short
    -- the first blank after the text would have to be a digit
    by_contra! complete
    simp only [ne_eq, Bool.not_eq_true, Bool.or_eq_false_iff, decide_eq_false_iff_not, Bool.not_eq_false'] at complete
    obtain ⟨length, digits⟩ := complete
    have all : (text ++ w.after).take k = text.take k ++ w.after.take (k - text.length) := List.take_append
    cases after : w.after with
    | nil =>
      rw [after, List.append_nil, List.length_take] at length
      omega
    | cons x rest =>
      obtain ⟨j, rfl⟩ := Nat.exists_eq_add_of_lt (Nat.lt_of_not_le enough)
      have mem : x ∈ (text ++ w.after).take (text.length + j + 1) := by
        rw [all, after, Nat.add_assoc, Nat.add_sub_cancel_left]
        simp
      have digit := List.all_eq_true.mp digits x mem
      rw [w.visible_after (by decide : Visible isHexDigit) x (after ▸ List.mem_cons_self)] at digit
      cases digit

/-- An escape that has a character is one in the text. -/
theorem escape_agree {rest : List Char} (cons : c.rest = '\\' :: rest) (more : rest ≠ []) :
    Agree (w.Same c.skip) (escape start c) (escape start' (w.cursor c)) := by
  obtain ⟨x, rest, rfl⟩ := List.exists_cons_of_ne_nil more
  have skipped : c.skip.rest = x :: rest := by simp [Cursor.skip, cons]
  have head : c.skip.head? = some x := by rw [Cursor.head?, skipped]; rfl
  have some_ : c.rest ≠ [] := cons ▸ List.cons_ne_nil _ _
  have some' : c.skip.rest ≠ [] := skipped ▸ List.cons_ne_nil _ _
  have head' : (w.cursor c.skip).head? = some x := by rw [Cursor.head?, Margin.cursor_rest, skipped]; rfl
  rw [escape, escape, w.skip_cursor some_, head, head']
  dsimp only
  cases short? x with
  | some y =>
    dsimp only
    rw [w.skip_cursor some']
    exact ⟨rfl, .skip _⟩
  | none =>
    cases digits? x with
    | none => trivial
    | some k =>
      dsimp only
      rw [w.skip_cursor some']
      refine .ite (digits_append_iff _ k) (fun _ => trivial) fun complete => ?_
      have enough : k ≤ c.skip.skip.rest.length := by
        have length : ¬ (c.skip.skip.rest.take k).length < k := fun short => complete (by simp only [short, decide_true, Bool.true_or])
        rw [List.length_take] at length
        omega
      rw [Margin.cursor_rest, List.take_append_of_le_length enough, w.skipMany_cursor enough]
      exact .ite Iff.rfl (fun _ => ⟨rfl, (Passes.skip _).trans (.skipMany k _)⟩) fun _ => trivial

theorem stretch_of_spent {quote : Char} (spent : Spent c.rest) : stretch quote start n text c = .ok ⟨text, false, c⟩ := by
  cases n with
  | zero => rfl
  | succ n =>
    cases cons : c.rest with
    | nil => rw [stretch, cons]
    | cons x rest =>
      rw [stretch, cons]
      exact if_pos (blank_or_break_of_pad x (spent.mem_pads (cons ▸ List.mem_cons_self)))

/-- A stretch that has not moved on has nothing in it. -/
def Stops (quote : Char) (c : Cursor) : Prop :=
  ∀ x ∈ c.head?, (isSpaceOrTab x || isBreak x) = true ∨ x = quote

/-- A stretch ends at the same place. One that breaks off with the text may go on in the padding. -/
def Ends (w : Margin) (quote : Char) (c : Cursor) : Except Malformed Stretch → Except Malformed Stretch → Prop
  | .ok s, .ok s' => s'.text = s.text ∧ s'.broken = s.broken ∧ w.Follows s.next s'.next ∧
      (Passes c.skip s.next ∨ s.next = c ∧ Stops quote c)
  | .error _, .error _ => True
  | .error _, .ok s' => Spent s'.next.rest
  | .ok _, .error _ => False

theorem Ends.ite {p q : Prop} [Decidable p] [Decidable q] {x y x' y' : Except Malformed Stretch} (same : q ↔ p)
    (yes : p → Ends w quote c x y) (no : ¬ p → Ends w quote c x' y') : Ends w quote c (if p then x else x') (if q then y else y') := by
  by_cases holds : p
  · rw [if_pos holds, if_pos (same.mpr holds)]
    exact yes holds
  · rw [if_neg holds, if_neg fun q => holds (same.mp q)]
    exact no holds

theorem Ends.after {x y : Except Malformed Stretch} (passes : Passes c.skip d) (ends : Ends w quote d x y) : Ends w quote c x y := by
  match x, y with
  | .ok s, .ok s' =>
    obtain ⟨text, broken, follows, moved | ⟨same, -⟩⟩ := ends
    · exact ⟨text, broken, follows, .inl ((passes.trans (.skip d)).trans moved)⟩
    · exact ⟨text, broken, follows, .inl (same ▸ passes)⟩
  | .error _, .error _ => trivial
  | .error _, .ok s' => exact ends

/-- A backslash at the end of a text has nothing to escape. -/
theorem escape_of_end (cons : c.rest = ['\\']) : escape start c = fail .escape start .unknownEscape c := by
  have done : c.skip.head? = none := by simp [Cursor.head?, Cursor.skip, cons]
  rw [escape, done]

theorem Ends.bind {α β : Type} {R : α → β → Prop} {x : Except Malformed α} {y : Except Malformed β}
    {f : α → Except Malformed Stretch} {g : β → Except Malformed Stretch} (agree : Agree R x y)
    (next : ∀ a b, R a b → Ends w quote c (f a) (g b)) : Ends w quote c (x >>= f) (y >>= g) := by
  match x, y with
  | .ok a, .ok b => exact next a b agree
  | .error _, .error _ => trivial

/-- Behind the text a backslash escapes the padding, at most. -/
theorem ends_of_backslash {e : Malformed} {rest : List Char} {f : Char × Cursor → Except Malformed Stretch}
    (spent : Spent d.skip.rest) (cons : d.rest = '\\' :: rest) :
    Ends w quote c (.error e >>= f)
      (if rest.head?.any isBreak then .ok ⟨text, true, d.skip.skipBreak⟩
        else do
          let (y, next) ← escape start d
          stretch quote start m (y :: text) next) := by
  have skipped : d.skip.rest = rest := by simp [Cursor.skip, cons]
  split_ifs with breaks
  · exact (Passes.skipBreak _).spent spent
  · cases rest with
    | nil =>
      rw [escape_of_end cons]
      trivial
    | cons y rest =>
      have pad : y ∈ pads := spent.mem_pads (skipped ▸ List.mem_cons_self)
      obtain rfl : y = ' ' := (by decide : ∀ y ∈ pads, isBreak y = true ∨ y = ' ') y pad |>.resolve_left breaks
      have head : d.skip.head? = some ' ' := by rw [Cursor.head?, skipped]; rfl
      have escaped : escape start d = .ok (' ', d.skip.skip) := by rw [escape, head]; rfl
      have left : Spent d.skip.skip.rest := (Passes.skip _).spent spent
      rw [escaped]
      simp only [bind, Except.bind, stretch_of_spent left]
      exact left

/-- What a backslash in the text escapes is the same, if there is anything behind it. -/
theorem backslash_agree {rest : List Char} (cons : c.rest = '\\' :: rest)
    (next : ∀ text d, Passes c.skip d →
      Ends w quote c (stretch quote start n text d) (stretch quote start' m text (w.cursor d))) :
    Ends w quote c
      (if rest.head?.any isBreak then .ok ⟨text, true, c.skip.skipBreak⟩
        else do
          let (y, next) ← escape start c
          stretch quote start n (y :: text) next)
      (if (rest ++ w.after).head?.any isBreak then .ok ⟨text, true, (w.cursor c).skip.skipBreak⟩
        else do
          let (y, next) ← escape start' (w.cursor c)
          stretch quote start' m (y :: text) next) := by
  have done : c.rest ≠ [] := cons ▸ List.cons_ne_nil _ _
  by_cases ended : rest = []
  · subst ended
    have skipped : c.skip.rest = [] := by simp [Cursor.skip, cons]
    have cons' : (w.cursor c).rest = '\\' :: ([] ++ w.after) := by rw [Margin.cursor_rest, cons, List.cons_append]
    rw [escape_of_end cons]
    exact ends_of_backslash (by rw [w.skip_cursor done]; exact w.spent_cursor skipped) cons'
  · have head : (rest ++ w.after).head? = rest.head? := by
      obtain ⟨y, rest, rfl⟩ := List.exists_cons_of_ne_nil ended
      rfl
    refine .ite (by rw [head]) (fun _ => ?_) fun _ => ?_
    · have follows : w.Follows c.skip (w.cursor c.skip) := .inl rfl
      rw [w.skip_cursor done]
      exact ⟨rfl, rfl, follows.skipBreak, .inl (.skipBreak _)⟩
    · refine Ends.bind (escape_agree cons ended) ?_
      rintro ⟨y, after⟩ _ ⟨rfl, passes⟩
      exact next _ after passes

theorem stretch_agree (enough : c.rest.length < n) (enough' : (w.cursor c).rest.length < m) (isQuote : quote = '\'' ∨ quote = '"') :
    Ends w quote c (stretch quote start n text c) (stretch quote start' m text (w.cursor c)) := by
  induction n generalizing m text c with
  | zero => exact absurd enough (Nat.not_lt_zero _)
  | succ n ih =>
    obtain _ | m := m
    · exact absurd enough' (Nat.not_lt_zero _)
    have visible : quote ∉ pads := by rcases isQuote with rfl | rfl <;> decide
    by_cases done : c.rest = []
    · rw [stretch_of_spent (c := w.cursor c) (w.spent_cursor done), stretch_of_spent (c := c) (Spent.of_nil done)]
      exact ⟨rfl, rfl, .inl rfl, .inr ⟨rfl, by simp [Stops, Cursor.head?, done]⟩⟩
    obtain ⟨x, rest, cons⟩ := List.exists_cons_of_ne_nil done
    have cons' : (w.cursor c).rest = x :: (rest ++ w.after) := by rw [Margin.cursor_rest, cons, List.cons_append]
    have skipped : c.skip.rest = rest := by simp [Cursor.skip, cons]
    have next {d : Cursor} (passes : Passes c.skip d) {text : List Char} :
        Ends w quote c (stretch quote start n text d) (stretch quote start' m text (w.cursor d)) := by
      have shorter := passes.length_le
      rw [skipped] at shorter
      rw [cons, List.length_cons] at enough
      rw [cons', List.length_cons, List.length_append] at enough'
      exact (ih (by omega) (by rw [Margin.cursor_rest, List.length_append]; omega)).after passes
    rw [stretch, stretch, cons, cons']
    refine .ite Iff.rfl (fun blank => ?_) fun _ => .ite ?_ (fun twice => ?_) fun _ => .ite Iff.rfl (fun closes => ?_) fun _ =>
      .ite Iff.rfl (fun backslash => ?_) fun _ => ?_
    · refine ⟨rfl, rfl, .inl rfl, .inr ⟨rfl, fun y head => .inl ?_⟩⟩
      obtain rfl : x = y := by simpa [Cursor.head?, cons] using head
      exact blank
    · simp only [Bool.and_eq_true, decide_eq_true_eq, w.head?_append_eq_iff visible]
    · have more : c.skip.rest ≠ [] := by
        rintro none_
        rw [skipped] at none_
        simp [none_] at twice
      rw [w.skip_cursor done, w.skip_cursor more]
      exact next (.skip _)
    · exact ⟨rfl, rfl, .inl rfl, .inr ⟨rfl, by simp [Stops, Cursor.head?, cons, closes]⟩⟩
    · obtain ⟨rfl, rfl⟩ : quote = '"' ∧ x = '\\' := by simpa using backslash
      exact backslash_agree cons fun text d passes => next passes
    · rw [w.skip_cursor done]
      exact next (.refl _)

/-- Read on behind a stretch. -/
def readBehind (quote : Char) (start : Mark) (n : Nat) (s : Stretch) : Except Malformed (List Char × Cursor) :=
  if s.next.head? = some quote then return (s.text.reverse, s.next.skip)
  else do
    let r ← Gap.read start 0 s.next.rest.length { broken := s.broken } s.next
    readText quote start n (r.1.text.reverse ++ s.text) r.2

theorem readText_succ :
    readText quote start (n + 1) text c =
      if c.isDocumentLine then fail .quotedScalar start .documentLine c
      else if c.rest.isEmpty then fail .quotedScalar start .endOfText c
      else stretch quote start (c.rest.length + 1) text c >>= readBehind quote start n :=
  rfl

theorem readBehind_error (s : Stretch) (visible : quote ∉ pads) (spent : Spent s.next.rest)
    (fails : ∀ text d, d.rest = [] → ∃ cause, readText quote start n text d = .error cause) :
    ∃ cause, readBehind quote start n s = .error cause := by
  obtain ⟨g, d, same, ended⟩ := Gap.exists_read_of_spent start 0 { broken := s.broken } spent (Nat.le_refl _)
  have open_ : s.next.head? ≠ some quote := head?_ne_of_spent visible spent
  obtain ⟨cause, fails⟩ := fails (g.text.reverse ++ s.text) d ended
  refine ⟨cause, ?_⟩
  rw [readBehind, if_neg open_, same]
  exact fails

/-- Nothing but padding is left, and the scalar is not closed. -/
theorem exists_readText_error (start : Mark) (n : Nat) (text : List Char) (visible : quote ∉ pads) (spent : Spent c.rest) :
    ∃ cause, readText quote start n text c = .error cause := by
  induction n generalizing text c with
  | zero => exact ⟨_, rfl⟩
  | succ n ih =>
    rw [readText_succ, isDocumentLine_of_spent spent, if_neg Bool.false_ne_true, stretch_of_spent spent]
    split_ifs with done
    · exact ⟨_, rfl⟩
    · exact readBehind_error ⟨text, false, c⟩ visible spent fun text d done => ih text (.of_nil done)

theorem exists_readBehind_error (start : Mark) (n : Nat) (s : Stretch) (visible : quote ∉ pads) (spent : Spent s.next.rest) :
    ∃ cause, readBehind quote start n s = .error cause :=
  readBehind_error s visible spent fun text _ done => exists_readText_error start n text visible (.of_nil done)

/-- What is read behind a stretch is the same, if what is read further on is the same. -/
theorem readBehind_agree {s s' : Stretch} (more : c.rest ≠ []) (visible : quote ∉ pads) (ends : Ends w quote c (.ok s) (.ok s'))
    (next : ∀ text d, Passes c d → d.rest.length < c.rest.length →
      Agree (w.Same d) (readText quote start n text d) (readText quote start' m text (w.cursor d))) :
    Agree (w.Same c) (readBehind quote start n s) (readBehind quote start' m s') := by
  obtain ⟨sameText, sameBroken, follows, moved⟩ := ends
  refine .ite (follows.head?_eq_iff visible) (fun closes => ?_) fun opens => ?_
  · rw [follows.eq_cursor (Margin.rest_ne_nil_of_head? closes), w.skip_cursor (Margin.rest_ne_nil_of_head? closes), sameText]
    refine ⟨rfl, ?_⟩
    obtain passes | ⟨same, -⟩ := moved
    · exact ((Passes.skip c).trans passes).trans (.skip _)
    · exact same ▸ .skip s.next
  · rw [sameText, sameBroken]
    refine (Gap.read_agree _ follows (Nat.le_refl _) (Nat.le_refl _)).bind ?_
    rintro ⟨gap, after⟩ ⟨gap', after'⟩ ⟨passes, shorter, ⟨_, same⟩ | ⟨ended, ended'⟩⟩
    · cases same
      -- either the stretch has moved on, or it is empty and a blank begins the gap
      have reached : Passes c after ∧ after.rest.length < c.rest.length := by
        obtain moved | ⟨same, stops⟩ := moved
        · exact ⟨((Passes.skip c).trans moved).trans passes,
            Nat.lt_of_le_of_lt (moved.trans passes).length_le (length_skip more)⟩
        · rw [same] at passes shorter opens
          obtain ⟨x, rest, cons⟩ := List.exists_cons_of_ne_nil more
          have head : c.head? = some x := by rw [Cursor.head?, cons]; rfl
          exact ⟨passes, shorter x head ((stops x head).resolve_right fun quoted => opens (quoted ▸ head))⟩
      exact (next _ after reached.1 reached.2).mono fun _ _ => Margin.same_after reached.1
    · obtain ⟨cause, fails⟩ := exists_readText_error start n (gap.text.reverse ++ s.text) visible (Spent.of_nil ended)
      obtain ⟨cause', fails'⟩ := exists_readText_error start' m (gap'.text.reverse ++ s.text) visible (Spent.of_nil ended')
      simp only [fails, fails']
      trivial

theorem readText_agree (enough : c.rest.length < n) (enough' : (w.cursor c).rest.length < m) (isQuote : quote = '\'' ∨ quote = '"') :
    Agree (w.Same c) (readText quote start n text c) (readText quote start' m text (w.cursor c)) := by
  have visible : quote ∉ pads := by rcases isQuote with rfl | rfl <;> decide
  induction n generalizing m text c with
  | zero => exact absurd enough (Nat.not_lt_zero _)
  | succ n ih =>
    obtain _ | m := m
    · exact absurd enough' (Nat.not_lt_zero _)
    by_cases done : c.rest = []
    · obtain ⟨cause, fails⟩ := exists_readText_error start (n + 1) text visible (Spent.of_nil done)
      obtain ⟨cause', fails'⟩ := exists_readText_error start' (m + 1) text visible (w.spent_cursor done)
      rw [fails, fails']
      trivial
    rw [readText_succ, readText_succ]
    refine .ite (by rw [w.isDocumentLine_cursor]) (fun _ => trivial) fun _ => .ite (by simp [done]) (fun _ => trivial) fun _ => ?_
    have ends : Ends w quote c (stretch quote start (c.rest.length + 1) text c)
        (stretch quote start' ((w.cursor c).rest.length + 1) text (w.cursor c)) :=
      stretch_agree (Nat.lt_succ_self _) (Nat.lt_succ_self _) isQuote
    match stretch quote start (c.rest.length + 1) text c,
        stretch quote start' ((w.cursor c).rest.length + 1) text (w.cursor c), ends with
    | .error _, .error _, _ => trivial
    | .error _, .ok s', spent =>
      -- the escape that the text breaks off in is one with the padding, but then no quote follows
      obtain ⟨cause, fails⟩ := exists_readBehind_error start' m s' visible spent
      rw [show (Except.ok s' >>= readBehind quote start' m) = .error cause from fails]
      trivial
    | .ok s, .ok s', ends =>
      refine readBehind_agree done visible ends fun text d passes shorter => ih (by omega) ?_
      rw [Margin.cursor_rest, List.length_append] at enough' ⊢
      omega

/-- A scalar in quotes is closed in the text, or not at all. -/
theorem quoted_agree (isQuote : quote = '\'' ∨ quote = '"') (more : c.rest ≠ []) :
    Agree (w.Same c.skip) (Quoted.read quote c) (Quoted.read quote (w.cursor c)) := by
  rw [Quoted.read, Quoted.read, w.skip_cursor more]
  have shorter := length_skip more
  refine readText_agree (by omega) ?_ isQuote
  rw [Margin.cursor_rest, Margin.cursor_rest, List.length_append, List.length_append]
  omega

end Quoted

end Frontmark.Yaml
