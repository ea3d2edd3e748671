import Frontmark.Proofs.Yaml.Tag
import Frontmark.Yaml.Verbatim

/-! Block scalars read the same wherever they stand, if they end before the text does.

At the end of a text a block scalar takes what follows: the blanks of its last line, and line breaks. If it is stripped
and only line breaks follow, it gives them up again. -/

set_option autoImplicit false

namespace Frontmark.Yaml

open Frontmark.Text

variable {w : Margin} {start start' : Mark} {c d : Cursor}

/-- What is read from `c` on is the same within a margin, unless the reading comes to the end of the text. It fails only
before that. Among line breaks it goes on to what is `alike`. -/
structure Inside {α : Type} (w : Margin) (place : α → Cursor) (moved : α → α) (alike : α → α → Prop) (c : Cursor)
    (x y : Except Malformed α) : Prop where
  passes : ∀ r, x = .ok r → Passes c (place r)
  same : ∀ r, x = .ok r → (place r).rest ≠ [] → y = .ok (moved r)
  fails : ∀ e, x = .error e → ∃ e', y = .error e'
  ends : Bare w.after → ∀ r, x = .ok r → (place r).rest = [] → ∃ s, y = .ok s ∧ alike r s ∧ Bare (place s).rest

namespace Inside

variable {α β : Type} {place : α → Cursor} {moved : α → α} {alike : α → α → Prop} {place' : β → Cursor} {moved' : β → β}
  {alike' : β → β → Prop} {x y x' y' : Except Malformed α} {f g : α → Except Malformed β}

theorem ok {r : α} (passes : Passes c (place r)) (same : (place r).rest ≠ [] → y = .ok (moved r))
    (ends : Bare w.after → (place r).rest = [] → ∃ s, y = .ok s ∧ alike r s ∧ Bare (place s).rest) :
    Inside w place moved alike c (.ok r) y := by
  refine ⟨?_, ?_, nofun, ?_⟩
  · rintro _ ⟨⟩
    exact passes
  · rintro _ ⟨⟩
    exact same
  · rintro bare _ ⟨⟩
    exact ends bare

theorem ok_of_more {r : α} (passes : Passes c (place r)) (more : (place r).rest ≠ []) (same : y = .ok (moved r)) :
    Inside w place moved alike c (.ok r) y :=
  .ok passes (fun _ => same) fun _ done => absurd done more

theorem ok_of_end {r : α} (passes : Passes c (place r)) (done : (place r).rest = [])
    (ends : Bare w.after → ∃ s, y = .ok s ∧ alike r s ∧ Bare (place s).rest) : Inside w place moved alike c (.ok r) y :=
  .ok passes (fun more => absurd done more) fun bare _ => ends bare

theorem error {e e' : Malformed} : Inside w place moved alike c (.error e) (.error e') :=
  ⟨nofun, nofun, fun _ _ => ⟨e', rfl⟩, nofun⟩

theorem after (passes : Passes c d) (inside : Inside w place moved alike d x y) : Inside w place moved alike c x y :=
  ⟨fun r ok => passes.trans (inside.passes r ok), inside.same, inside.fails, inside.ends⟩

theorem ite {p q : Prop} [Decidable p] [Decidable q] (same : q ↔ p) (yes : p → Inside w place moved alike c x y)
    (no : ¬ p → Inside w place moved alike c x' y') :
    Inside w place moved alike c (if p then x else x') (if q then y else y') := by
  by_cases holds : p
  · rw [if_pos holds, if_pos (same.mpr holds)]
    exact yes holds
  · rw [if_neg holds, if_neg fun q => holds (same.mp q)]
    exact no holds

theorem bind (inside : Inside w place moved alike c x y)
    (ended : ∀ r, x = .ok r → (place r).rest = [] → ∃ s, f r = .ok s ∧ Passes (place r) (place' s) ∧
      ∀ r', alike r r' → Bare (place r').rest → ∃ s', g r' = .ok s' ∧ alike' s s' ∧ Bare (place' s').rest)
    (next : ∀ r, x = .ok r → Passes c (place r) → (place r).rest ≠ [] →
      Inside w place' moved' alike' (place r) (f r) (g (moved r))) :
    Inside w place' moved' alike' c (x >>= f) (y >>= g) := by
  cases x with
  | error e =>
    obtain ⟨e', fails⟩ := inside.fails e rfl
    rw [fails]
    exact error
  | ok r =>
    have passes := inside.passes r rfl
    by_cases done : (place r).rest = []
    · obtain ⟨s, ok, passes', ends⟩ := ended r rfl done
      rw [show (Except.ok r >>= f) = .ok s from ok]
      refine .ok_of_end (passes.trans passes') (List.suffix_nil.mp (done ▸ passes'.suffix)) fun bare => ?_
      obtain ⟨r', ok', alike, bare'⟩ := inside.ends bare r rfl done
      rw [ok']
      exact ends r' alike bare'
    · rw [inside.same r rfl done]
      exact (next r rfl passes done).after passes

theorem bind_agree {γ : Type} {x y : Except Malformed (γ × Cursor)} {f g : γ × Cursor → Except Malformed β}
    (agree : Agree (w.Same c) x y)
    (next : ∀ a d, Passes c d → Inside w place' moved' alike' d (f (a, d)) (g (a, w.cursor d))) :
    Inside w place' moved' alike' c (x >>= f) (y >>= g) := by
  match x, y with
  | .ok (a, d), .ok s =>
    obtain ⟨rfl, passes⟩ := agree
    exact (next a d passes).after passes
  | .error _, .error _ => exact error

end Inside

namespace Verbatim

theorem readChomping_same (c : Cursor) : w.Same c (readChomping c) (readChomping (w.cursor c)) := by
  have head : (w.cursor c).head?.bind chomping? = c.head?.bind chomping? := by
    by_cases done : c.rest = []
    · rw [show c.head? = none by rw [Cursor.head?, done]; rfl]
      cases first : (w.cursor c).head? with
      | none => rfl
      | some x =>
        have pad : x ∈ pads := (w.spent_cursor done).mem_pads (List.mem_of_head? first)
        exact (by decide : ∀ x ∈ pads, chomping? x = none) x pad
    · rw [w.head?_cursor done]
  rw [readChomping, readChomping, head]
  cases found : c.head?.bind chomping? with
  | none => exact ⟨rfl, .refl c⟩
  | some k =>
    have more : c.rest ≠ [] := fun done => by simp [Cursor.head?, done] at found
    exact ⟨by rw [w.skip_cursor more], .skip c⟩

theorem readIndent_agree (c : Cursor) : Agree (w.Same c) (readIndent start c) (readIndent start' (w.cursor c)) := by
  by_cases done : c.rest = []
  · have none_ : readIndent start c = .ok (none, c) := by simp [readIndent, Cursor.head?, done]
    have none' : readIndent start' (w.cursor c) = .ok (none, w.cursor c) := by
      rw [readIndent]
      split
      · rfl
      next x head =>
        have pad : x ∈ pads := (w.spent_cursor done).mem_pads (List.mem_of_head? head)
        have other : x ≠ '0' := fun same => absurd (same ▸ pad) (by decide)
        rw [if_neg other, (by decide : Visible isDigit) x pad, if_neg Bool.false_ne_true]
    rw [none_, none']
    exact ⟨rfl, .refl c⟩
  · obtain ⟨x, rest, cons⟩ := List.exists_cons_of_ne_nil done
    rw [readIndent, readIndent, show (w.cursor c).head? = some x by simp [Cursor.head?, cons],
      show c.head? = some x by simp [Cursor.head?, cons]]
    refine .ite Iff.rfl (fun _ => trivial) fun _ => .ite Iff.rfl (fun _ => ?_) fun _ => ⟨rfl, .refl c⟩
    rw [w.skip_cursor done]
    exact ⟨rfl, .skip c⟩

theorem readHeader_inside (c : Cursor) :
    Inside w Prod.snd (fun r => (r.1, w.cursor r.2)) (fun r s => s.1 = r.1) c (readHeader start c)
      (readHeader start' (w.cursor c)) := by
  obtain ⟨same, passes⟩ := readChomping_same (w := w) c
  unfold readHeader
  rw [same]
  generalize readChomping c = read at passes ⊢
  obtain ⟨early, d⟩ := read
  refine .after passes (.bind_agree (readIndent_agree d) fun indent? e _ => ?_)
  have late : w.Same e (if early.isNone && indent?.isSome then readChomping e else (none, e))
      (if early.isNone && indent?.isSome then readChomping (w.cursor e) else (none, w.cursor e)) := by
    split_ifs
    · exact readChomping_same e
    · exact ⟨rfl, .refl e⟩
  obtain ⟨same, passes⟩ := late
  dsimp only
  rw [same]
  generalize (if early.isNone && indent?.isSome then readChomping e else (none, e)) = read at passes ⊢
  obtain ⟨late, last⟩ := read
  have follows : w.Follows last (w.cursor last) := .inl rfl
  have follows := (follows.skipWhile isSpaceOrTab).skipComment.skipBreak
  refine .ite (by rw [Margin.isBreakOrEnd_skipBlanks]) (fun _ => .ok ?_ (fun more => ?_) fun bare done => ?_) fun _ => .error
  · exact ((passes.trans (.skipWhile _ last)).trans (.skipComment _)).trans (.skipBreak _)
  · exact congrArg (fun c => Except.ok (_, c)) (follows.eq_cursor more)
  · exact ⟨_, rfl, rfl, fun x mem => bare x ((follows.suffix done).mem mem)⟩

variable {indent? : Option Nat} {n m : Nat}

/-- How many spaces are passed at the start of a line. -/
def indentation (indent? : Option Nat) (column : Nat) (text : List Char) : Nat :=
  let spaces := (text.takeWhile (· = ' ')).length
  match indent? with
  | none => spaces
  | some n => min spaces (n - column)

/-- The spaces behind the text do not count as long as there is something before them. -/
theorem indentation_append {column : Nat} {text : List Char} (more : indentation indent? column text < text.length) :
    indentation indent? column (text ++ w.after) = indentation indent? column text := by
  have length := (List.takeWhile_sublist (· = ' ') (l := text)).length_le
  by_cases stops : (text.takeWhile (· = ' ')).length = text.length
  · cases indent? with
    | none => exact absurd stops (Nat.ne_of_lt more)
    | some n =>
      have whole : (text ++ w.after).takeWhile (· = ' ') = text ++ w.after.takeWhile (· = ' ') := by
        rw [List.takeWhile_append, if_pos stops]
      simp only [indentation, whole, List.length_append] at more ⊢
      omega
  · have same : (text ++ w.after).takeWhile (· = ' ') = text.takeWhile (· = ' ') := by
      rw [List.takeWhile_append, if_neg stops]
    simp only [indentation, same]

theorem indentation_append_of_bare (bare : Bare w.after) (column : Nat) (text : List Char) :
    indentation indent? column (text ++ w.after) = indentation indent? column text := by
  have other : ∀ x ∈ w.after, decide (x = ' ') = false := fun x mem => decide_eq_false fun same =>
    absurd (same ▸ bare x mem) (by decide)
  simp only [indentation, w.takeWhile_append other]

theorem passBreaks_succ {text : List Char} {widest : Nat} :
    passBreaks start indent? (n + 1) text widest c =
      (let d := c.skipMany (indentation indent? c.column c.rest)
      if d.head? = some '\t' && indent?.all (d.column < ·) then fail .blockScalar start .tabInIndentation d
      else if d.head?.any isBreak then
        passBreaks start indent? n (text ++ d.takeBreak.1) (max widest d.column) d.takeBreak.2
      else .ok ⟨text, max widest d.column, d⟩) :=
  rfl

/-- Line breaks are passed to the last one, behind spaces that count as indentation. -/
theorem exists_passBreaks_of_indented (start : Mark) (text : List Char) (widest : Nat)
    (bare : Bare (c.skipMany (indentation indent? c.column c.rest)).rest) (enough : c.rest.length < n) :
    ∃ b, passBreaks start indent? n text widest c = .ok b ∧ Passes c b.next ∧ b.next.rest = [] := by
  induction n generalizing text widest c with
  | zero => exact absurd enough (Nat.not_lt_zero _)
  | succ n ih =>
    rw [passBreaks_succ]
    have passes : Passes c (c.skipMany (indentation indent? c.column c.rest)) := .skipMany _ c
    generalize c.skipMany (indentation indent? c.column c.rest) = d at bare passes
    dsimp only
    cases left : d.rest with
    | nil =>
      have none_ : d.head? = none := by rw [Cursor.head?, left]; rfl
      rw [if_neg (by simp [none_]), if_neg (by simp [none_])]
      exact ⟨_, rfl, passes, left⟩
    | cons x rest =>
      have first : d.head? = some x := by rw [Cursor.head?, left]; rfl
      have breaks : isBreak x = true := bare x (left ▸ List.mem_cons_self)
      have other : x ≠ '\t' := fun tab => absurd (tab ▸ breaks) (by decide)
      have shorter := length_skipBreak left breaks
      have length := passes.length_le
      rw [if_neg (by simp [first, other]), if_pos (by simp [first, breaks])]
      have left : Bare (d.skipBreak.skipMany (indentation indent? d.skipBreak.column d.skipBreak.rest)).rest :=
        fun y mem => bare y (((Passes.skipBreak d).trans (.skipMany _ _)).suffix.mem mem)
      obtain ⟨b, ok, passes', done⟩ := ih (text ++ d.takeBreak.1) (max widest d.column) left (by omega)
      exact ⟨b, ok, (passes.trans (.skipBreak d)).trans passes', done⟩

theorem exists_passBreaks_of_bare (start : Mark) (indent? : Option Nat) (text : List Char) (widest : Nat) (bare : Bare c.rest)
    (enough : c.rest.length < n) :
    ∃ b, passBreaks start indent? n text widest c = .ok b ∧ Passes c b.next ∧ b.next.rest = [] :=
  exists_passBreaks_of_indented start text widest (fun x mem => bare x ((Passes.skipMany _ c).suffix.mem mem)) enough

/-- Where the text ends behind indentation, no more than line breaks are passed. -/
theorem passBreaks_inside_of_end {text : List Char} {widest : Nat} {y : Except Malformed Breaks} (start' : Mark) (m : Nat)
    (passes : Passes c d) (done : (d.skipMany (indentation indent? d.column d.rest)).rest = []) (enough : d.rest.length < n)
    (ends : Bare w.after → ∃ e, y = passBreaks start' indent? m text widest e ∧
      Bare (e.skipMany (indentation indent? e.column e.rest)).rest ∧ e.rest.length < m) :
    Inside w Breaks.next (fun b => { b with next := w.cursor b.next }) (fun _ s => s.next.rest = []) c
      (passBreaks start indent? n text widest d) y := by
  obtain ⟨b, ok, passes', none_⟩ := exists_passBreaks_of_indented start text widest (Bare.of_nil done) enough
  rw [ok]
  refine .ok_of_end (passes.trans passes') none_ fun bare => ?_
  obtain ⟨e, rfl, left, enough'⟩ := ends bare
  obtain ⟨b', ok', -, none'⟩ := exists_passBreaks_of_indented start' text widest left enough'
  exact ⟨b', ok', none', .of_nil none'⟩

theorem passBreaks_inside {text : List Char} {widest : Nat} (enough : c.rest.length < n) (enough' : (w.cursor c).rest.length < m) :
    Inside w Breaks.next (fun b => { b with next := w.cursor b.next }) (fun _ s => s.next.rest = []) c
      (passBreaks start indent? n text widest c) (passBreaks start' indent? m text widest (w.cursor c)) := by
  induction n generalizing m text widest c with
  | zero => exact absurd enough (Nat.not_lt_zero _)
  | succ n ih =>
    obtain _ | m := m
    · exact absurd enough' (Nat.not_lt_zero _)
    by_cases done : (c.skipMany (indentation indent? c.column c.rest)).rest = []
    · refine passBreaks_inside_of_end start' (m + 1) (.refl c) done enough fun bare => ⟨_, rfl, ?_, enough'⟩
      rw [rest_skipMany] at done
      rw [rest_skipMany, Margin.cursor_column, Margin.cursor_rest, indentation_append_of_bare bare, List.drop_append, done,
        List.nil_append]
      exact fun x mem => bare x ((List.drop_suffix _ _).mem mem)
    · have more : indentation indent? c.column c.rest < c.rest.length := by
        rw [rest_skipMany, List.drop_eq_nil_iff] at done
        omega
      have passes : Passes c (c.skipMany (indentation indent? c.column c.rest)) := .skipMany _ c
      rw [passBreaks_succ, passBreaks_succ, Margin.cursor_rest, Margin.cursor_column, indentation_append more,
        w.skipMany_cursor (Nat.le_of_lt more)]
      generalize c.skipMany (indentation indent? c.column c.rest) = d at passes done
      dsimp only
      refine .ite (by rw [w.head?_cursor done, Margin.cursor_column]) (fun _ => .error) fun _ =>
        .ite (by rw [w.head?_cursor done]) (fun ends => ?_) fun _ => .ok_of_more passes done rfl
      obtain ⟨x, rest, cons⟩ := List.exists_cons_of_ne_nil done
      have ends : isBreak x = true := by simpa [Cursor.head?, cons] using ends
      obtain ⟨e, same, follows⟩ := w.exists_takeBreak_cursor done
      have length := passes.length_le
      have shorter := length_skipBreak cons ends
      have shorter' : e.rest.length < (w.cursor d).rest.length := by
        have shorter' := length_skipBreak (c := w.cursor d) (by rw [Margin.cursor_rest, cons, List.cons_append]) ends
        rwa [Cursor.skipBreak, same] at shorter'
      rw [Margin.cursor_rest, List.length_append] at enough' shorter'
      rw [same]
      by_cases ended : d.skipBreak.rest = []
      · refine passBreaks_inside_of_end start' m (passes.trans (.skipBreak d)) ?_ (Nat.lt_of_lt_of_le shorter (by omega)) fun bare =>
          ⟨e, rfl, fun x mem => ?_, by omega⟩
        · exact List.suffix_nil.mp (ended ▸ (Passes.skipMany _ d.skipBreak).suffix)
        · exact bare x ((follows.suffix ended).mem ((Passes.skipMany _ e).suffix.mem mem))
      · obtain rfl := follows.eq_cursor ended
        refine .after (passes.trans (.skipBreak d)) (ih (by omega) ?_)
        rw [Margin.cursor_rest, List.length_append]
        rw [Margin.cursor_rest, List.length_append] at shorter'
        omega

theorem readLines_of_end {folded : Bool} {indent : Nat} {text ending breaks : List Char} {indented : Bool} (done : c.rest = []) :
    readLines folded start indent n text ending breaks indented c = .ok (text, ending, breaks, c) := by
  cases n with
  | zero => rfl
  | succ n => simp [readLines, done]

/-- What is read behind the line break of a line. -/
def readOn (folded : Bool) (start : Mark) (indent n : Nat) (text ending : List Char) (indented : Bool) (c : Cursor) :
    Except Malformed (List Char × List Char × List Char × Cursor) := do
  let b ← passBreaks start (some indent) (c.rest.length + 1) [] 0 c
  readLines folded start indent n text ending b.text indented b.next

variable {folded indented : Bool} {indent : Nat} {text ending breaks : List Char}

theorem exists_readOn_of_bare (folded : Bool) (start : Mark) (indent n : Nat) (text ending : List Char) (indented : Bool)
    (bare : Bare c.rest) :
    ∃ r, readOn folded start indent n text ending indented c = .ok r ∧ r.1 = text ∧ Passes c r.2.2.2 ∧ r.2.2.2.rest = [] := by
  obtain ⟨b, ok, passes, done⟩ := exists_passBreaks_of_bare start (some indent) [] 0 bare (Nat.lt_succ_self _)
  refine ⟨(text, ending, b.text, b.next), ?_, rfl, passes, done⟩
  rw [readOn, ok]
  exact readLines_of_end done

/-- Reading that has come to the end of the text stays there, and takes no more than line breaks. -/
theorem readOn_inside_of_end (start' : Mark) (m : Nat) {y : Except Malformed (List Char × List Char × List Char × Cursor)} (passes : Passes c d)
    (done : d.rest = [])
    (ends : Bare w.after → ∃ ending' e, y = readOn folded start' indent m text ending' indented e ∧ Bare e.rest) :
    Inside w (fun r => r.2.2.2) (fun r => (r.1, r.2.1, r.2.2.1, w.cursor r.2.2.2)) (fun r s => s.1 = r.1) c
      (readOn folded start indent n text ending indented d) y := by
  obtain ⟨r, ok, text_, passes', none_⟩ := exists_readOn_of_bare (c := d) folded start indent n text ending indented
    (Bare.of_nil done)
  rw [ok]
  refine .ok_of_end (passes.trans passes') none_ fun bare => ?_
  obtain ⟨ending', e, rfl, bare'⟩ := ends bare
  obtain ⟨s, ok', text', -, none'⟩ := exists_readOn_of_bare folded start' indent m text ending' indented bare'
  exact ⟨s, ok', text'.trans text_.symm, .of_nil none'⟩

/-- A line is followed by a line break, if by anything. -/
theorem isBreak_of_line {x : Char} (c : Cursor) (head : (c.takeWhile (!isBreak ·)).2.head? = some x) : isBreak x = true := by
  have stops := List.head?_dropWhile_not (!isBreak ·) c.rest
  rw [show (c.rest.dropWhile (!isBreak ·)).head? = some x from head] at stops
  simpa using stops

theorem readLines_inside (more : c.rest ≠ []) (enough : c.rest.length < n) (enough' : (w.cursor c).rest.length < m) :
    Inside w (fun r => r.2.2.2) (fun r => (r.1, r.2.1, r.2.2.1, w.cursor r.2.2.2)) (fun r s => s.1 = r.1) c
      (readLines folded start indent n text ending breaks indented c)
      (readLines folded start' indent m text ending breaks indented (w.cursor c)) := by
  induction n generalizing m text ending breaks indented c with
  | zero => exact absurd enough (Nat.not_lt_zero _)
  | succ n ih =>
    obtain _ | m := m
    · exact absurd enough' (Nat.not_lt_zero _)
    rw [readLines, readLines]
    have same : (w.cursor c).rest.isEmpty = c.rest.isEmpty := by
      obtain ⟨x, rest, cons⟩ := List.exists_cons_of_ne_nil more
      simp [cons]
    refine .ite (by rw [same, Margin.cursor_column]) (fun _ => ?_) fun _ => .ok_of_more (.refl c) more rfl
    rw [show startsBlank (w.cursor c) = startsBlank c by rw [startsBlank, w.head?_cursor more]; rfl]
    have line : Passes c (c.takeWhile (!isBreak ·)).2 := .skipWhile _ c
    by_cases ended : (c.takeWhile (!isBreak ·)).2.rest = []
    · have stays : (c.takeWhile (!isBreak ·)).2.takeBreak = ([], (c.takeWhile (!isBreak ·)).2) := by
        rw [Cursor.takeBreak, ended]
      dsimp only
      rw [stays]
      refine readOn_inside_of_end start' m line ended fun bare => ?_
      obtain ⟨same, -⟩ := w.same_takeWhile_of_unseen (p := (!isBreak ·)) (fun x mem => by simp [bare x mem]) c
      rw [same]
      refine ⟨_, _, rfl, fun x mem => bare x ?_⟩
      have suffix := (Passes.skipBreak (w.cursor (c.takeWhile (!isBreak ·)).2)).suffix
      rw [Margin.cursor_rest, ended] at suffix
      exact suffix.mem mem
    · obtain ⟨same, -⟩ := w.same_takeWhile_of_more ended
      rw [same]
      have breaks_ (x : Char) (head : (c.takeWhile (!isBreak ·)).2.head? = some x) := isBreak_of_line c head
      generalize c.takeWhile (!isBreak ·) = read at line ended breaks_
      obtain ⟨letters, d⟩ := read
      dsimp only at line ended breaks_ ⊢
      obtain ⟨e, same, follows⟩ := w.exists_takeBreak_cursor ended
      obtain ⟨x, rest, cons⟩ := List.exists_cons_of_ne_nil ended
      have shorter := length_skipBreak cons (breaks_ x (by rw [Cursor.head?, cons]; rfl))
      have length := line.length_le
      have passes := line.trans (.skipBreak d)
      rw [same, show d.takeBreak.2 = d.skipBreak from rfl]
      by_cases ended : d.skipBreak.rest = []
      · exact readOn_inside_of_end start' m passes ended fun bare =>
          ⟨_, e, rfl, fun x mem => bare x ((follows.suffix ended).mem mem)⟩
      · obtain rfl := follows.eq_cursor ended
        refine .after passes (.bind (passBreaks_inside (Nat.lt_succ_self _) (Nat.lt_succ_self _)) (fun b _ done => ?_)
          fun b _ passes more => ?_)
        · refine ⟨_, readLines_of_end done, .refl _, fun b' done' _ => ?_⟩
          exact ⟨_, readLines_of_end done', rfl, .of_nil done'⟩
        · have length := passes.length_le
          refine ih more (by omega) ?_
          rw [Margin.cursor_rest, List.length_append] at enough' ⊢
          omega

/-- How the scalar at a bar or bracket is chomped. -/
def chompingAt (c : Cursor) : Chomping :=
  match readHeader c.mark c.skip with
  | .ok (header, _) => header.chomping
  | .error _ => .clip

/-- A text with what its chomping leaves of the line breaks behind it. -/
def chomped (header : Header) (r : List Char × List Char × List Char × Cursor) : List Char × Cursor :=
  let tail :=
    match header.chomping with
    | .strip => []
    | .clip => r.2.1
    | .keep => r.2.1 ++ r.2.2.1
  (r.1.reverse ++ tail, r.2.2.2)

theorem chomped_of_strip {header : Header} (strip : header.chomping = .strip) (r : List Char × List Char × List Char × Cursor) :
    chomped header r = (r.1.reverse, r.2.2.2) := by
  simp [chomped, strip]

/-- What is read below the line of the bar or bracket. -/
def readBelow (folded : Bool) (parent : Option Nat) (start : Mark) (header : Header) (c : Cursor) :
    Except Malformed (List Char × Cursor) := do
  let given := header.indent?.map (parent.getD 0 + ·)
  let b ← passBreaks start given (c.rest.length + 1) [] 0 c
  let least := max 1 (parent.elim 0 (· + 1))
  let r ← readLines folded start (given.getD (max b.widest least)) (c.rest.length + 1) [] [] b.text false b.next
  return chomped header r

theorem read_eq {parent : Option Nat} :
    Verbatim.read folded parent c = readHeader c.mark c.skip >>= fun r => readBelow folded parent c.mark r.1 r.2 :=
  rfl

variable {parent : Option Nat} {header : Header}

theorem exists_readBelow_of_bare (folded : Bool) (parent : Option Nat) (start : Mark) (header : Header) (bare : Bare c.rest) :
    ∃ s, readBelow folded parent start header c = .ok s ∧ Passes c s.2 ∧ s.2.rest = [] ∧
      (header.chomping = .strip → s.1 = []) := by
  obtain ⟨b, ok, passes, done⟩ := exists_passBreaks_of_bare start (header.indent?.map (parent.getD 0 + ·)) [] 0 bare
    (Nat.lt_succ_self _)
  refine ⟨chomped header ([], [], b.text, b.next), ?_, passes, done, fun strip => by rw [chomped_of_strip strip]; rfl⟩
  simp only [readBelow, bind, Except.bind, ok, readLines_of_end done]
  rfl

theorem readBelow_inside (c : Cursor) :
    Inside w Prod.snd (fun r => (r.1, w.cursor r.2)) (fun r s => header.chomping = .strip → s.1 = r.1) c
      (readBelow folded parent start header c) (readBelow folded parent start' header (w.cursor c)) := by
  refine .bind (passBreaks_inside (Nat.lt_succ_self _) (Nat.lt_succ_self _)) (fun b _ done => ?_) fun b _ passes more => ?_
  · simp only [bind, Except.bind, readLines_of_end done]
    refine ⟨_, rfl, .refl _, fun b' done' bare => ?_⟩
    simp only [readLines_of_end done']
    exact ⟨_, rfl, fun strip => by simp only [chomped_of_strip strip], bare⟩
  · have length := passes.length_le
    refine .bind (readLines_inside more (Nat.lt_succ_of_le length) ?_) (fun r _ _ => ?_) fun r _ _ more => .ok_of_more (.refl _) more rfl
    · rw [Margin.cursor_rest, Margin.cursor_rest, List.length_append, List.length_append]
      omega
    · refine ⟨_, rfl, .refl _, fun r' same bare => ⟨_, rfl, fun strip => ?_, bare⟩⟩
      rw [chomped_of_strip strip, chomped_of_strip strip, same]

/-- A block scalar that ends before the text does is the same wherever it stands. One that ends with the text has the same
text if it is stripped and nothing but line breaks follow. -/
theorem verbatim_inside (folded : Bool) (parent : Option Nat) (more : c.rest ≠ []) :
    Inside w Prod.snd (fun r => (r.1, w.cursor r.2)) (fun r s => chompingAt c = .strip → s.1 = r.1) c.skip
      (Verbatim.read folded parent c) (Verbatim.read folded parent (w.cursor c)) := by
  rw [read_eq, read_eq, w.skip_cursor more]
  have chomping (r : Header × Cursor) (read : readHeader c.mark c.skip = .ok r) : chompingAt c = r.1.chomping := by
    rw [chompingAt, read]
  refine .bind (readHeader_inside c.skip) (fun r read done => ?_) fun r read _ _ => ?_
  · obtain ⟨s, ok, passes, none_, strip⟩ := exists_readBelow_of_bare (c := r.2) folded parent c.mark r.1
      (Bare.of_nil done)
    refine ⟨s, ok, passes, fun r' alike bare => ?_⟩
    obtain ⟨s', ok', -, none', strip'⟩ := exists_readBelow_of_bare folded parent (w.cursor c).mark r.1 bare
    rw [alike]
    refine ⟨s', ok', fun stripped => ?_, .of_nil none'⟩
    rw [chomping r read] at stripped
    rw [strip stripped, strip' stripped]
  · rw [chomping r read]
    exact readBelow_inside r.2

end Verbatim

end Frontmark.Yaml
