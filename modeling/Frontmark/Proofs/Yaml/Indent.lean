import Frontmark.Proofs.Yaml.Verbatim
import Frontmark.Yaml.Plain
import Frontmark.Yaml.Quoted

/-! A text whose first line stands further in.

On the first line a reader asks only how far apart columns are, and whether something stands in the very first one. On the
lines below nothing has changed. So what is read moves with the first line. -/

set_option autoImplicit false

namespace Frontmark.Yaml

open Frontmark.Text

variable {n : Nat} {m : Mark} {c d e : Cursor}

/-- The same place, if the first line begins `n` columns further in. -/
def Mark.indent (n : Nat) (m : Mark) : Mark :=
  if m.line = 0 then { m with column := n + m.column } else m

namespace Mark

theorem indent_of_later (later : m.line ≠ 0) : m.indent n = m :=
  if_neg later

theorem column_indent (first : m.line = 0) : (m.indent n).column = n + m.column := by
  rw [indent, if_pos first]

@[simp] theorem indent_zero : m.indent 0 = m := by
  simp [indent]

@[simp] theorem indent_line : (m.indent n).line = m.line := by
  rw [indent]
  split_ifs <;> rfl

@[simp] theorem indent_offset : (m.indent n).offset = m.offset := by
  rw [indent]
  split_ifs <;> rfl

end Mark

def Token.indent (n : Nat) (t : Token) : Token :=
  { t with mark := t.mark.indent n }

def Cursor.indent (n : Nat) (c : Cursor) : Cursor :=
  ⟨c.mark.indent n, c.rest⟩

namespace Cursor

@[simp] theorem indent_mark : (c.indent n).mark = c.mark.indent n := rfl

@[simp] theorem indent_rest : (c.indent n).rest = c.rest := rfl

@[simp] theorem indent_head? : (c.indent n).head? = c.head? := rfl

theorem indent_zero : c.indent 0 = c := by
  simp [indent]

theorem indent_of_later (later : c.mark.line ≠ 0) : c.indent n = c := by
  rw [indent, Mark.indent_of_later later]

theorem indent_skip : (c.indent n).skip = c.skip.indent n := by
  obtain ⟨mark, rest⟩ := c
  cases rest with
  | nil => rfl
  | cons x rest => by_cases first : mark.line = 0 <;> simp [skip, indent, Mark.indent, first, Nat.add_assoc]

theorem indent_skipMany (k : Nat) : (c.indent n).skipMany k = (c.skipMany k).indent n := by
  induction k generalizing c with
  | zero => rfl
  | succ k ih => rw [skipMany, skipMany, indent_skip, ih]

theorem indent_skipWhile (p : Char → Bool) : (c.indent n).skipWhile p = (c.skipWhile p).indent n := by
  by_cases first : c.mark.line = 0 <;> simp [skipWhile, indent, Mark.indent, first, Nat.add_assoc]

theorem indent_takeWhile (p : Char → Bool) :
    (c.indent n).takeWhile p = ((c.takeWhile p).1, (c.takeWhile p).2.indent n) := by
  rw [takeWhile, indent_skipWhile]
  rfl

theorem indent_skipComment : (c.indent n).skipComment = c.skipComment.indent n := by
  rw [skipComment, skipComment, indent_head?, indent_skipWhile]
  split_ifs <;> rfl

/-- A line break leads to a line that has not moved. -/
theorem indent_takeBreak : (c.indent n).takeBreak = (c.takeBreak.1, c.takeBreak.2.indent n) := by
  have later (mark : Mark) (offset : Nat) (rest : List Char) :
      (⟨⟨offset, mark.line + 1, 0⟩, rest⟩ : Cursor).indent n = ⟨⟨offset, mark.line + 1, 0⟩, rest⟩ :=
    indent_of_later (Nat.succ_ne_zero _)
  obtain ⟨mark, rest⟩ := c
  unfold takeBreak
  dsimp only [indent]
  rw [Mark.indent_line, Mark.indent_offset]
  split
  case h_1 => rw [← later]; rfl
  case h_2 => split_ifs <;> rfl
  case h_3 => rfl

theorem indent_skipBreak : (c.indent n).skipBreak = c.skipBreak.indent n := by
  rw [skipBreak, indent_takeBreak]
  rfl

theorem line_skip : c.skip.mark.line = c.mark.line := by
  obtain ⟨mark, rest⟩ := c
  cases rest <;> rfl

theorem skipBreak_cases (c : Cursor) : c.skipBreak = c ∨ c.skipBreak.mark.line = c.mark.line + 1 := by
  unfold skipBreak takeBreak
  split
  case h_1 => exact .inr rfl
  case h_2 => split_ifs <;> first | exact .inr rfl | exact .inl rfl
  case h_3 => exact .inl rfl

theorem skipBreak_of_unbroken (unbroken : ∀ x ∈ c.rest, isBreak x = false) : c.skipBreak = c := by
  obtain ⟨mark, rest⟩ := c
  cases rest with
  | nil => rfl
  | cons x rest =>
    have none_ : isBreak x = false := unbroken x List.mem_cons_self
    have alone : ¬ (x = '\r' ∧ rest.head? = some '\n') := by
      rintro ⟨rfl, -⟩
      exact absurd none_ (by decide)
    have other : ¬ (x = '\u2028' ∨ x = '\u2029') := by
      rintro (rfl | rfl) <;> exact absurd none_ (by decide)
    rw [skipBreak, takeBreak_alone alone, if_neg other, none_]
    rfl

end Cursor

/-- `d` is reached from `c` over some characters and line breaks. -/
inductive Reaches : Cursor → Cursor → Prop where
  | refl (c : Cursor) : Reaches c c
  | skip {c d : Cursor} : Reaches c.skip d → Reaches c d
  | skipBreak {c d : Cursor} : Reaches c.skipBreak d → Reaches c d

namespace Reaches

theorem trans (first : Reaches c d) (second : Reaches d e) : Reaches c e := by
  induction first with
  | refl => exact second
  | skip _ ih => exact .skip (ih second)
  | skipBreak _ ih => exact .skipBreak (ih second)

theorem next (c : Cursor) : Reaches c c.skip :=
  .skip (.refl _)

theorem nextLine (c : Cursor) : Reaches c c.skipBreak :=
  .skipBreak (.refl _)

theorem skipMany (k : Nat) (c : Cursor) : Reaches c (c.skipMany k) := by
  induction k generalizing c with
  | zero => exact .refl c
  | succ k ih => exact .skip (ih c.skip)

theorem skipWhile (p : Char → Bool) (c : Cursor) : Reaches c (c.skipWhile p) := by
  obtain ⟨mark, rest⟩ := c
  induction rest generalizing mark with
  | nil => exact .refl _
  | cons x rest ih =>
    cases holds : p x with
    | false =>
      have same : (⟨mark, x :: rest⟩ : Cursor).skipWhile p = ⟨mark, x :: rest⟩ := by
        simp [Cursor.skipWhile, holds, Utf8.size]
      rw [same]
      exact .refl _
    | true =>
      have same : (⟨mark, x :: rest⟩ : Cursor).skipWhile p = (⟨mark, x :: rest⟩ : Cursor).skip.skipWhile p := by
        simp [Cursor.skipWhile, Cursor.skip, holds, Utf8.size, Nat.add_assoc, Nat.add_comm 1]
      rw [same]
      exact .skip (ih _)

theorem skipComment (c : Cursor) : Reaches c c.skipComment := by
  rw [Cursor.skipComment]
  split_ifs
  · exact skipWhile _ c
  · exact .refl c

theorem passes (reaches : Reaches c d) : Passes c d := by
  induction reaches with
  | refl => exact .refl _
  | skip _ ih => exact (Passes.skip _).trans ih
  | skipBreak _ ih => exact (Passes.skipBreak _).trans ih

theorem line_le (reaches : Reaches c d) : c.mark.line ≤ d.mark.line := by
  induction reaches with
  | refl => exact Nat.le_refl _
  | skip _ ih => exact Cursor.line_skip ▸ ih
  | @skipBreak c d _ ih =>
    obtain same | line := c.skipBreak_cases
    · exact same ▸ ih
    · omega

/-- Without line breaks no line is left. -/
theorem line_eq (reaches : Reaches c d) (unbroken : ∀ x ∈ c.rest, isBreak x = false) : d.mark.line = c.mark.line := by
  induction reaches with
  | refl => rfl
  | skip _ ih => exact (ih fun x mem => unbroken x ((Passes.skip _).suffix.mem mem)).trans Cursor.line_skip
  | skipBreak _ ih =>
    rw [Cursor.skipBreak_of_unbroken unbroken] at ih
    exact ih unbroken

end Reaches

/-- What stands here, at the start of the text, would be the same further in. -/
def Inner (c : Cursor) : Prop :=
  c.mark.line = 0 → c.column = 0 → c.isDocumentLine = false ∧ c.head? ≠ some '%' ∧ c.head? ≠ some '\ufeff'

namespace Inner

theorem skip (inner : Inner c) : Inner c.skip := by
  obtain ⟨mark, rest⟩ := c
  cases rest with
  | nil => exact inner
  | cons x rest => exact fun _ start => absurd start (Nat.succ_ne_zero _)

theorem skipBreak (inner : Inner c) : Inner c.skipBreak := by
  obtain same | line := c.skipBreak_cases
  · rw [same]
    exact inner
  · exact fun first => absurd (line.symm.trans first) (Nat.succ_ne_zero _)

theorem reaches (inner : Inner c) (reaches : Reaches c d) : Inner d := by
  induction reaches with
  | refl => exact inner
  | skip _ ih => exact ih inner.skip
  | skipBreak _ ih => exact ih inner.skipBreak

/-- What counts only at the start of a line counts the same if it does not stand at the start of the first one. -/
theorem and_column {q : Bool} (special : c.mark.line = 0 → c.column = 0 → q = false) :
    ((c.indent n).column = 0 && q) = (c.column = 0 && q) := by
  by_cases first : c.mark.line = 0
  · have moved : (c.indent n).column = n + c.column := Mark.column_indent first
    by_cases start : c.column = 0
    · rw [special first start, Bool.and_false, Bool.and_false]
    · rw [moved, decide_eq_false start, decide_eq_false (by omega)]
  · rw [Cursor.indent_of_later first]

theorem isDocumentLine (inner : Inner c) : (c.indent n).isDocumentLine = c.isDocumentLine := by
  refine and_column fun first start => ?_
  have other := (inner first start).1
  rwa [Cursor.isDocumentLine, decide_eq_true start, Bool.true_and] at other

end Inner

/-- What was read from `c` on, and the same with the first line further in. -/
def Indented (n : Nat) {α : Type} (c : Cursor) (r s : α × Cursor) : Prop :=
  s = (r.1, r.2.indent n) ∧ Reaches c r.2

theorem Indented.after {α : Type} {r s : α × Cursor} (reaches : Reaches c d) (same : Indented n d r s) : Indented n c r s :=
  ⟨same.1, reaches.trans same.2⟩

variable {start start' : Mark}

section Tags

variable {p p' : TagPlace}

theorem readOctet_indent : Agree Eq (readOctet p c) (readOctet p' (c.indent n)) := by
  unfold readOctet
  rw [Cursor.indent_rest]
  split
  · exact .ite Iff.rfl (fun _ => rfl) fun _ => trivial
  · trivial

theorem readOctets_indent (k : Nat) (octets : List UInt8) (c : Cursor) :
    Agree (Indented n c) (readOctets p k octets c) (readOctets p' k octets (c.indent n)) := by
  induction k generalizing octets c with
  | zero => exact ⟨rfl, .refl c⟩
  | succ k ih =>
    refine readOctet_indent.bind ?_
    rintro octet _ rfl
    refine .ite Iff.rfl (fun _ => ?_) fun _ => trivial
    rw [Cursor.indent_skipMany]
    exact (ih _ _).mono fun _ _ => .after (.skipMany 3 c)

theorem readEscaped_indent (c : Cursor) : Agree (Indented n c) (readEscaped p c) (readEscaped p' (c.indent n)) := by
  refine readOctet_indent.bind ?_
  rintro octet _ rfl
  cases octetCount? octet with
  | none => trivial
  | some count =>
    rw [Cursor.indent_skipMany]
    exact (readOctets_indent _ _ _).mono fun _ _ => .after (.skipMany 3 c)

theorem readTagChars_indent (bracketed : Bool) (k : Nat) (octets : List UInt8) (c : Cursor) :
    Agree (Indented n c) (readTagChars p bracketed k octets c) (readTagChars p' bracketed k octets (c.indent n)) := by
  induction k generalizing octets c with
  | zero => exact ⟨rfl, .refl c⟩
  | succ k ih =>
    rw [readTagChars, readTagChars, Cursor.indent_rest]
    cases c.rest with
    | nil => exact ⟨rfl, .refl c⟩
    | cons x rest =>
      refine .ite Iff.rfl (fun _ => ?_) fun _ => .ite Iff.rfl (fun _ => ?_) fun _ => ⟨rfl, .refl c⟩
      · refine (readEscaped_indent c).bind ?_
        rintro ⟨more, d⟩ _ ⟨rfl, reaches⟩
        exact (ih _ d).mono fun _ _ => .after reaches
      · rw [Cursor.indent_skip]
        exact (ih _ _).mono fun _ _ => .after (.next c)

theorem readTagText_indent (bracketed : Bool) (head : List Char) (c : Cursor) :
    Agree (Indented n c) (readTagText p bracketed head c) (readTagText p' bracketed head (c.indent n)) := by
  refine (readTagChars_indent bracketed c.rest.length [] c).bind ?_
  rintro ⟨octets, d⟩ _ ⟨rfl, reaches⟩
  exact .ite Iff.rfl (fun _ => trivial) fun _ => ⟨rfl, reaches⟩

theorem readHandle_indent (c : Cursor) : Indented n c (readHandle c) (readHandle (c.indent n)) := by
  unfold readHandle
  rw [Cursor.indent_skip, Cursor.indent_takeWhile]
  have reaches : Reaches c (c.skip.takeWhile isNameChar).2 := (Reaches.next c).trans (.skipWhile _ _)
  generalize c.skip.takeWhile isNameChar = read at reaches ⊢
  obtain ⟨name, next⟩ := read
  dsimp only at reaches ⊢
  rw [Cursor.indent_head?, Cursor.indent_skip]
  split_ifs
  · exact ⟨rfl, reaches.trans (.next next)⟩
  · exact ⟨rfl, reaches⟩

/-- A token that was read after `c`, and the same with the first line further in. -/
def IndentedToken (n : Nat) (c : Cursor) (r s : Token × Cursor) : Prop :=
  s = (r.1.indent n, r.2.indent n) ∧ Reaches c r.2

theorem readTag_indent (c : Cursor) : Agree (IndentedToken n c) (readTag c) (readTag (c.indent n)) := by
  unfold readTag
  rw [Cursor.indent_rest]
  refine .ite Iff.rfl (fun _ => ?_) fun _ => ?_
  · rw [Cursor.indent_skipMany]
    refine (readTagText_indent true [] (c.skipMany 2)).bind ?_
    rintro ⟨suffix, next⟩ _ ⟨rfl, reaches⟩
    refine .ite Iff.rfl (fun _ => ?_) fun _ => trivial
    dsimp only
    rw [Cursor.indent_skip]
    exact ⟨rfl, ((Reaches.skipMany 2 c).trans reaches).trans (.next next)⟩
  · obtain ⟨same, reaches⟩ := readHandle_indent (n := n) c
    rw [same]
    generalize readHandle c = read at reaches ⊢
    obtain ⟨handle, next⟩ := read
    refine .ite Iff.rfl (fun _ => ?_) fun _ => ?_
    · refine (readTagText_indent false [] next).bind ?_
      rintro ⟨suffix, last⟩ _ ⟨rfl, reaches'⟩
      exact ⟨rfl, reaches.trans reaches'⟩
    · refine (readTagText_indent false handle next).bind ?_
      rintro ⟨suffix, last⟩ _ ⟨rfl, reaches'⟩
      exact ⟨rfl, reaches.trans reaches'⟩

theorem readTagAlone_indent (inFlow : Bool) (c : Cursor) :
    Agree (IndentedToken n c) (readTagAlone inFlow c) (readTagAlone inFlow (c.indent n)) := by
  refine (readTag_indent c).bind ?_
  rintro ⟨token, next⟩ _ ⟨rfl, reaches⟩
  exact .ite Iff.rfl (fun _ => ⟨rfl, reaches⟩) fun _ => trivial

theorem readAnchor_indent (construct : Construct) (c : Cursor) :
    Agree (Indented n c) (readAnchor construct c) (readAnchor construct (c.indent n)) := by
  unfold readAnchor
  rw [Cursor.indent_skip, Cursor.indent_takeWhile]
  have reaches : Reaches c (c.skip.takeWhile isNameChar).2 := (Reaches.next c).trans (.skipWhile _ _)
  generalize c.skip.takeWhile isNameChar = read at reaches ⊢
  obtain ⟨name, next⟩ := read
  exact .ite Iff.rfl (fun _ => ⟨rfl, reaches⟩) fun _ => trivial

theorem readVersionNumber_indent (c : Cursor) :
    Agree (Indented n c) (readVersionNumber start c) (readVersionNumber start' (c.indent n)) := by
  unfold readVersionNumber
  rw [Cursor.indent_takeWhile]
  exact .ite Iff.rfl (fun _ => trivial) fun _ => .ite Iff.rfl (fun _ => trivial) fun _ => ⟨rfl, .skipWhile _ c⟩

theorem readVersion_indent (c : Cursor) : Agree (Indented n c) (readVersion start c) (readVersion start' (c.indent n)) := by
  unfold readVersion
  rw [Cursor.skipBlanks, Cursor.skipBlanks, Cursor.indent_skipWhile]
  refine (readVersionNumber_indent _).bind ?_
  rintro ⟨major, d⟩ _ ⟨rfl, reaches⟩
  refine .ite Iff.rfl (fun _ => ?_) fun _ => trivial
  dsimp only
  rw [Cursor.indent_skip]
  refine (readVersionNumber_indent d.skip).bind ?_
  rintro ⟨minor, e⟩ _ ⟨rfl, further⟩
  exact ⟨rfl, (Reaches.skipWhile _ c).trans (reaches.trans (.skip further))⟩

theorem readShorthand_indent (c : Cursor) : Agree (Indented n c) (readShorthand start c) (readShorthand start' (c.indent n)) := by
  unfold readShorthand
  rw [Cursor.skipBlanks, Cursor.skipBlanks, Cursor.indent_skipWhile]
  refine .ite Iff.rfl (fun _ => trivial) fun _ => ?_
  obtain ⟨same, reaches⟩ := readHandle_indent (n := n) (c.skipWhile isSpaceOrTab)
  rw [same]
  generalize readHandle (c.skipWhile isSpaceOrTab) = read at reaches ⊢
  obtain ⟨handle, d⟩ := read
  refine .ite Iff.rfl (fun _ => trivial) fun _ => .ite Iff.rfl (fun _ => trivial) fun _ => ?_
  dsimp only
  rw [Cursor.skipBlanks, Cursor.skipBlanks, Cursor.indent_skipWhile]
  refine (readTagText_indent true [] (d.skipWhile isSpaceOrTab)).bind ?_
  rintro ⟨text, e⟩ _ ⟨rfl, further⟩
  have passed := (Reaches.skipWhile isSpaceOrTab c).trans (reaches.trans ((Reaches.skipWhile isSpaceOrTab d).trans further))
  exact .ite Iff.rfl (fun _ => ⟨rfl, passed⟩) fun _ => trivial

theorem readDirective_indent (c : Cursor) : Agree (IndentedToken n c) (readDirective c) (readDirective (c.indent n)) := by
  unfold readDirective
  rw [Cursor.indent_skip, Cursor.indent_takeWhile]
  have reaches : Reaches c (c.skip.takeWhile isNameChar).2 := (Reaches.next c).trans (.skipWhile _ _)
  generalize c.skip.takeWhile isNameChar = read at reaches ⊢
  obtain ⟨name, d⟩ := read
  refine .ite Iff.rfl (fun _ => trivial) fun _ => .ite Iff.rfl (fun _ => trivial) fun _ => ?_
  have finish : ∀ r s, Indented n d r s → Agree (IndentedToken n c)
      (if isBreakOrEnd r.2.skipBlanks.skipComment.rest then
        return ((⟨c.mark, r.1⟩ : Token), r.2.skipBlanks.skipComment.skipBreak)
        else fail .directive c.mark .noCommentOrBreak r.2.skipBlanks.skipComment)
      (if isBreakOrEnd s.2.skipBlanks.skipComment.rest then
        return ((⟨c.mark.indent n, s.1⟩ : Token), s.2.skipBlanks.skipComment.skipBreak)
        else fail .directive (c.mark.indent n) .noCommentOrBreak s.2.skipBlanks.skipComment) := by
    rintro ⟨symbol, e⟩ _ ⟨rfl, further⟩
    dsimp only
    rw [Cursor.skipBlanks, Cursor.skipBlanks, Cursor.indent_skipWhile, Cursor.indent_skipComment, Cursor.indent_skipBreak]
    have passed := (reaches.trans further).trans ((Reaches.skipWhile isSpaceOrTab e).trans (.skipComment _))
    exact .ite Iff.rfl (fun _ => ⟨rfl, passed.trans (.nextLine _)⟩) fun _ => trivial
  refine .ite Iff.rfl (fun _ => ?_) fun _ => .ite Iff.rfl (fun _ => ?_) fun _ => trivial
  · exact (readVersion_indent d).bind finish
  · exact (readShorthand_indent d).bind finish

end Tags

/-- A gap is the same if a place is too far out for it whenever it was before. -/
theorem Gap.read_indent {least least' k : Nat} (g : Gap)
    (level : ∀ d, Reaches c d → ((d.indent n).column < least' ↔ d.column < least)) :
    Agree (Indented n c) (Gap.read start least k g c) (Gap.read start' least' k g (c.indent n)) := by
  induction k generalizing g c with
  | zero => exact ⟨rfl, .refl c⟩
  | succ k ih =>
    rw [Gap.read, Gap.read, Cursor.indent_rest]
    cases c.rest with
    | nil => exact ⟨rfl, .refl c⟩
    | cons x rest =>
      refine .ite Iff.rfl (fun _ => .ite ?_ (fun _ => trivial) fun _ => ?_) fun _ =>
        .ite Iff.rfl (fun _ => ?_) fun _ => ⟨rfl, .refl c⟩
      · simp only [Bool.and_eq_true, decide_eq_true_eq, level c (.refl c)]
      · rw [Cursor.indent_skip]
        exact (ih _ fun d reaches => level d (.skip reaches)).mono fun _ _ => .after (.next c)
      · rw [Cursor.indent_takeBreak]
        exact (ih _ fun d reaches => level d (.skipBreak reaches)).mono fun _ _ => .after (.nextLine c)

theorem Plain.readWords_indent {inFlow : Bool} {least least' k : Nat} (text : List Char) (gap : Gap) (inner : Inner c)
    (level : ∀ d, Reaches c d → ((d.indent n).column < least' ↔ d.column < least)) :
    Agree (fun o o' => o' = { o with next := o.next.indent n } ∧ Reaches c o.next)
      (readWords inFlow start least k text gap c) (readWords inFlow start' least' k text gap (c.indent n)) := by
  induction k generalizing text gap c with
  | zero => exact ⟨rfl, .refl c⟩
  | succ k ih =>
    rw [readWords, readWords, inner.isDocumentLine, Cursor.indent_rest]
    refine .ite Iff.rfl (fun _ => ⟨rfl, .refl c⟩) fun _ => ?_
    cases word inFlow c.rest with
    | mk letters stop =>
      dsimp only
      rw [Cursor.indent_skipMany]
      cases stop with
      | colon => trivial
      | here =>
        have passed := Reaches.skipMany letters.length c
        refine .ite Iff.rfl (fun _ => ⟨rfl, passed⟩) fun _ => ?_
        refine (Gap.read_indent {} fun d reaches => level d (passed.trans reaches)).bind ?_
        rintro ⟨gap, after⟩ _ ⟨rfl, reaches⟩
        have reaches := passed.trans reaches
        refine .ite ?_ (fun _ => ⟨rfl, reaches⟩) fun _ => ?_
        · simp only [Bool.and_eq_true, decide_eq_true_eq, level after reaches]
        · refine (ih _ gap (inner.reaches reaches) fun d further => level d (reaches.trans further)).mono ?_
          exact fun _ _ => .imp_right reaches.trans

namespace Quoted

variable {quote : Char}

theorem escape_indent (c : Cursor) : Agree (Indented n c) (escape start c) (escape start' (c.indent n)) := by
  rw [escape, escape, Cursor.indent_skip, Cursor.indent_head?]
  have twice : Reaches c c.skip.skip := .skipMany 2 c
  cases c.skip.head? with
  | none => trivial
  | some x =>
    dsimp only
    rw [Cursor.indent_skip]
    cases short? x with
    | some y => exact ⟨rfl, twice⟩
    | none =>
      cases digits? x with
      | none => trivial
      | some k =>
        refine .ite Iff.rfl (fun _ => trivial) fun _ => .ite Iff.rfl (fun _ => ?_) fun _ => trivial
        rw [Cursor.indent_skipMany]
        exact ⟨rfl, twice.trans (.skipMany k _)⟩

theorem stretch_indent (k : Nat) (text : List Char) (c : Cursor) :
    Agree (fun s s' => s' = { s with next := s.next.indent n } ∧ Reaches c s.next)
      (stretch quote start k text c) (stretch quote start' k text (c.indent n)) := by
  induction k generalizing text c with
  | zero => exact ⟨rfl, .refl c⟩
  | succ k ih =>
    have next (text : List Char) {d : Cursor} (reaches : Reaches c d) :
        Agree (fun s s' => s' = { s with next := s.next.indent n } ∧ Reaches c s.next)
          (stretch quote start k text d) (stretch quote start' k text (d.indent n)) :=
      (ih text d).mono fun _ _ => .imp_right reaches.trans
    rw [stretch, stretch, Cursor.indent_rest]
    cases c.rest with
    | nil => exact ⟨rfl, .refl c⟩
    | cons x rest =>
      dsimp only
      rw [Cursor.indent_skip, Cursor.indent_skip, Cursor.indent_skipBreak]
      refine .ite Iff.rfl (fun _ => ⟨rfl, .refl c⟩) fun _ => .ite Iff.rfl (fun _ => next _ (.skipMany 2 c)) fun _ =>
        .ite Iff.rfl (fun _ => ⟨rfl, .refl c⟩) fun _ => .ite Iff.rfl (fun _ => ?_) fun _ => next _ (.next c)
      refine .ite Iff.rfl (fun _ => ⟨rfl, .skip (.nextLine _)⟩) fun _ => (escape_indent c).bind ?_
      rintro ⟨y, after⟩ _ ⟨rfl, reaches⟩
      exact next _ reaches

theorem readText_indent (k : Nat) (text : List Char) (inner : Inner c) :
    Agree (Indented n c) (readText quote start k text c) (readText quote start' k text (c.indent n)) := by
  induction k generalizing text c with
  | zero => trivial
  | succ k ih =>
    rw [readText, readText, inner.isDocumentLine, Cursor.indent_rest]
    refine .ite Iff.rfl (fun _ => trivial) fun _ => .ite Iff.rfl (fun _ => trivial) fun _ => ?_
    refine (stretch_indent (c.rest.length + 1) text c).bind ?_
    rintro s _ ⟨rfl, reaches⟩
    refine .ite Iff.rfl (fun _ => ?_) fun _ => ?_
    · dsimp only
      rw [Cursor.indent_skip]
      exact ⟨rfl, reaches.trans (.next s.next)⟩
    · refine (Gap.read_indent { broken := s.broken } fun d _ => by simp).bind ?_
      rintro ⟨gap, after⟩ _ ⟨rfl, further⟩
      have reaches := reaches.trans further
      exact (ih _ (inner.reaches reaches)).mono fun _ _ => .after reaches

theorem read_indent (inner : Inner c) : Agree (Indented n c) (Quoted.read quote c) (Quoted.read quote (c.indent n)) := by
  rw [Quoted.read, Quoted.read, Cursor.indent_skip]
  exact (readText_indent _ [] inner.skip).mono fun _ _ => .after (.next c)

end Quoted

namespace Verbatim

theorem readChomping_indent (c : Cursor) : Indented n c (readChomping c) (readChomping (c.indent n)) := by
  rw [readChomping, readChomping, Cursor.indent_head?]
  cases c.head?.bind chomping? with
  | none => exact ⟨rfl, .refl c⟩
  | some k => exact ⟨by rw [Cursor.indent_skip], .next c⟩

theorem readIndent_indent (c : Cursor) : Agree (Indented n c) (readIndent start c) (readIndent start' (c.indent n)) := by
  rw [readIndent, readIndent, Cursor.indent_head?]
  cases c.head? with
  | none => exact ⟨rfl, .refl c⟩
  | some x =>
    refine .ite Iff.rfl (fun _ => trivial) fun _ => .ite Iff.rfl (fun _ => ?_) fun _ => ⟨rfl, .refl c⟩
    rw [Cursor.indent_skip]
    exact ⟨rfl, .next c⟩

/-- The end of a line is followed by another line, or by nothing. -/
theorem skipBreak_of_isBreakOrEnd (ends : isBreakOrEnd c.rest = true) :
    c.skipBreak.rest = [] ∨ c.mark.line < c.skipBreak.mark.line := by
  cases cons : c.rest with
  | nil =>
    obtain same | line := c.skipBreak_cases
    · exact .inl (same.symm ▸ cons)
    · exact .inr (by omega)
  | cons x rest =>
    have shorter := length_skipBreak cons (by rwa [cons] at ends)
    obtain same | line := c.skipBreak_cases
    · rw [same] at shorter
      exact absurd shorter (Nat.lt_irrefl _)
    · exact .inr (by omega)

theorem readHeader_indent (c : Cursor) :
    Agree (fun r s => Indented n c r s ∧ (r.2.rest = [] ∨ c.mark.line < r.2.mark.line)) (readHeader start c)
      (readHeader start' (c.indent n)) := by
  obtain ⟨same, reaches⟩ := readChomping_indent (n := n) c
  unfold readHeader
  rw [same]
  generalize readChomping c = read at reaches ⊢
  obtain ⟨early, d⟩ := read
  refine (readIndent_indent d).bind ?_
  rintro ⟨indent?, e⟩ _ ⟨rfl, reaches'⟩
  have late : Indented n e (if early.isNone && indent?.isSome then readChomping e else (none, e))
      (if early.isNone && indent?.isSome then readChomping (e.indent n) else (none, e.indent n)) := by
    split_ifs
    · exact readChomping_indent e
    · exact ⟨rfl, .refl e⟩
  obtain ⟨same, reaches''⟩ := late
  dsimp only
  rw [same]
  generalize (if early.isNone && indent?.isSome then readChomping e else (none, e)) = read at reaches'' ⊢
  obtain ⟨late, last⟩ := read
  dsimp only
  rw [Cursor.skipBlanks, Cursor.skipBlanks, Cursor.indent_skipWhile, Cursor.indent_skipComment, Cursor.indent_skipBreak]
  have reaches : Reaches c (last.skipWhile isSpaceOrTab).skipComment :=
    (((reaches.trans reaches').trans reaches'').trans (.skipWhile _ last)).trans (.skipComment _)
  refine .ite Iff.rfl (fun ends => ?_) fun _ => trivial
  refine ⟨⟨rfl, reaches.trans (.nextLine _)⟩, (skipBreak_of_isBreakOrEnd ends).imp_right fun line => ?_⟩
  exact Nat.lt_of_le_of_lt reaches.line_le line

/-- Below the header there is nothing. -/
theorem readBelow_of_end (folded : Bool) (parent : Option Nat) (start : Mark) (header : Header) (done : c.rest = []) :
    readBelow folded parent start header c = .ok ([], c) := by
  have stays (k : Nat) : c.skipMany k = c := by
    induction k with
    | zero => rfl
    | succ k ih => rw [Cursor.skipMany, show c.skip = c by rw [Cursor.skip, done], ih]
  have none_ : c.head? = none := by rw [Cursor.head?, done]; rfl
  have breaks (given : Option Nat) :
      passBreaks start given (c.rest.length + 1) [] 0 c = .ok ⟨[], max 0 c.column, c⟩ := by
    rw [passBreaks_succ, stays]
    simp [none_]
  simp only [readBelow, bind, Except.bind, breaks, readLines_of_end done, chomped]
  cases header.chomping <;> rfl

theorem passBreaks_agree (indent? : Option Nat) (k : Nat) (text : List Char) (widest : Nat) (c : Cursor) :
    Agree (fun b b' => b' = b ∧ Reaches c b.next) (passBreaks start indent? k text widest c)
      (passBreaks start' indent? k text widest c) := by
  induction k generalizing text widest c with
  | zero => exact ⟨rfl, .refl c⟩
  | succ k ih =>
    rw [passBreaks_succ, passBreaks_succ]
    have passed : Reaches c (c.skipMany (indentation indent? c.column c.rest)) := .skipMany _ c
    generalize c.skipMany (indentation indent? c.column c.rest) = d at passed ⊢
    refine .ite Iff.rfl (fun _ => trivial) fun _ => .ite Iff.rfl (fun _ => ?_) fun _ => ⟨rfl, passed⟩
    exact (ih _ _ _).mono fun _ _ => .imp_right fun further => passed.trans (.skipBreak further)

theorem readLines_agree (folded : Bool) (least k : Nat) (text ending breaks : List Char) (indented : Bool) (c : Cursor) :
    Agree (fun r s => s = r ∧ Reaches c r.2.2.2) (readLines folded start least k text ending breaks indented c)
      (readLines folded start' least k text ending breaks indented c) := by
  induction k generalizing text ending breaks indented c with
  | zero => exact ⟨rfl, .refl c⟩
  | succ k ih =>
    rw [readLines, readLines]
    refine .ite Iff.rfl (fun _ => ?_) fun _ => ⟨rfl, .refl c⟩
    refine (passBreaks_agree (some least) _ [] 0 _).bind ?_
    rintro _ b ⟨rfl, reaches⟩
    have reaches : Reaches c b.next := ((Reaches.skipWhile _ c).trans (.nextLine _)).trans reaches
    exact (ih _ _ _ _ _).mono fun _ _ => .imp_right reaches.trans

/-- The lines below a header do not depend on where it starts. -/
theorem readBelow_agree (folded : Bool) (parent : Option Nat) (header : Header) (c : Cursor) :
    Agree (fun r s => s = r ∧ Reaches c r.2) (readBelow folded parent start header c)
      (readBelow folded parent start' header c) := by
  refine (passBreaks_agree _ _ [] 0 c).bind ?_
  rintro _ b ⟨rfl, reaches⟩
  refine (readLines_agree folded _ _ [] [] b.text false b.next).bind ?_
  rintro _ r ⟨rfl, further⟩
  exact ⟨rfl, reaches.trans further⟩

/-- A block scalar is the same further in if its parent is, or if no line is left for it. -/
theorem read_indent (folded : Bool) {parent parent' : Option Nat}
    (level : parent' = parent ∨ ∀ x ∈ c.rest, isBreak x = false) :
    Agree (Indented n c) (Verbatim.read folded parent c) (Verbatim.read folded parent' (c.indent n)) := by
  rw [read_eq, read_eq, Cursor.indent_skip]
  refine (readHeader_indent c.skip).bind ?_
  rintro ⟨header, d⟩ _ ⟨⟨rfl, reaches⟩, below⟩
  have reaches : Reaches c d := .skip reaches
  rw [Cursor.line_skip] at below
  by_cases done : d.rest = []
  · dsimp only
    rw [readBelow_of_end folded parent c.mark header done, readBelow_of_end (c := d.indent n) folded parent' _ header done]
    exact ⟨rfl, reaches⟩
  · have line : c.mark.line < d.mark.line := below.resolve_left done
    have same : parent' = parent := level.resolve_right fun unbroken => by
      rw [reaches.line_eq unbroken] at line
      exact Nat.lt_irrefl _ line
    have later : d.mark.line ≠ 0 := Nat.ne_zero_of_lt line
    dsimp only
    rw [same, Cursor.indent_of_later later]
    refine (readBelow_agree folded parent header d).mono ?_
    rintro _ r ⟨rfl, further⟩
    have last : r.2.mark.line ≠ 0 := Nat.ne_zero_of_lt (Nat.lt_of_lt_of_le line further.line_le)
    exact ⟨by rw [Cursor.indent_of_later last], reaches.trans further⟩

theorem chompingAt_indent (c : Cursor) : chompingAt (c.indent n) = chompingAt c := by
  have agree : Agree (fun r s => Indented n c.skip r s ∧ (r.2.rest = [] ∨ c.skip.mark.line < r.2.mark.line))
      (readHeader c.mark c.skip) (readHeader (c.indent n).mark (c.indent n).skip) := by
    rw [Cursor.indent_skip]
    exact readHeader_indent c.skip
  unfold chompingAt
  obtain ⟨e, e', fails, fails'⟩ | ⟨r, _, read, read', ⟨rfl, _⟩, _⟩ := agree.cases
  · rw [fails, fails']
  · rw [read, read']

end Verbatim

end Frontmark.Yaml
