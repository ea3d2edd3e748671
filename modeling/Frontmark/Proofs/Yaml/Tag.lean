import Frontmark.Proofs.Yaml.Margin
import Frontmark.Yaml.Tag

/-! Tags, anchors and directives read the same wherever they stand. -/

set_option autoImplicit false

namespace Frontmark.Yaml

open Frontmark.Text

def Margin.token (w : Margin) (t : Token) : Token :=
  ⟨w.mark t.mark, t.symbol⟩

variable {w : Margin} {c : Cursor} {p p' : TagPlace}

theorem readOctet_eq_ok_iff {n : Nat} :
    readOctet p c = .ok n ↔ ∃ x y rest, c.rest = ['%', x, y] ++ rest ∧ (isHexDigit x && isHexDigit y) = true ∧
      numeral 16 [x, y] = n := by
  unfold readOctet
  split
  case h_1 x y rest same =>
    constructor
    · intro ok
      split_ifs at ok with digits
      · exact ⟨x, y, rest, same, digits, Except.ok.inj ok⟩
      · cases ok
    · rintro ⟨a, b, more, cut, digits, rfl⟩
      rw [same] at cut
      cases cut
      rw [if_pos digits]
  case h_2 other =>
    refine iff_of_false nofun ?_
    rintro ⟨x, y, rest, same, -⟩
    exact other x y rest same

/-- Blanks are no digits. -/
theorem readOctet_cursor_iff {n : Nat} : readOctet p' (w.cursor c) = .ok n ↔ readOctet p c = .ok n := by
  rw [readOctet_eq_ok_iff, readOctet_eq_ok_iff]
  constructor
  · rintro ⟨x, y, rest, same, digits, value⟩
    have digit (z : Char) (digit : isHexDigit z = true) : z ∉ pads := fun pad => by
      rw [(by decide : Visible isHexDigit) z pad] at digit
      cases digit
    have visible : ∀ z ∈ ['%', x, y], z ∉ pads := by
      simp only [List.mem_cons, List.not_mem_nil, or_false]
      rintro z (rfl | rfl | rfl)
      · decide
      · exact digit z (Bool.and_eq_true_iff.mp digits).1
      · exact digit z (Bool.and_eq_true_iff.mp digits).2
    obtain ⟨more, cut, -⟩ := w.exists_of_append_eq visible same
    exact ⟨x, y, more, cut, digits, value⟩
  · rintro ⟨x, y, rest, same, digits, value⟩
    exact ⟨x, y, rest ++ w.after, by simp [same], digits, value⟩

theorem readOctet_agree :
    Agree (fun a b => a = b ∧ 3 ≤ c.rest.length) (readOctet p c) (readOctet p' (w.cursor c)) := by
  cases read : readOctet p c with
  | ok n =>
    obtain ⟨x, y, rest, same, -⟩ := readOctet_eq_ok_iff.mp read
    rw [readOctet_cursor_iff.mpr read]
    exact ⟨rfl, by simp [same]⟩
  | error cause =>
    cases other : readOctet p' (w.cursor c) with
    | ok n => rw [readOctet_cursor_iff.mp other] at read; cases read
    | error cause' => trivial

theorem readOctets_agree (n : Nat) (octets : List UInt8) (c : Cursor) :
    Agree (w.Same c) (readOctets p n octets c) (readOctets p' n octets (w.cursor c)) := by
  induction n generalizing octets c with
  | zero => exact ⟨rfl, .refl c⟩
  | succ n ih =>
    refine readOctet_agree.bind ?_
    rintro octet _ ⟨rfl, enough⟩
    split_ifs
    · rw [w.skipMany_cursor enough]
      exact (ih _ _).mono fun _ _ => Margin.same_after (.skipMany 3 c)
    · trivial

theorem readEscaped_agree : Agree (w.Same c.skip) (readEscaped p c) (readEscaped p' (w.cursor c)) := by
  refine readOctet_agree.bind ?_
  rintro octet _ ⟨rfl, enough⟩
  cases octetCount? octet with
  | none => trivial
  | some count =>
    rw [w.skipMany_cursor enough]
    exact (readOctets_agree _ _ _).mono fun _ _ => Margin.same_after (.skip_skipMany 2 c)

theorem visible_isTagChar (bracketed : Bool) : Visible (isTagChar bracketed) := by
  cases bracketed <;> decide

/-- No tag goes on where nothing but padding is left. -/
theorem readTagChars_of_spent {n : Nat} (bracketed : Bool) (octets : List UInt8) (spent : Spent c.rest) :
    readTagChars p bracketed n octets c = .ok (octets, c) := by
  cases n with
  | zero => rfl
  | succ n =>
    rw [readTagChars]
    split
    · rfl
    next x rest same =>
      have pad : x ∈ pads := spent.mem_pads (same ▸ List.mem_cons_self)
      have percent : x ≠ '%' := fun same => absurd (same ▸ pad) (by decide)
      rw [if_neg percent, visible_isTagChar bracketed x pad, if_neg (by decide)]

theorem readTagChars_agree {n m : Nat} (bracketed : Bool) (octets : List UInt8) (c : Cursor) (enough : c.rest.length ≤ n)
    (enough' : (w.cursor c).rest.length ≤ m) :
    Agree (w.Same c) (readTagChars p bracketed n octets c) (readTagChars p' bracketed m octets (w.cursor c)) := by
  induction n generalizing octets c m with
  | zero =>
    have done : c.rest = [] := List.length_eq_zero_iff.mp (Nat.le_zero.mp enough)
    rw [readTagChars_of_spent (c := w.cursor c) bracketed octets (w.spent_cursor done)]
    exact ⟨rfl, .refl c⟩
  | succ n ih =>
    by_cases done : c.rest = []
    · rw [readTagChars_of_spent (c := w.cursor c) bracketed octets (w.spent_cursor done),
        readTagChars_of_spent (c := c) bracketed octets (Spent.of_nil done)]
      exact ⟨rfl, .refl c⟩
    · obtain ⟨x, rest, same⟩ := List.exists_cons_of_ne_nil done
      obtain _ | m := m
      · simp [same] at enough'
      have shorter := length_skip done
      have next (d : Cursor) (passes : Passes c.skip d) (octets : List UInt8) :
          Agree (w.Same c) (readTagChars p bracketed n octets d) (readTagChars p' bracketed m octets (w.cursor d)) := by
        have length := passes.length_le
        refine (ih octets d (by omega) ?_).mono fun _ _ => Margin.same_after ((Passes.skip c).trans passes)
        rw [Margin.cursor_rest, List.length_append] at enough' ⊢
        omega
      rw [readTagChars, readTagChars]
      simp only [Margin.cursor_rest, same, List.cons_append]
      split_ifs
      · refine readEscaped_agree.bind ?_
        rintro ⟨more, d⟩ _ ⟨rfl, passes⟩
        exact next d passes _
      · rw [w.skip_cursor done]
        exact next _ (.refl _) _
      · exact ⟨rfl, .refl c⟩

theorem readTagText_agree (bracketed : Bool) (head : List Char) (c : Cursor) :
    Agree (w.Same c) (readTagText p bracketed head c) (readTagText p' bracketed head (w.cursor c)) := by
  refine (readTagChars_agree bracketed [] c (Nat.le_refl _) (Nat.le_refl _)).bind ?_
  rintro ⟨octets, d⟩ _ ⟨rfl, passes⟩
  dsimp only
  split_ifs
  · trivial
  · exact ⟨rfl, passes⟩

theorem visible_isNameChar : Visible isNameChar := by
  decide

theorem readHandle_same (more : c.rest ≠ []) : w.Same c.skip (readHandle c) (readHandle (w.cursor c)) := by
  obtain ⟨same, passes⟩ := w.same_takeWhile visible_isNameChar c.skip
  unfold readHandle
  rw [w.skip_cursor more, same]
  generalize c.skip.takeWhile isNameChar = read at passes ⊢
  obtain ⟨name, next⟩ := read
  dsimp only at passes ⊢
  rw [if_congr (w.head?_cursor_eq_iff (x := '!') (by decide) next) rfl rfl]
  split_ifs with bang
  · exact ⟨by rw [w.skip_cursor (Margin.rest_ne_nil_of_head? bang)], passes.trans (.skip next)⟩
  · exact ⟨rfl, passes⟩

/-- A token that was read after `c`, and the same within the margin. -/
def Margin.SameToken (w : Margin) (c : Cursor) (r s : Token × Cursor) : Prop :=
  s = (w.token r.1, w.cursor r.2) ∧ Passes c r.2

theorem readTag_agree (more : c.rest ≠ []) : Agree (w.SameToken c.skip) (readTag c) (readTag (w.cursor c)) := by
  obtain ⟨x, rest, cons⟩ := List.exists_cons_of_ne_nil more
  have bracket : (((w.cursor c).rest.drop 1).head?.any (· = '<')) = ((c.rest.drop 1).head?.any (· = '<')) := by
    simp only [Margin.cursor_rest, cons, List.cons_append, List.drop_succ_cons, List.drop_zero]
    exact w.any_head?_append (by decide) rest
  unfold readTag
  refine .ite (by rw [bracket]) (fun angle => ?_) fun _ => ?_
  · have enough : 2 ≤ c.rest.length := by
      rw [cons] at angle ⊢
      cases rest with
      | nil => cases angle
      | cons y rest => simp
    rw [w.skipMany_cursor enough]
    refine (readTagText_agree true [] _).bind ?_
    rintro ⟨suffix, next⟩ _ ⟨rfl, passes⟩
    refine .ite (w.head?_cursor_eq_iff (by decide) next) (fun closing => ?_) fun _ => trivial
    rw [w.skip_cursor (Margin.rest_ne_nil_of_head? closing)]
    exact ⟨rfl, ((Passes.skip_skipMany 1 c).trans passes).trans (.skip next)⟩
  · obtain ⟨same, passes⟩ := readHandle_same (w := w) more
    rw [same]
    generalize readHandle c = read at passes ⊢
    obtain ⟨handle, next⟩ := read
    refine .ite Iff.rfl (fun _ => ?_) fun _ => ?_
    · refine (readTagText_agree false [] next).bind ?_
      rintro ⟨suffix, after⟩ _ ⟨rfl, passes'⟩
      exact ⟨rfl, passes.trans passes'⟩
    · refine (readTagText_agree false handle next).bind ?_
      rintro ⟨suffix, after⟩ _ ⟨rfl, passes'⟩
      exact ⟨rfl, passes.trans passes'⟩

theorem readTagAlone_agree (inFlow : Bool) (more : c.rest ≠ []) :
    Agree (w.SameToken c.skip) (readTagAlone inFlow c) (readTagAlone inFlow (w.cursor c)) := by
  refine (readTag_agree more).bind ?_
  rintro ⟨token, next⟩ _ ⟨rfl, passes⟩
  refine .ite ?_ (fun _ => ⟨rfl, passes⟩) fun _ => trivial
  simp only [Margin.cursor_rest, w.isSeparated_append, Bool.or_eq_true, Bool.and_eq_true, decide_eq_true_eq,
    w.head?_cursor_eq_iff (x := ',') (by decide)]

theorem readAnchor_agree {construct : Construct} (more : c.rest ≠ []) :
    Agree (w.Same c.skip) (readAnchor construct c) (readAnchor construct (w.cursor c)) := by
  obtain ⟨same, passes⟩ := w.same_takeWhile visible_isNameChar c.skip
  unfold readAnchor
  rw [w.skip_cursor more, same]
  generalize c.skip.takeWhile isNameChar = read at passes ⊢
  obtain ⟨name, next⟩ := read
  refine .ite ?_ (fun _ => ⟨rfl, passes⟩) fun _ => trivial
  rw [Margin.cursor_rest, w.isSeparated_append, w.any_head?_cursor (by decide)]

theorem readVersionNumber_agree {start start' : Mark} (c : Cursor) :
    Agree (w.Same c) (readVersionNumber start c) (readVersionNumber start' (w.cursor c)) := by
  obtain ⟨same, passes⟩ := w.same_takeWhile (by decide : Visible isDigit) c
  unfold readVersionNumber
  rw [same]
  generalize c.takeWhile isDigit = read at passes ⊢
  obtain ⟨digits, next⟩ := read
  exact .ite Iff.rfl (fun _ => trivial) fun _ => .ite Iff.rfl (fun _ => trivial) fun _ => ⟨rfl, passes⟩

section Blanks

variable {start start' : Mark}

theorem takeWhile_of_spent {q : Char → Bool} {text : List Char} (visible : Visible q) (spent : Spent text) :
    text.takeWhile q = [] := by
  cases text with
  | nil => rfl
  | cons x rest =>
    have pad : x ∈ pads := spent.mem_pads List.mem_cons_self
    simp [visible x pad]

theorem readVersionNumber_of_spent (spent : Spent c.rest) :
    readVersionNumber start c = fail .versionDirective start .noVersion c := by
  simp [readVersionNumber, Cursor.takeWhile, takeWhile_of_spent (by decide : Visible isDigit) spent, longestVersion]

theorem readTagText_of_spent (bracketed : Bool) (spent : Spent c.rest) :
    readTagText p bracketed [] c = fail p.construct p.start .noTagText c := by
  simp [readTagText, readTagChars_of_spent bracketed [] spent, bind, Except.bind]

/-- Past blanks the reading goes on at the same place, or all is at its end. -/
theorem skipBlanks_cases (c : Cursor) :
    (w.cursor c).skipBlanks = w.cursor c.skipBlanks ∨ c.skipBlanks.rest = [] ∧ Spent (w.cursor c).skipBlanks.rest := by
  have follows : w.Follows c.skipBlanks (w.cursor c).skipBlanks := Margin.Follows.skipWhile (.inl rfl) _
  by_cases done : c.skipBlanks.rest = []
  · exact .inr ⟨done, follows.spent done⟩
  · exact .inl (follows.eq_cursor done)

theorem readVersion_agree (c : Cursor) : Agree (w.Same c) (readVersion start c) (readVersion start' (w.cursor c)) := by
  unfold readVersion
  obtain same | ⟨done, spent⟩ := skipBlanks_cases (w := w) c
  · rw [same]
    refine (readVersionNumber_agree c.skipBlanks).bind ?_
    rintro ⟨major, next⟩ _ ⟨rfl, passes⟩
    refine .ite (w.head?_cursor_eq_iff (by decide) next) (fun point => ?_) fun _ => trivial
    rw [w.skip_cursor (Margin.rest_ne_nil_of_head? point)]
    refine (readVersionNumber_agree next.skip).bind ?_
    rintro ⟨minor, last⟩ _ ⟨rfl, passes'⟩
    exact ⟨rfl, (((Passes.skipWhile _ c).trans passes).trans (.skip next)).trans passes'⟩
  · rw [readVersionNumber_of_spent spent, readVersionNumber_of_spent (c := c.skipBlanks) (Spent.of_nil done)]
    trivial

/-- Read the text that a tag directive gives for a handle, behind the handle. -/
def readShorthandText (handle : List Char) (start : Mark) (c : Cursor) : Except Malformed (Symbol × Cursor) :=
  if !c.head?.any isSpaceOrTab then fail .tagDirective start .noBlank c
  else do
    let r ← readTagText ⟨.directiveTag, start⟩ true [] c.skipBlanks
    if isSeparated r.2.rest then return (.shorthand handle r.1, r.2)
    else fail .tagDirective start .noBlankOrBreak r.2

theorem readShorthandText_agree {handle : List Char} {d : Cursor} (passes : Passes d c) :
    Agree (w.Same d) (readShorthandText handle start c) (readShorthandText handle start' (w.cursor c)) := by
  unfold readShorthandText
  by_cases more : c.rest = []
  · -- the padding looks like the blank, but no text follows
    have none_ : (c.head?.any isSpaceOrTab) = false := by rw [Cursor.head?, more]; rfl
    rw [none_, if_pos (by decide)]
    split_ifs
    · trivial
    · have spent : Spent (w.cursor c).skipBlanks.rest := fun x mem =>
        w.spent_cursor more x ((List.dropWhile_sublist _).mem mem)
      rw [readTagText_of_spent true spent]
      trivial
  · refine .ite (by rw [w.head?_cursor more]) (fun _ => trivial) fun _ => ?_
    obtain same | ⟨done, spent⟩ := skipBlanks_cases (w := w) c
    · rw [same]
      refine (readTagText_agree true [] c.skipBlanks).bind ?_
      rintro ⟨text, next⟩ _ ⟨rfl, passes'⟩
      refine .ite (by rw [Margin.cursor_rest, w.isSeparated_append]) (fun _ => ?_) fun _ => trivial
      exact ⟨rfl, (passes.trans (.skipWhile _ c)).trans passes'⟩
    · rw [readTagText_of_spent true spent, readTagText_of_spent (c := c.skipBlanks) true (Spent.of_nil done)]
      trivial

theorem readShorthand_agree (c : Cursor) :
    Agree (w.Same c) (readShorthand start c) (readShorthand start' (w.cursor c)) := by
  unfold readShorthand
  obtain same | ⟨done, spent⟩ := skipBlanks_cases (w := w) c
  · rw [same]
    refine .ite (not_congr (w.head?_cursor_eq_iff (by decide) _)) (fun _ => trivial) fun bang => ?_
    obtain ⟨same, passes⟩ := readHandle_same (w := w) (Margin.rest_ne_nil_of_head? (not_not.mp bang))
    rw [same]
    generalize readHandle c.skipBlanks = read at passes ⊢
    obtain ⟨handle, next⟩ := read
    refine .ite Iff.rfl (fun _ => trivial) fun _ => ?_
    have passes : Passes c next := ((Passes.skipWhile _ c).trans (.skip _)).trans passes
    exact readShorthandText_agree passes
  · have none_ : c.skipBlanks.head? ≠ some '!' := head?_ne_of_spent (by decide) (Spent.of_nil done)
    rw [if_pos none_, if_pos (head?_ne_of_spent (by decide) spent)]
    trivial

theorem readDirective_agree (more : c.rest ≠ []) :
    Agree (fun r s => s.1 = w.token r.1 ∧ w.Follows r.2 s.2 ∧ Passes c.skip r.2) (readDirective c)
      (readDirective (w.cursor c)) := by
  obtain ⟨same, passes⟩ := w.same_takeWhile visible_isNameChar c.skip
  unfold readDirective
  rw [w.skip_cursor more, same]
  generalize c.skip.takeWhile isNameChar = read at passes ⊢
  obtain ⟨name, next⟩ := read
  dsimp only at passes ⊢
  refine .ite Iff.rfl (fun _ => trivial) fun _ => ?_
  refine .ite (by rw [Margin.cursor_rest, w.isSeparated_append]) (fun _ => trivial) fun _ => ?_
  have finish : ∀ r s, w.Same next r s → Agree (fun r s => s.1 = w.token r.1 ∧ w.Follows r.2 s.2 ∧ Passes c.skip r.2)
      (if isBreakOrEnd r.2.skipBlanks.skipComment.rest then
        return ((⟨c.mark, r.1⟩ : Token), r.2.skipBlanks.skipComment.skipBreak)
        else fail .directive c.mark .noCommentOrBreak r.2.skipBlanks.skipComment)
      (if isBreakOrEnd s.2.skipBlanks.skipComment.rest then
        return ((⟨w.mark c.mark, s.1⟩ : Token), s.2.skipBlanks.skipComment.skipBreak)
        else fail .directive (w.mark c.mark) .noCommentOrBreak s.2.skipBlanks.skipComment) := by
    rintro ⟨symbol, last⟩ _ ⟨rfl, passes'⟩
    refine .ite (by rw [Margin.isBreakOrEnd_skipBlanks]) (fun _ => ?_) fun _ => trivial
    have follows : w.Follows last (w.cursor last) := .inl rfl
    exact ⟨rfl, ((follows.skipWhile _).skipComment).skipBreak,
      (((passes.trans passes').trans (.skipWhile _ last)).trans (.skipComment _)).trans (.skipBreak _)⟩
  refine .ite Iff.rfl (fun _ => ?_) fun _ => ?_
  · exact (readVersion_agree next).bind finish
  · refine .ite Iff.rfl (fun _ => ?_) fun _ => trivial
    exact (readShorthand_agree next).bind finish

end Blanks

end Frontmark.Yaml
