import Frontmark.Block.Reader
import Frontmark.Proofs.Inline.Lines

/-! Lines that open no block.

Main statement: lines of text and of the parts that can be in it are such lines (`IsLine.plain`). -/

set_option autoImplicit false

namespace Frontmark.Block

open Frontmark.Inline (IsLine IsPhrase isCodeChar isFirst isOrdinary isProse lineChars ne_of_isProse special)
open Frontmark.Text

/-- No recogniser of blocks finds what it looks for at the start of the line. -/
structure Plain (line : List Char) : Prop where
  visible : ∀ c ∈ line.head?, isSpaceOrTab c = false
  quote : line.head? ≠ some '>'
  heading : heading? line = none
  fence : fence? line = none
  html : ∀ inParagraph, html? inParagraph line = none
  underline : underline? line = none
  rule : isThematicBreak line = false
  footnote : footnote? line = none
  marker : ∀ inParagraph, marker? inParagraph line = none
  row : isDelimiterRow line = false

section Recognisers

variable {c : Char} {text : List Char}

theorem heading?_eq_none (other : c ≠ '#') : heading? (c :: text) = none := by
  simp [heading?, other]

theorem fence?_eq_none (tick : c ≠ '\x60') (tilde : c ≠ '~') : fence? (c :: text) = none := by
  simp [fence?, tick, tilde]

theorem fence?_tick_eq_none (short : text.head? ≠ some '\x60') : fence? ('\x60' :: text) = none := by
  have single : text.takeWhile (· = '\x60') = [] := by
    cases text with
    | nil => rfl
    | cons c text => exact List.takeWhile_cons_of_neg (by simpa using short)
  simp [fence?, single]

theorem html?_eq_none (other : c ≠ '<') (inParagraph : Bool) : html? inParagraph (c :: text) = none := by
  rw [html?]
  rintro rest same
  exact other (List.cons.inj same).1

theorem underline?_eq_none (equals : c ≠ '=') (hyphen : c ≠ '-') : underline? (c :: text) = none := by
  rw [underline?]
  · rintro rest same
    exact equals (List.cons.inj same).1
  · rintro rest same
    exact hyphen (List.cons.inj same).1

/-- Only three characters make breaks. -/
theorem isThematicBreak_eq_false {line : List Char} (member : c ∈ line) (other : c ∉ " \t\n*_-".toList) :
    isThematicBreak line = false := by
  have kept : c ∈ line.filter fun c => !(isSpaceOrTab c || c = '\n') := by
    refine List.mem_filter.mpr ⟨member, ?_⟩
    simp_all [isSpaceOrTab]
  rw [isThematicBreak]
  cases marks : line.filter fun c => !(isSpaceOrTab c || c = '\n') with
  | nil => rfl
  | cons mark marks' =>
    simp only
    rw [marks] at kept
    by_contra rule
    simp only [Bool.not_eq_false, Bool.and_eq_true, Bool.or_eq_true, List.all_eq_true, decide_eq_true_eq] at rule
    obtain rfl : c = mark := rule.2 c kept
    simp_all

theorem footnote?_eq_none (other : c = '[' → text.head? ≠ some '^') : footnote? (c :: text) = none := by
  rw [footnote?]
  rintro rest same
  obtain ⟨rfl, rfl⟩ := List.cons.inj same
  exact other rfl rfl

/-- Digits without a period or a parenthesis after them begin no item. -/
theorem marker?_eq_none (bullet : c ∉ "*-+".toList)
    (numbered : ∀ d ∈ ((c :: text).dropWhile isDigit).head?, d ≠ '.' ∧ d ≠ ')') (inParagraph : Bool) :
    marker? inParagraph (c :: text) = none := by
  have after : ∀ d ∈ ((c :: text).drop (((c :: text).takeWhile isDigit).take longestNumber).length).head?, d ≠ '.' ∧ d ≠ ')' := by
    generalize c :: text = line at numbered
    have cut : line.drop ((line.takeWhile isDigit).take longestNumber).length =
        (line.takeWhile isDigit).drop ((line.takeWhile isDigit).take longestNumber).length ++ line.dropWhile isDigit := by
      have short : ((line.takeWhile isDigit).take longestNumber).length ≤ (line.takeWhile isDigit).length := by
        rw [List.length_take]
        exact Nat.min_le_right _ _
      rw [← List.drop_append_of_le_length short, List.takeWhile_append_dropWhile]
    rw [cut]
    rintro d first
    cases more : (line.takeWhile isDigit).drop ((line.takeWhile isDigit).take longestNumber).length with
    | nil =>
      rw [more] at first
      exact numbered d first
    | cons e digits =>
      rw [more] at first
      obtain rfl : e = d := Option.some.inj first
      have member : e ∈ line.takeWhile isDigit := List.mem_of_mem_drop (more ▸ List.mem_cons_self)
      have digit : isDigit e = true := List.all_eq_true.mp List.all_takeWhile e member
      constructor <;> rintro rfl <;> exact absurd digit (by decide)
  simp only [String.reduceToList, List.mem_cons, List.not_mem_nil, or_false, not_or] at bullet
  rw [marker?]
  simp only [bullet, decide_false, Bool.or_self, Bool.false_eq_true, if_false]
  split
  · rename_i d rest whole
    rw [whole] at after
    simp [after d rfl]
  · rfl

theorem marker?_star_eq_none (more : ∀ c ∈ text.head?, isSpace c = false) (inParagraph : Bool) :
    marker? inParagraph ('*' :: text) = none := by
  have joins : markerEnds inParagraph text = false := by
    cases text with
    | nil => rfl
    | cons c text => simp [markerEnds, more c rfl]
  simp [marker?, joins]

theorem isDelimiterRow_eq_false (gap : isGap c = false) (other : c ∉ "|:-".toList) :
    isDelimiterRow (c :: text) = false := by
  simp only [String.reduceToList, List.mem_cons, List.not_mem_nil, or_false, not_or] at other
  have space : isRowSpace c = false := by rw [isRowSpace, gap]; rfl
  have none_ : skipDelimiterCell? (c :: text) = none := by simp [skipDelimiterCell?, space, other]
  simp [isDelimiterRow, delimitersEnd, none_, other]

end Recognisers

section Lines

variable {o : Options} {c : Char} {text : List Char}

theorem ne_of_isOrdinary {d : Char} (ordinary : isOrdinary c = true) (other : isOrdinary d = false) : c ≠ d := by
  rintro rfl
  rw [ordinary] at other
  cases other

theorem notMem_of_isOrdinary {marks : List Char} (ordinary : isOrdinary c = true)
    (others : ∀ d ∈ marks, isOrdinary d = false) : c ∉ marks :=
  fun member => ne_of_isOrdinary ordinary (others c member) rfl

theorem isSpaceOrTab_of_isBlank (visible : isBlank c = false) : isSpaceOrTab c = false := by
  have space : c ≠ ' ' := by rintro rfl; exact absurd visible (by decide)
  have tab : c ≠ '\t' := by rintro rfl; exact absurd visible (by decide)
  simp [isSpaceOrTab, space, tab]

theorem isSpace_of_isBlank (visible : isBlank c = false) : isSpace c = false := by
  have newline : c ≠ '\n' := by rintro rfl; exact absurd visible (by decide)
  have return_ : c ≠ '\r' := by rintro rfl; exact absurd visible (by decide)
  have space := isSpaceOrTab_of_isBlank visible
  simp only [isSpaceOrTab, Bool.or_eq_false_iff] at space
  simp [isSpace, space, newline, return_]

theorem isGap_of_isBlank (visible : isBlank c = false) : isGap c = false := by
  by_contra gap
  have blank : isBlank c = true := by
    simp only [isGap, Bool.not_eq_false, Bool.or_eq_true, Bool.and_eq_true, decide_eq_true_eq] at gap
    obtain rfl | ⟨first, last⟩ := gap
    · rfl
    · have first : 9 ≤ c.toNat := first
      have last : c.toNat ≤ 13 := last
      simp [isBlank, first, last]
  rw [blank] at visible
  cases visible

theorem isFirst_spec (first : isFirst c = true) : isBlank c = false ∧ c ∉ "#>~=-+|:\ufeff".toList := by
  simpa [isFirst] using first

/-- Nor does it make a break. -/
theorem notMem_breaks (prose : isProse o c = true) (first : isFirst c = true) : c ∉ " \t\n*_-".toList := by
  obtain ⟨visible, opener⟩ := isFirst_spec first
  have space := isSpaceOrTab_of_isBlank visible
  have other {d : Char} (member : d ∈ special) : c ≠ d := ne_of_isProse prose member
  have hyphen : c ≠ '-' := by
    rintro rfl
    exact opener (by decide)
  simp only [isSpaceOrTab, Bool.or_eq_false_iff, decide_eq_false_iff_not] at space
  simp only [String.reduceToList, List.mem_cons, List.not_mem_nil, or_false, not_or]
  exact ⟨space.1, space.2, other (by decide), other (by decide), other (by decide), hyphen⟩

theorem Plain.of_isFirst (prose : isProse o c = true) (first : isFirst c = true)
    (numbered : ∀ d ∈ ((c :: text).dropWhile isDigit).head?, d ≠ '.' ∧ d ≠ ')') : Plain (c :: text) := by
  obtain ⟨visible, opener⟩ := isFirst_spec first
  have ne {d : Char} (member : d ∈ "#>~=-+|:\ufeff".toList) : c ≠ d := by
    rintro rfl
    exact opener member
  have other {d : Char} (member : d ∈ special) : c ≠ d := ne_of_isProse prose member
  exact {
    visible := by rintro _ ⟨⟩; exact isSpaceOrTab_of_isBlank visible
    quote := fun same => ne (by decide) (Option.some.inj same)
    heading := heading?_eq_none (ne (by decide))
    fence := fence?_eq_none (other (by decide)) (ne (by decide))
    html := html?_eq_none (other (by decide))
    underline := underline?_eq_none (ne (by decide)) (ne (by decide))
    rule := isThematicBreak_eq_false List.mem_cons_self (notMem_breaks prose first)
    footnote := footnote?_eq_none fun same => absurd same (other (by decide))
    marker := marker?_eq_none (by simp [other (d := '*') (by decide), ne (d := '-') (by decide), ne (d := '+') (by decide)]) numbered
    row := isDelimiterRow_eq_false (isGap_of_isBlank visible)
      (by simp [ne (d := '|') (by decide), ne (d := ':') (by decide), ne (d := '-') (by decide)]) }

theorem Plain.star (more : ∀ c ∈ text.head?, isSpace c = false) (member : c ∈ text) (ordinary : isOrdinary c = true) :
    Plain ('*' :: text) where
  visible := by rintro _ ⟨⟩; decide
  quote := by simp
  heading := heading?_eq_none (by decide)
  fence := fence?_eq_none (by decide) (by decide)
  html := html?_eq_none (by decide)
  underline := underline?_eq_none (by decide) (by decide)
  rule := isThematicBreak_eq_false (.tail _ member) (notMem_of_isOrdinary ordinary (by decide +kernel))
  footnote := footnote?_eq_none nofun
  marker := marker?_star_eq_none more
  row := isDelimiterRow_eq_false (by decide) (by decide)

theorem Plain.tick (single : text.head? ≠ some '\x60') : Plain ('\x60' :: text) where
  visible := by rintro _ ⟨⟩; decide
  quote := by simp
  heading := heading?_eq_none (by decide)
  fence := fence?_tick_eq_none single
  html := html?_eq_none (by decide)
  underline := underline?_eq_none (by decide) (by decide)
  rule := isThematicBreak_eq_false List.mem_cons_self (by decide)
  footnote := footnote?_eq_none nofun
  marker := marker?_eq_none (by decide) (by rintro _ ⟨⟩; decide)
  row := isDelimiterRow_eq_false (by decide) (by decide)

theorem Plain.bracket (other : text.head? ≠ some '^') : Plain ('[' :: text) where
  visible := by rintro _ ⟨⟩; decide
  quote := by simp
  heading := heading?_eq_none (by decide)
  fence := fence?_eq_none (by decide) (by decide)
  html := html?_eq_none (by decide)
  underline := underline?_eq_none (by decide) (by decide)
  rule := isThematicBreak_eq_false List.mem_cons_self (by decide)
  footnote := footnote?_eq_none fun _ => other
  marker := marker?_eq_none (by decide) (by rintro _ ⟨⟩; decide)
  row := isDelimiterRow_eq_false (by decide) (by decide)

/-- Nor does an empty line. -/
theorem Plain.newline : Plain ['\n'] where
  visible := by rintro _ ⟨⟩; decide
  quote := by simp
  heading := by decide
  fence := by decide
  html := by decide
  underline := by decide
  rule := by decide
  footnote := by decide
  marker := by decide
  row := by decide

/-- A line of text as it is read. -/
def textLine (parts : List Inline.Part) : List Char :=
  lineChars parts ++ ['\n']

theorem numbered_line {parts : List Inline.Part} (line : IsLine o parts) :
    ∀ d ∈ ((textLine parts).dropWhile isDigit).head?, d ≠ '.' ∧ d ≠ ')' := by
  have number := line.number
  rw [textLine, List.dropWhile_append]
  cases rest : (lineChars parts).dropWhile isDigit with
  | nil => rintro _ ⟨⟩; decide
  | cons c more =>
    rw [rest] at number
    exact number

/-- After a marker at the start of a line there is a character with which no block goes on. -/
theorem plain_line {parts : List Inline.Part} (line : IsLine o parts) : Plain (textLine parts) := by
  have numbered := numbered_line line
  have first := line.first
  obtain ⟨p, parts, rfl⟩ := List.exists_cons_of_ne_nil line.nonempty
  have fits := line.fits p List.mem_cons_self
  have whole : textLine (p :: parts) = p.chars ++ textLine parts := by simp [textLine, lineChars]
  rw [whole] at numbered ⊢
  cases p with
  | text prose =>
    obtain ⟨c, prose, rfl⟩ := List.exists_cons_of_ne_nil fits.1
    exact .of_isFirst (fits.2.chars c List.mem_cons_self) (by simpa [lineChars, Inline.Part.chars] using first) numbered
  | emph phrase =>
    obtain ⟨c, more, rfl, visible, -⟩ := IsPhrase.exists_first fits
    obtain ⟨d, member, ordinary⟩ := fits.word
    have inside : d ∈ c :: more ++ ['*'] ++ textLine parts := by
      rw [List.append_assoc]
      exact List.mem_append_left _ member
    exact .star (by rintro _ ⟨⟩; exact isSpace_of_isBlank visible) inside ordinary
  | strong phrase =>
    obtain ⟨d, member, ordinary⟩ := fits.word
    exact .star (by rintro _ ⟨⟩; decide) (by simp [member]) ordinary
  | code literal =>
    obtain ⟨some_, -, chars⟩ := fits
    obtain ⟨c, literal, rfl⟩ := List.exists_cons_of_ne_nil some_
    have char : isCodeChar c = true := chars c List.mem_cons_self
    refine .tick fun same => ?_
    obtain rfl : c = '\x60' := Option.some.inj same
    simp [isCodeChar] at char
  | link url phrase =>
    obtain ⟨c, more, rfl, -⟩ := fits.1.exists_first
    exact .bracket fits.2.1

/-- A line is no break, even after a marker of a list. -/
theorem exists_mark_line {parts : List Inline.Part} (line : IsLine o parts) : ∃ c ∈ lineChars parts, c ∉ " \t\n*_-".toList := by
  have first := line.first
  obtain ⟨p, parts, rfl⟩ := List.exists_cons_of_ne_nil line.nonempty
  have fits := line.fits p List.mem_cons_self
  have own {c : Char} (member : c ∈ p.chars) : c ∈ lineChars (p :: parts) :=
    List.mem_flatMap.mpr ⟨p, List.mem_cons_self, member⟩
  cases p with
  | text prose =>
    obtain ⟨c, prose, rfl⟩ := List.exists_cons_of_ne_nil fits.1
    have begins : isFirst c = true := by simpa [lineChars, Inline.Part.chars] using first
    exact ⟨c, own List.mem_cons_self, notMem_breaks (fits.2.chars c List.mem_cons_self) begins⟩
  | emph phrase | strong phrase =>
    obtain ⟨c, member, ordinary⟩ := fits.word
    exact ⟨c, own (by simp [Inline.Part.chars, member]), notMem_of_isOrdinary ordinary (by decide +kernel)⟩
  | code => exact ⟨'\x60', own List.mem_cons_self, by decide⟩
  | link => exact ⟨'[', own List.mem_cons_self, by decide⟩

end Lines

section Definitions

variable {o : Options} {phrase rest : List Char}

theorem untilBracket_append (clear : ∀ c ∈ phrase, c ∉ "\\[]".toList) (passed : List Char) :
    Link.untilBracket passed (phrase ++ ']' :: rest) = (passed.reverse ++ phrase, ']' :: rest) := by
  induction phrase generalizing passed with
  | nil => simp [Link.untilBracket]
  | cons c phrase ih =>
    obtain ⟨other, others⟩ := List.forall_mem_cons.mp clear
    simp only [String.reduceToList, List.mem_cons, List.not_mem_nil, or_false, not_or] at other
    rw [List.cons_append, Link.untilBracket]
    · simp [other, ih others]
    · exact fun _ _ same => absurd same other.1

theorem label?_append (clear : ∀ c ∈ phrase, c ∉ "\\[]".toList) {found : List Char × List Char}
    (label : Link.label? ('[' :: (phrase ++ ']' :: rest)) = some found) : found.2 = rest := by
  rw [Link.label?, untilBracket_append clear] at label
  simp only [Option.ite_none_right_eq_some, Option.some.injEq] at label
  rw [← label.2]

/-- What is in brackets at the start of a line is the text of a link. -/
theorem definition?_line {parts : List Inline.Part} (line : IsLine o parts) :
    Link.definition? (lineChars parts ++ rest) = none := by
  obtain ⟨p, parts, rfl⟩ := List.exists_cons_of_ne_nil line.nonempty
  have fits := line.fits p List.mem_cons_self
  have whole : lineChars (p :: parts) ++ rest = p.chars ++ (lineChars parts ++ rest) := by simp [lineChars]
  rw [whole]
  cases p with
  | text prose =>
    cases prose with
    | nil => cases fits.1 rfl
    | cons c prose =>
      have other : c ≠ '[' := ne_of_isProse (fits.2.chars c List.mem_cons_self) (by decide)
      simp [Inline.Part.chars, Link.definition?, Link.label?, other]
  | emph | strong | code => rfl
  | link url phrase =>
    have clear : ∀ c ∈ phrase, c ∉ "\\[]".toList := by
      rintro c member inside
      exact Inline.ne_of_isProse (fits.1.chars c member) ((by decide : "\\[]".toList ⊆ Inline.special) inside) rfl
    have shape : (Inline.Part.link url phrase).chars ++ (lineChars parts ++ rest) =
        '[' :: (phrase ++ ']' :: '(' :: (url ++ [')'] ++ (lineChars parts ++ rest))) := by simp [Inline.Part.chars]
    rw [shape, Link.definition?]
    split
    · rename_i found
      cases label?_append clear found
    · rfl

end Definitions

end Frontmark.Block
